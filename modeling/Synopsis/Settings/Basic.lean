import Synopsis.Host
import Synopsis.Number

namespace Synopsis

/-- Files of the types in `extensions` are summarized; for those also in `exclusions` the summary
is kept in the index alone. -/
structure Settings where
  root : Path
  indexPath : Path
  force : Bool
  failFast : Bool
  prune : Bool
  extensions : List Text
  exclusions : List Text
  model : Text
  temperature : Number
  maxTokens : Option Int
  seed : Option Int
  prompt : Text

namespace Settings

def standard : Settings where
  root := ⟨.relative, []⟩
  indexPath := ⟨.relative, [".autosummary", "summary.json"]⟩
  force := false
  failFast := false
  prune := false
  extensions := [".ts", ".js", ".json", ".tsx", ".jsx", ".yaml", ".yml", ".sh"]
  exclusions := [".json"]
  model := "openai/gpt-4-turbo"
  temperature := .real 0.0
  maxTokens := some 1000
  seed := some 42
  prompt := "default"

/-- Where the index lies: a relative path starts from the root. -/
def index (s : Settings) (h : Host) : Except HomeFault Path := do
  let p ← h.expand s.indexPath
  if p.isAbsolute then return p
  return (← h.expand s.root) / p

end Settings

end Synopsis
