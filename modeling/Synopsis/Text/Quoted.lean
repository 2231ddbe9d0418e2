import Synopsis.Text.Character
import Synopsis.Text.Units

namespace Synopsis.Text

/-- Double quotes enclose a text that holds a single quote and no double one. -/
def quoteFor (cs : List Rune) : Rune := if ('\'' : Rune) ∈ cs ∧ ('"' : Rune) ∉ cs then '"' else '\''

def escapeChar (quote c : Rune) : List Rune :=
  if c = quote ∨ c = '\\' then ['\\', c]
  else if c = '\n' then ['\\', 'n']
  else if c = '\r' then ['\\', 'r']
  else if c = '\t' then ['\\', 't']
  else if isPrintable c then [c]
  else
    let n := c.toNat
    if n < 0x100 then ("\\x" : Text).toList ++ (Utf8.hexDigits 2 n).toList
    else if n < 0x10000 then ("\\u" : Text).toList ++ (Utf8.hexDigits 4 n).toList
    else ("\\U" : Text).toList ++ (Utf8.hexDigits 8 n).toList

def quoted (s : Text) : Text :=
  let q := quoteFor s.toList
  .ofList (q :: s.toList.flatMap (escapeChar q) ++ [q])

end Synopsis.Text
