import Synopsis.Host
import Synopsis.Text.Blank
import Synopsis.Tree.Basic

namespace Synopsis

structure Prompt where
  content : Text
  path : Path
  deriving DecidableEq

/-- Why a prompt cannot be had. -/
inductive PromptFault where
  | home (f : HomeFault)
  | file (f : Fault)
  | notFound (name : Text) (asPath : Path) (directories : List Path)
  | unreadable (f : ReadFault)
  | empty (path : Path)
  | unbalanced (path : Path) (opening closing : Nat)
  | lacks (path : Path) (sections : List Text)
  deriving DecidableEq

def PromptFault.message : PromptFault → Text
  | .home f => f.message
  | .file f => f.message
  | .notFound name asPath directories =>
    "Prompt '" ++ name ++ "' was not found. Checked " ++ asPath.text ++ " and search dirs: " ++
      Text.intercalate ", " (directories.map Path.text) ++ "."
  | .unreadable f => f.message
  | .empty path => "Prompt '" ++ path.text ++ "' is empty."
  | .unbalanced path opening closing =>
    "Prompt '" ++ path.text ++ "' has mismatched template braces: " ++ toString opening ++
      " '\x7b\x7b' vs " ++ toString closing ++ " '\x7d\x7d'."
  | .lacks path sections =>
    "Prompt '" ++ path.text ++ "' does not describe the required sections: " ++
      Text.intercalate ", " sections ++ "."

namespace Prompt

/-- The sections that every summary has to have. -/
def requiredSections : List Text :=
  ["Purpose", "Key Components", "Functional Overview", "Dependencies and Integrations",
    "Additional Context"]

/-- How often a character stands twice in a row; the pairs do not overlap. -/
def countPairs (c : Rune) : List Rune → Nat
  | [] => 0
  | [_] => 0
  | a :: b :: r => if a = c ∧ b = c then countPairs c r + 1 else countPairs c (b :: r)

def mentions (part : List Rune) : List Rune → Bool
  | [] => part.isEmpty
  | c :: r => part.isPrefixOf (c :: r) || mentions part r

/-- The directories that are searched, in their order. -/
def directories (h : Host) (own : Option Path) (further : List Path) :
    Except HomeFault (List Path) := do
  let first ← match own with
    | some p => do pure [← h.expand p]
    | none => pure []
  further.foldlM (fun dirs p => do
    let p ← h.expand p
    pure (if p ∈ dirs then dirs else dirs ++ [p])) (first ++ [h.bundledPrompts])

/-- The files that a name may stand for in a directory. -/
def variants (directory : Path) (name : Text) : List Path :=
  let full := if ('.' : Rune) ∈ name.toList then name else name ++ ".md"
  let plain :=
    if (".txt" : Text).toList.isSuffixOf full.toList then []
    else [directory / (name ++ ".txt" : Text)]
  directory / full :: plain

/-- The first path that leads to a file. -/
def firstFile (t : Tree) : List Path → Except Fault (Option Path)
  | [] => .ok none
  | p :: r =>
    match t.isFile p with
    | .error f => .error f
    | .ok true => .ok (some p)
    | .ok false => firstFile t r

/-- A name is tried as a path first, and then in each directory. -/
def resolve (h : Host) (t : Tree) (dirs : List Path) (name : Text) : Except PromptFault Path :=
  match h.expand (.ofText name) with
  | .error f => .error (.home f)
  | .ok asPath =>
    match firstFile t (asPath :: dirs.flatMap fun d => variants d name) with
    | .error f => .error (.file f)
    | .ok (some p) => .ok p
    | .ok none => .error (.notFound name asPath dirs)

def check (path : Path) (content : Text) : Except PromptFault Unit :=
  let opening := countPairs '\x7b' content.toList
  let closing := countPairs '\x7d' content.toList
  let lacking := requiredSections.filter fun s => !mentions s.toList content.toList
  if Text.isBlank content then .error (.empty path)
  else if opening ≠ closing then .error (.unbalanced path opening closing)
  else if lacking ≠ [] then .error (.lacks path lacking)
  else .ok ()

def load (h : Host) (t : Tree) (dirs : List Path) (name : Text) : Except PromptFault Prompt :=
  match resolve h t dirs name with
  | .error f => .error f
  | .ok path =>
    match t.readText path with
    | .error f => .error (.unreadable f)
    | .ok content =>
      match check path content with
      | .error f => .error f
      | .ok () => .ok ⟨Text.trim content, path⟩

end Prompt

end Synopsis
