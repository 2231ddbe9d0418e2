import Synopsis.Index.Document
import Synopsis.Tree.Change

namespace Synopsis

/-- Why an index cannot be loaded: its file cannot be looked at, or holds more than can be read, or
does not hold an index. -/
inductive IndexFault where
  | file (f : Fault)
  | unreadable (path : Path) (f : ReadFault)
  | excessive (f : Json.Fault)
  | notJson (path : Path)
  | flawed (path : Path) (flaw : Index.Flaw)
  deriving DecidableEq

namespace IndexFault

def wording (path : Path) (reason : Text) : Text :=
  "Summary cache '" ++ path.text ++ "' is unreadable: " ++ reason

def message : IndexFault → Text
  | file f => f.message
  | unreadable path f => wording path f.message
  | excessive f => f.message
  | notJson path => wording path ("invalid JSON (" ++ Json.Fault.malformed.message ++ ")")
  | flawed path flaw => wording path flaw.message

end IndexFault

namespace Index

/-- The index in a file, and whether there is such a file. -/
def load (t : Tree) (path : Path) : Except IndexFault (Index × Bool) :=
  match t.isFile path with
  | .error f => .error (.file f)
  | .ok false => .ok ([], false)
  | .ok true =>
    match t.readText path with
    | .error f => .error (.unreadable path f)
    | .ok text =>
      match Json.read text with
      | .error .malformed => .error (.notJson path)
      | .error f => .error (.excessive f)
      | .ok v =>
        match ofJson v with
        | .error flaw => .error (.flawed path flaw)
        | .ok index => .ok (index, true)

/-- Stores entries, and makes the directories that the file is to lie in. -/
def store (t : Tree) (path : Path) (entries : List Entry) : Except WriteFault Unit × Tree :=
  match t.makeDirs path.parent with
  | (.error f, t) => (.error (.file f), t)
  | (.ok (), t) => t.replaceText path (documentText entries)

end Index

end Synopsis
