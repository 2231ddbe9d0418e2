import Synopsis.Keyed

namespace Synopsis

inductive Node where
  | file (content : List UInt8) (mode : Nat)
  | dir (entries : List (Text × Node))
  deriving Inhabited

abbrev Location := List Text

namespace Node

def isDir : Node → Bool
  | .dir _ => true
  | .file .. => false

def isFile : Node → Bool
  | .file .. => true
  | .dir _ => false

/-- Whether its owner may read a file of this mode. -/
def mayRead (mode : Nat) : Bool := mode.testBit 8

/-- Whether its owner may write to a file of this mode. -/
def mayWrite (mode : Nat) : Bool := mode.testBit 7

/-- What lies at a location. -/
def get? : Node → Location → Option Node
  | n, [] => some n
  | .file .., _ :: _ => none
  | .dir entries, name :: r =>
    match Keyed.get? entries name with
    | some child => child.get? r
    | none => none

/-- Sets the node at a location whose directory is there; otherwise nothing changes. -/
def set : Node → Location → Node → Node
  | _, [], new => new
  | .file content mode, _ :: _, _ => .file content mode
  | .dir entries, [name], new => .dir (Keyed.set entries name new)
  | .dir entries, name :: r, new =>
    match Keyed.get? entries name with
    | some child => .dir (Keyed.set entries name (child.set r new))
    | none => .dir entries

/-- Takes away what lies at a location. -/
def erase : Node → Location → Node
  | n, [] => n
  | .file content mode, _ :: _ => .file content mode
  | .dir entries, [name] => .dir (Keyed.erase entries name)
  | .dir entries, name :: r =>
    match Keyed.get? entries name with
    | some child => .dir (Keyed.set entries name (child.erase r))
    | none => .dir entries

/-- Sets the node at a location and makes the directories that lead there. -/
def plant : Node → Location → Node → Node
  | _, [], new => new
  | .file .., name :: r, new => .dir [(name, plant (.dir []) r new)]
  | .dir entries, name :: r, new =>
    .dir (Keyed.set entries name (plant ((Keyed.get? entries name).getD (.dir [])) r new))

mutual

/-- Where the files below a node lie. Only directories whose names are accepted are entered. -/
def files (enter : Text → Bool) : Node → List Location
  | .file .. => []
  | .dir entries => filesOf enter entries

def filesOf (enter : Text → Bool) : List (Text × Node) → List Location
  | [] => []
  | e :: r => filesAt enter e ++ filesOf enter r

def filesAt (enter : Text → Bool) : Text × Node → List Location
  | (name, .file ..) => [[name]]
  | (name, .dir entries) => if enter name then (filesOf enter entries).map (name :: ·) else []

end

end Node

end Synopsis
