import Synopsis.Path
import Synopsis.Tree.Fault
import Synopsis.Tree.Node

namespace Synopsis

/-- New files get all rights to read and write but those of the `mask`. -/
structure Tree where
  top : Node
  here : Location
  mask : Nat

namespace Tree

/-- Names are limited in bytes, not in characters. -/
def nameLimit : Nat := 255

/-- The limit of a whole path. -/
def pathLimit : Nat := 4095

/-- What keeps a path from being looked at, whatever the tree holds. -/
def obstacle? (p : Path) : Option Refusal :=
  match Text.Encoding.path.fault? p.text with
  | some f => some (.unnameable (.encoding f))
  | none =>
    if p.parts.any fun part => ('\x00' : Rune) ∈ part.toList then some (.unnameable .nul)
    else if pathLimit < p.text.fileSize then some .nameTooLong
    else none

/-- One step along a path. -/
def enter (top : Node) (place : Location) (part : Text) : Except Refusal Location :=
  match top.get? place with
  | some (.dir entries) =>
    if part = ".." then .ok place.dropLast
    else if nameLimit < part.fileSize then .error .nameTooLong
    else
      match Keyed.get? entries part with
      | some _ => .ok (place ++ [part])
      | none => .error .missing
  | some (.file ..) => .error .notDirectory
  | none => .error .missing

def walk (top : Node) (place : Location) : List Text → Except Refusal Location
  | [] => .ok place
  | part :: r =>
    match enter top place part with
    | .ok next => walk top next r
    | .error e => .error e

def start (t : Tree) (p : Path) : Location := if p.isAbsolute then [] else t.here

/-- Where a path leads to. -/
def locate (t : Tree) (p : Path) : Except Refusal Location :=
  match obstacle? p with
  | some e => .error e
  | none => walk t.top (t.start p) p.parts

/-- The file or directory that a path leads to. -/
def look (t : Tree) (p : Path) : Except Refusal Node :=
  match t.locate p with
  | .ok loc =>
    match t.top.get? loc with
    | some n => .ok n
    | none => .error .missing
  | .error e => .error e

/-- What a path leads to, if anything. Only a refusal that does not tell is an error. -/
def look? (t : Tree) (p : Path) : Except Fault (Option Node) :=
  match t.look p with
  | .ok n => .ok (some n)
  | .error .missing => .ok none
  | .error .notDirectory => .ok none
  | .error (.unnameable _) => .ok none
  | .error e => .error (.of e p.text)

def isFile (t : Tree) (p : Path) : Except Fault Bool :=
  (t.look? p).map fun n => (n.map Node.isFile).getD false

def isDir (t : Tree) (p : Path) : Except Fault Bool :=
  (t.look? p).map fun n => (n.map Node.isDir).getD false

def readBytes (t : Tree) (p : Path) : Except Fault (List UInt8) :=
  match t.look p with
  | .ok (.file content mode) =>
    if Node.mayRead mode then .ok content else .error (.of .denied p.text)
  | .ok (.dir _) => .error (.of .isDirectory p.text)
  | .error e => .error (.of e p.text)

/-- The text of a file, with its line breaks as they are. -/
def readExact (t : Tree) (p : Path) : Except ReadFault Text :=
  match t.readBytes p with
  | .ok bytes => (Utf8.decode bytes).mapError .encoding
  | .error f => .error (.file f)

/-- The text of a file, with every line break a line feed. -/
def readText (t : Tree) (p : Path) : Except ReadFault Text :=
  (t.readExact p).map fun s => .ofList (Text.lfOfAny s.toList)

/-- The path from the top that a text of a path stands for: parts that lead up are resolved
without a look at the tree. -/
def absolute (t : Tree) (p : Path) : Path :=
  let up (parts : List Text) (part : Text) : List Text :=
    if part = ".." then parts.dropLast else parts ++ [part]
  if p.isAbsolute then { p with parts := p.parts.foldl up [] }
  else ⟨.root, p.parts.foldl up t.here⟩

end Tree

end Synopsis
