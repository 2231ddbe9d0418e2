import Synopsis.Yaml.Node
import Synopsis.Yaml.Scalar

namespace Synopsis.Yaml

/-- A fault, and how deep it lies. -/
structure Deep where
  depth : Nat
  fault : Fault
  deriving DecidableEq

abbrev Outcome (α : Type) := Except Deep α

namespace Outcome

variable {α β : Type}

def both (a : Outcome α) (b : Outcome β) : Outcome (α × β) :=
  match a, b with
  | .ok a, .ok b => .ok (a, b)
  | .error f, .ok _ => .error f
  | .ok _, .error g => .error g
  | .error f, .error g => .error (if g.depth < f.depth then g else f)

def all : List (Outcome α) → Outcome (List α)
  | [] => .ok []
  | a :: r => (both a (all r)).map fun (a, r) => a :: r

/-- What lies one level deeper. -/
def below (a : Outcome α) : Outcome α := a.mapError fun f => { f with depth := f.depth + 1 }

def here (a : Except Fault α) : Outcome α := a.mapError fun f => ⟨0, f⟩

def malformed : Outcome α := .error ⟨0, .malformed⟩

end Outcome

/-- The type of a node: the one that its tag names, or else the one that its form speaks for. -/
def Node.tag : Node → Tag
  | .scalar (some name) _ _ => .ofName name
  | .scalar none plain text => if plain then .ofForm text else .text
  | .seq name _ => (name.map Tag.ofName).getD .list
  | .map name _ => (name.map Tag.ofName).getD .map

mutual

/-- The text of a node. A mapping stands for the text of its default. -/
def text? : Node → Option Text
  | .scalar _ _ text => some text
  | .seq .. => none
  | .map _ entries => defaultText? entries

def defaultText? : List (Node × Node) → Option Text
  | [] => none
  | e :: r => (entryText? e).getD (defaultText? r)

def entryText? : Node × Node → Option (Option Text)
  | (k, v) => if k.tag = .default then some (text? v) else none

end

/-- The value of a node of a type without parts. -/
def single (tag : Tag) (n : Node) : Outcome Datum :=
  match tag, n, text? n with
  | .time, .map .., some _ => .error ⟨0, .timeNotText⟩
  | tag, _, some text => .here (scalar tag text)
  | _, _, none => .malformed

/-- The key of an entry, given its value as a node. A key has no parts, and a default as a key
stands for its own text. -/
def keyOutcome (k : Node) (value : Outcome Datum) : Outcome Datum :=
  if k.tag.isCollection then .malformed
  else if k.tag = .default then single .text k
  else value

/-- A mapping from entries in order: the last value of a key counts, at the place of the first. -/
def mappingOf (entries : List (Datum × Datum)) : List (Datum × Datum) :=
  entries.foldl (fun m e => Datum.setEntry m e.1 e.2) []

/-- The entries of a mapping, those that it takes over in front of its own. -/
def gathered (merged : Option (List (Outcome Datum × Outcome Datum)))
    (own : List (Outcome Datum × Outcome Datum)) : Outcome (List (Datum × Datum)) :=
  match merged with
  | some merged => (Outcome.all ((merged ++ own).map fun (k, v) => k.both v)).map mappingOf
  | none => .malformed

mutual

def value : Node → Outcome Datum
  | .scalar name plain text =>
    let n := Node.scalar name plain text
    if n.tag.isCollection then Outcome.below .malformed else single n.tag n
  | .seq name items =>
    match (Node.seq name items).tag with
    | .list => Outcome.below ((Outcome.all (values items)).map .list)
    | .pairs => Outcome.below ((Outcome.all (pairValues items)).map .list)
    | tag => if tag.isCollection then Outcome.below .malformed else .malformed
  | .map name entries =>
    match (Node.map name entries).tag with
    | .map => Outcome.below ((gathered (merged? entries) (own entries)).map .map)
    | .set =>
      Outcome.below ((gathered (merged? entries) (own entries)).map fun m => .set (m.map Prod.fst))
    | tag =>
      if tag.isCollection then Outcome.below .malformed else single tag (.map name entries)

def values : List Node → List (Outcome Datum)
  | [] => []
  | n :: r => value n :: values r

/-- The pairs of an ordered mapping: mappings of one entry each. -/
def pairValues : List Node → List (Outcome Datum)
  | [] => []
  | n :: r => pairValue n :: pairValues r

def pairValue : Node → Outcome Datum
  | .map _ [e] => pairOf e
  | _ => .malformed

def pairOf : Node × Node → Outcome Datum
  | (k, v) => ((value k).both (value v)).map fun (k, v) => .list [k, v]

/-- The entries of a mapping that are its own. -/
def own : List (Node × Node) → List (Outcome Datum × Outcome Datum)
  | [] => []
  | e :: r => ownEntry e ++ own r

def ownEntry : Node × Node → List (Outcome Datum × Outcome Datum)
  | (k, v) => if k.tag = .merge then [] else [(keyOutcome k (value k), value v)]

/-- The entries that a mapping takes over from others, unless something else than a mapping is to be
taken over. -/
def merged? : List (Node × Node) → Option (List (Outcome Datum × Outcome Datum))
  | [] => some []
  | e :: r =>
    match mergedEntry? e, merged? r with
    | some entries, some rest => some (entries ++ rest)
    | _, _ => none

def mergedEntry? : Node × Node → Option (List (Outcome Datum × Outcome Datum))
  | (k, v) => if k.tag = .merge then source? v else some []

/-- The entries of a mapping or of several, of which an earlier one counts more than a later one. -/
def source? : Node → Option (List (Outcome Datum × Outcome Datum))
  | .scalar .. => none
  | .map _ entries => (merged? entries).map (· ++ own entries)
  | .seq _ items => sources? items

def sources? : List Node → Option (List (Outcome Datum × Outcome Datum))
  | [] => some []
  | .map _ entries :: r =>
    match merged? entries, sources? r with
    | some merged, some rest => some (rest ++ (merged ++ own entries))
    | _, _ => none
  | _ :: _ => none

end

/-- The value of a YAML text. An empty text holds nothing. -/
def read (s : Text) : Except Fault Datum :=
  match Node.read s with
  | .error f => .error f
  | .ok none => .ok .null
  | .ok (some n) => (value n).mapError Deep.fault

end Synopsis.Yaml
