import Synopsis.Text.Lines

namespace Synopsis

/-- Where a path starts. Exactly two slashes in front are kept apart from one. -/
inductive Anchor where
  | relative
  | root
  | doubleRoot
  deriving DecidableEq

structure Path where
  anchor : Anchor
  parts : List Text
  deriving DecidableEq

namespace Path

def anchorOf : List Rune → Anchor
  | '/' :: '/' :: '/' :: _ => .root
  | '/' :: '/' :: _ => .doubleRoot
  | '/' :: _ => .root
  | _ => .relative

def partsOf (cs : List Rune) : List Text :=
  ((Text.splitChars '/' cs).filter fun p => p ≠ [] ∧ p ≠ ([.char '.'] : List Rune)).map .ofList

/-- The path that a text names. Every text names one. -/
def ofText (s : Text) : Path := ⟨anchorOf s.toList, partsOf s.toList⟩

instance : Coe Text Path := ⟨ofText⟩

def anchorText : Anchor → Text
  | .relative => ""
  | .root => "/"
  | .doubleRoot => "//"

def text (p : Path) : Text :=
  if p.anchor = .relative ∧ p.parts = [] then "."
  else anchorText p.anchor ++ Text.intercalate "/" p.parts

def isAbsolute (p : Path) : Bool := p.anchor ≠ .relative

/-- An absolute path replaces what it is appended to. -/
def join (p q : Path) : Path :=
  if q.isAbsolute then q else { p with parts := p.parts ++ q.parts }

instance : HDiv Path Path Path := ⟨join⟩

instance : HDiv Path Text Path := ⟨fun p s => p.join (ofText s)⟩

def name (p : Path) : Text := p.parts.getLast?.getD ""

def parent (p : Path) : Path := { p with parts := p.parts.dropLast }

/-- From the last point of a name on, if that point is neither first nor last in it. -/
def suffixOfName (name : List Rune) : List Rune :=
  let tail := (name.reverse.takeWhile (· ≠ ('.' : Rune))).reverse
  if tail = [] ∨ tail.length + 1 ≥ name.length then [] else '.' :: tail

def suffix (p : Path) : Text := .ofList (suffixOfName p.name.toList)

/-- The type of a file, told by its path. -/
def extension (s : Text) : Text := (ofText s).suffix

end Path

end Synopsis
