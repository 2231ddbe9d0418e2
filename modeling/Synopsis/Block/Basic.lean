import Synopsis.Block.Dialect
import Synopsis.Text.Blank
import Synopsis.Text.Lines

namespace Synopsis

/-- Lines around a block: those before its header, its body, and those after its footer. -/
structure Cut where
  before : List Text
  body : List Text
  after : List Text
  deriving DecidableEq

namespace Block

/-- Lines up to the first footer, and lines after it. -/
def upTo? (footer : Text) : List Text → Option (List Text × List Text)
  | [] => none
  | l :: r => if l = footer then some ([], r) else (upTo? footer r).map fun (b, a) => (l :: b, a)

/-- Takes the lines apart at the first header and the first footer. -/
def cut? (header footer : Text) : List Text → Option Cut
  | [] => none
  | l :: r =>
    if l = footer then none
    else if l = header then (upTo? footer r).map fun (body, after) => ⟨[], body, after⟩
    else (cut? header footer r).map fun c => { c with before := l :: c.before }

/-- Whether the lines hold a block. -/
def isIn (d : Dialect) (lines : List Text) : Bool := (cut? d.header d.footer lines).isSome

/-- What follows a given start. -/
def dropChars? : List Rune → List Rune → Option (List Rune)
  | [], cs => some cs
  | _ :: _, [] => none
  | p :: ps, c :: cs => if p = c then dropChars? ps cs else none

/-- A line that lacks the indent stays as it is. -/
def outdent (indent line : Text) : Text :=
  match dropChars? indent.toList line.toList with
  | some cs => .ofList cs
  | none => line

/-- The lines of the summary that a block holds. -/
def extract? (d : Dialect) (lines : List Text) : Option (List Text) :=
  (cut? d.header d.footer lines).map fun c => c.body.map (outdent d.indent)

/-- Takes a block out, its header and footer with it. -/
def remove (d : Dialect) (lines : List Text) : List Text :=
  match cut? d.header d.footer lines with
  | some c => c.before ++ c.after
  | none => lines

/-- The block that holds a summary. -/
def compose (d : Dialect) (summary : Text) : List Text :=
  d.header :: (Text.splitLines summary).map (d.indent ++ ·) ++ [d.footer]

/-- The line that names the interpreter of a script has to stay the first. -/
def isInterpreterLine (line : Text) : Bool := (dropChars? ['#', '!'] line.toList).isSome

def trimLast : List Text → List Text
  | [] => []
  | [l] => [Text.trim l]
  | l :: r => l :: trimLast r

/-- Trims the header and the footer of a block; the lines between keep their indent. -/
def trimEnds : List Text → List Text
  | [] => []
  | l :: r => trimLast (Text.trim l :: r)

/-- A blank line, unless one is already there. -/
def separator : List Text → List Text
  | [] => [""]
  | l :: _ => if Text.isBlank l then [] else [""]

/-- An interpreter line in front, and the other lines. -/
def takeInterpreter : List Text → List Text × List Text
  | [] => ([], [])
  | l :: r => if isInterpreterLine l then ([Text.trim l], r) else ([], l :: r)

/-- Puts a block in front of all lines but an interpreter line. -/
def place (block lines : List Text) : List Text :=
  let (head, rest) := takeInterpreter lines
  head ++ trimEnds block ++ separator rest ++ rest

def dropSeparator : List Text → List Text
  | [] => []
  | l :: r => if Text.isBlank l then r else l :: r

/-- Takes a block out together with the blank line behind it. -/
def strip? (d : Dialect) (lines : List Text) : Option (List Text) :=
  (cut? d.header d.footer lines).map fun c => c.before ++ dropSeparator c.after

end Block

end Synopsis
