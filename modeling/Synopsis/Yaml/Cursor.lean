import Synopsis.Text.Basic

namespace Synopsis.Yaml

def isBreak (c : Rune) : Bool :=
  c = '\n' || c = '\r' || c = '\x85' || c = '\u2028' || c = '\u2029'

/-- The `size` is that of the whole text. -/
structure Cursor where
  rest : List Rune
  size : Nat
  index : Nat
  line : Nat
  column : Nat

namespace Cursor

def ofText (s : Text) : Cursor := ⟨s.toList, s.length, 0, 0, 0⟩

def peek? (c : Cursor) (n : Nat) : Option Rune := c.rest[n]?

/-- Whether a blank, a line break or the end comes at a distance. -/
def endsAt (c : Cursor) (n : Nat) : Bool :=
  match c.peek? n with
  | none => true
  | some ch => ch = ' ' || ch = '\t' || isBreak ch

/-- Whether a line break or the end comes next, leaving out spaces if they may. -/
def atLineEnd (c : Cursor) (spaces : Bool) : Bool :=
  match c.rest with
  | [] => true
  | ch :: _ => isBreak ch || (spaces && ch = ' ')

/-- Steps over one character. A byte order mark takes no column. -/
def next (c : Cursor) : Cursor :=
  match c.rest with
  | [] => c
  | ch :: r =>
    let c := { c with rest := r, index := c.index + 1 }
    if isBreak ch && !(ch = '\r' && r.head? = some (.char '\n')) then
      { c with line := c.line + 1, column := 0 }
    else { c with column := if ch = '\uFEFF' then c.column else c.column + 1 }

def skip (c : Cursor) : Nat → Cursor
  | 0 => c
  | n + 1 => c.next.skip n

/-- The characters in front that pass a test. -/
def run (c : Cursor) (test : Rune → Bool) : List Rune := c.rest.takeWhile test

def skipRun (c : Cursor) (test : Rune → Bool) : Cursor := c.skip (c.run test).length

def skipSpaces (c : Cursor) : Cursor := c.skipRun (· = (' ' : Rune))

/-- Steps over spaces, but not beyond a column. -/
def skipSpacesTo (c : Cursor) (column : Nat) : Cursor :=
  c.skip (min (column - c.column) (c.run (· = (' ' : Rune))).length)

def skipComment (c : Cursor) : Cursor :=
  if c.rest.head? = some (.char '#') then c.skipRun fun ch => !isBreak ch else c

/-- Steps over a line break, and says what it counts as: most count as a line feed. -/
def lineBreak (c : Cursor) : List Rune × Cursor :=
  match c.rest with
  | '\r' :: '\n' :: _ => (['\n'], c.skip 2)
  | ch :: _ =>
    if ch = '\u2028' ∨ ch = '\u2029' then ([ch], c.next)
    else if isBreak ch then (['\n'], c.next)
    else ([], c)
  | [] => ([], c)

/-- Whether the line starts with three dashes or three points that stand alone. -/
def atDocumentMark (c : Cursor) : Bool :=
  let mark := c.rest.take 3
  (mark = ("---" : Text).toList || mark = ("..." : Text).toList) && c.endsAt 3

end Cursor

end Synopsis.Yaml
