import Synopsis.Json.Token
import Synopsis.Yaml.Cursor
import Synopsis.Yaml.Fault

namespace Synopsis.Yaml

def isNameChar (c : Rune) : Bool := c.isAlphanum || c = '-' || c = '_'

/-- What a line break and the empty lines after it stand for. -/
def fold (br : List Rune) (empty : List Rune) : List Rune :=
  (if br ≠ ([.char '\n'] : List Rune) then br else if empty = [] then [' '] else []) ++ empty

/-- Empty lines within a plain text. At a document mark the text is over. -/
def plainGap : (fuel : Nat) → Cursor → List Rune → Option (List Rune) × Cursor
  | 0, c, seen => (some seen.reverse, c)
  | fuel + 1, c, seen =>
    match c.rest with
    | ch :: _ =>
      if ch = ' ' then plainGap fuel c.next seen
      else if isBreak ch then
        let (br, c) := c.lineBreak
        if c.atDocumentMark then (none, c) else plainGap fuel c (br ++ seen)
      else (some seen.reverse, c)
    | [] => (some seen.reverse, c)

/-- What lies between two words of a plain text, and whether a line ended. -/
def plainSpace (c : Cursor) : List Rune × Bool × Cursor :=
  let spaces := c.run (· = (' ' : Rune))
  let c := c.skipSpaces
  match c.rest with
  | ch :: _ =>
    if isBreak ch then
      let (br, c) := c.lineBreak
      if c.atDocumentMark then ([], true, c)
      else
        match plainGap c.size c [] with
        | (some empty, c) => (fold br empty, true, c)
        | (none, c) => ([], true, c)
    else (spaces, false, c)
  | [] => (spaces, false, c)

/-- The length of a word of a plain text. -/
def plainWord (inFlow : Bool) : List Rune → Nat
  | [] => 0
  | ch :: r =>
    let stopsBefore (next : Option Rune) : Bool :=
      match next with
      | none => true
      | some n =>
        n = ' ' || n = '\t' || isBreak n ||
          (inFlow && n ∈ (",[]\x7b\x7d" : Text).toList)
    if ch = ' ' || ch = '\t' || isBreak ch || (ch = ':' && stopsBefore r.head?) ||
        (inFlow && ch ∈ (",?[]\x7b\x7d" : Text).toList)
    then 0
    else plainWord inFlow r + 1

/-- A plain text, whether a line ended at its end, and the place behind it. -/
def plain (inFlow : Bool) (indent : Int) :
    (fuel : Nat) → Cursor → (gap seen : List Rune) → (lineEnded : Bool) →
      List Rune × Bool × Cursor
  | 0, c, _, seen, lineEnded => (seen.reverse, lineEnded, c)
  | fuel + 1, c, gap, seen, lineEnded =>
    if c.rest.head? = some (.char '#') then (seen.reverse, lineEnded, c)
    else
      match plainWord inFlow c.rest with
      | 0 => (seen.reverse, lineEnded, c)
      | n =>
        let seen := (c.rest.take n).reverse ++ (gap.reverse ++ seen)
        let (gap, ended, c) := plainSpace (c.skip n)
        if gap = [] ∨ c.rest.head? = some (.char '#') ∨ (!inFlow ∧ (c.column : Int) < indent) then
          (seen.reverse, ended, c)
        else plain inFlow indent fuel c gap seen ended

/-- Empty lines within quotes. -/
def quotedBreaks : (fuel : Nat) → Cursor → List Rune → Option (List Rune × Cursor)
  | 0, _, _ => none
  | fuel + 1, c, seen =>
    if c.atDocumentMark then none
    else
      let c := c.skipRun fun ch => ch = ' ' || ch = '\t'
      match c.lineBreak with
      | ([], c) => some (seen.reverse, c)
      | (br, c) => quotedBreaks fuel c (br ++ seen)

/-- The characters that a backslash and one letter stand for. -/
def shortEscapes : List (Rune × Rune) :=
  [('0', '\x00'), ('a', '\x07'), ('b', '\x08'), ('t', '\t'), ('\t', '\t'), ('n', '\n'),
    ('v', '\x0B'), ('f', '\x0C'), ('r', '\r'), ('e', '\x1B'), (' ', ' '), ('"', '"'),
    ('\\', '\\'), ('/', '/'), ('N', '\x85'), ('_', '\xA0'), ('L', '\u2028'), ('P', '\u2029')]

def hexNumber? (cs : List Rune) : Option Nat :=
  cs.foldl (fun n c => n.bind fun n => (Json.hexValue? c).map (n * 16 + ·)) (some 0)

/-- The number of a character in hexadecimal digits, and how long it is. -/
def escapedNumber? (cs : List Rune) : Option (Nat × Nat) :=
  match cs with
  | [] => none
  | ch :: r =>
    let width := if ch = 'x' then 2 else if ch = 'u' then 4 else if ch = 'U' then 8 else 0
    if width = 0 ∨ r.length < width then none
    else (hexNumber? (r.take width)).map fun n => (n, width + 1)

/-- The code point of a number. -/
def characterOf (n : Nat) : Except Fault Rune :=
  if 0x80000000 ≤ n then .error .characterTooLarge
  else if 0x110000 ≤ n then .error .noCharacter
  else .ok (.ofNat n)

/-- What an escape stands for; the place is behind the backslash. -/
def escape (c : Cursor) : Except Fault (List Rune × Cursor) :=
  match c.rest with
  | [] => .error .malformed
  | ch :: _ =>
    match shortEscapes.lookup ch, escapedNumber? c.rest with
    | some out, _ => .ok ([out], c.next)
    | none, some (n, length) => (characterOf n).map fun r => ([r], c.skip length)
    | none, none =>
      if isBreak ch then
        let (_, c) := c.lineBreak
        match quotedBreaks (c.size + 1) c [] with
        | some found => .ok found
        | none => .error .malformed
      else .error .malformed

/-- The rest of a text between quotes. -/
def quotedText (double : Bool) :
    (fuel : Nat) → Cursor → List Rune → Except Fault (List Rune × Cursor)
  | 0, _, _ => .error .malformed
  | fuel + 1, c, seen =>
    match c.rest with
    | [] => .error .malformed
    | ch :: r =>
      if double then
        if ch = '"' then .ok (seen.reverse, c.next)
        else if ch = '\\' then
          match escape c.next with
          | .ok (cs, c) => quotedText double fuel c (cs.reverse ++ seen)
          | .error f => .error f
        else quotedSpace ch c seen fuel
      else if ch = '\'' then
        if r.head? = some (.char '\'') then quotedText double fuel (c.skip 2) ('\'' :: seen)
        else .ok (seen.reverse, c.next)
      else quotedSpace ch c seen fuel
where
  quotedSpace (ch : Rune) (c : Cursor) (seen : List Rune) (fuel : Nat) :
      Except Fault (List Rune × Cursor) :=
    if ch = ' ' || ch = '\t' || isBreak ch then
      let spaces := c.run fun ch => ch = ' ' || ch = '\t'
      let c := c.skip spaces.length
      if c.rest = [] then .error .malformed
      else
        match c.lineBreak with
        | ([], c) => quotedText double fuel c (spaces.reverse ++ seen)
        | (br, c) =>
          match quotedBreaks (c.size + 1) c [] with
          | some (empty, c) => quotedText double fuel c ((fold br empty).reverse ++ seen)
          | none => .error .malformed
    else quotedText double fuel c.next (ch :: seen)

/-- What happens to the line breaks at the end of a block. -/
inductive Chomp where
  | clip
  | strip
  | keep
  deriving DecidableEq

def chomp? : Rune → Option Chomp
  | '+' => some .keep
  | '-' => some .strip
  | _ => none

/-- The indentation that a block may state, from one to nine. -/
def depth? (c : Rune) : Option Nat :=
  if '1' ≤ c ∧ c ≤ '9' then some (c.toNat - '0'.toNat) else none

/-- The signs behind the mark of a block, in either order. -/
def blockSigns (cs : List Rune) : Chomp × Option Nat × Nat :=
  match cs with
  | [] => (.clip, none, 0)
  | a :: r =>
    match chomp? a, depth? a with
    | some h, _ =>
      match r.head?.bind depth? with
      | some d => (h, some d, 2)
      | none => (h, none, 1)
    | none, some d =>
      match r.head?.bind chomp? with
      | some h => (h, some d, 2)
      | none => (.clip, some d, 1)
    | none, none => (.clip, none, 0)

/-- Empty lines before the first line of a block, and the greatest indentation among them. -/
def blockIndent : (fuel : Nat) → Cursor → List Rune → Nat → List Rune × Nat × Cursor
  | 0, c, seen, deepest => (seen.reverse, deepest, c)
  | fuel + 1, c, seen, deepest =>
    match c.rest with
    | ' ' :: _ => blockIndent fuel c.next seen (max deepest c.next.column)
    | _ =>
      match c.lineBreak with
      | ([], c) => (seen.reverse, deepest, c)
      | (br, c) => blockIndent fuel c (br ++ seen) deepest

/-- Empty lines within a block, and the indentation of the line after them. -/
def blockBreaks (indent : Nat) : (fuel : Nat) → Cursor → List Rune → List Rune × Cursor
  | 0, c, seen => (seen.reverse, c)
  | fuel + 1, c, seen =>
    let c := c.skipSpacesTo indent
    match c.lineBreak with
    | ([], c) => (seen.reverse, c)
    | (br, c) => blockBreaks indent fuel c (br ++ seen)

def startsBlank (c : Cursor) : Bool :=
  match c.rest with
  | ch :: _ => ch = ' ' || ch = '\t'
  | [] => false

/-- The lines of a block, from its first on; `empty` holds the empty lines before. -/
def blockLines (folded : Bool) (chomp : Chomp) (indent : Nat) :
    (fuel : Nat) → Cursor → (seen empty br : List Rune) → List Rune × Cursor
  | 0, c, seen, _, _ => (seen.reverse, c)
  | fuel + 1, c, seen, empty, br =>
    if c.column = indent ∧ c.rest ≠ [] then
      let blankStart := startsBlank c
      let line := c.run fun ch => !isBreak ch
      let seen := line.reverse ++ (empty.reverse ++ seen)
      let (br, c) := (c.skip line.length).lineBreak
      let (empty, c) := blockBreaks indent c.size c []
      if c.column = indent ∧ c.rest ≠ [] then
        let joined : List Rune :=
          if folded ∧ br = ([.char '\n'] : List Rune) ∧ !blankStart ∧ !startsBlank c then
            if empty = [] then [' '] else []
          else br
        blockLines folded chomp indent fuel c (joined.reverse ++ seen) empty br
      else (finish seen empty br, c)
    else (finish seen empty br, c)
where
  finish (seen empty br : List Rune) : List Rune :=
    match chomp with
    | .strip => seen.reverse
    | .clip => seen.reverse ++ br
    | .keep => seen.reverse ++ br ++ empty

/-- A block, from behind its mark. -/
def block? (folded : Bool) (parentIndent : Int) (c : Cursor) : Option (List Rune × Cursor) :=
  let (chomp, depth, width) := blockSigns c.rest
  let c := c.skip width
  if !c.atLineEnd true then none
  else
    let c := c.skipSpaces.skipComment
    if !c.atLineEnd false then none
    else
      let c := c.lineBreak.2
      let least := (max (parentIndent + 1) 1).toNat
      let (empty, indent, c) :=
        match depth with
        | none =>
          let (empty, deepest, c) := blockIndent (c.size + 1) c [] 0
          (empty, max least deepest, c)
        | some d =>
          let indent := least + d - 1
          let (empty, c) := blockBreaks indent (c.size + 1) c []
          (empty, indent, c)
      some (blockLines folded chomp indent (c.size + 1) c [] empty [])

end Synopsis.Yaml
