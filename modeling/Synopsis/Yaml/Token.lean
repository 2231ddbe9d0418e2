import Synopsis.Yaml.Text

namespace Synopsis.Yaml

inductive Token where
  | version (major : Nat)
  | handle (name start : Text)
  | directive
  | documentStart
  | documentEnd
  | streamEnd
  | blockSequence
  | blockMapping
  | blockEnd
  | flowSequence
  | flowSequenceEnd
  | flowMapping
  | flowMappingEnd
  | flowEntry
  | blockEntry
  | key
  | value
  | alias (name : Text)
  | anchor (name : Text)
  | tag (handle : Option Text) (rest : Text)
  | scalar (plain : Bool) (text : Text)
  deriving DecidableEq

/-- A place where a key may have begun: before the token of this number. A key that is required has
to be followed by its colon. -/
structure Candidate where
  position : Nat
  required : Bool
  index : Nat
  line : Nat
  column : Nat

/-- `candidates` holds at most one candidate for each depth of flow collections. The tokens so far
are kept backwards, and `count` is their number. -/
structure Scanner where
  cursor : Cursor
  depth : Nat
  indent : Int
  outer : List Int
  keyAllowed : Bool
  candidates : List (Nat × Candidate)
  tokens : List Token
  count : Nat

namespace Scanner

def push (s : Scanner) (t : Token) : Scanner :=
  { s with tokens := t :: s.tokens, count := s.count + 1 }

def insertAt (s : Scanner) (position : Nat) (t : Token) : Scanner :=
  let later := s.count - position
  { s with
    tokens := s.tokens.take later ++ t :: s.tokens.drop later
    count := s.count + 1 }

/-- Gives up the candidate of the present depth. -/
def dropCandidate (s : Scanner) : Option Scanner :=
  match s.candidates.lookup s.depth with
  | some c =>
    if c.required then none
    else some { s with candidates := s.candidates.filter fun e => e.1 ≠ s.depth }
  | none => some s

/-- A key lies on one line and within 1024 characters. -/
def dropStale (s : Scanner) : Option Scanner :=
  let stale (c : Candidate) : Bool :=
    c.line ≠ s.cursor.line || s.cursor.index - c.index > 1024
  if s.candidates.any fun e => stale e.2 && e.2.required then none
  else some { s with candidates := s.candidates.filter fun e => !stale e.2 }

def saveCandidate (s : Scanner) : Option Scanner :=
  if s.keyAllowed then
    s.dropCandidate.map fun s =>
      let c : Candidate :=
        ⟨s.count, s.depth = 0 ∧ s.indent = s.cursor.column, s.cursor.index, s.cursor.line,
          s.cursor.column⟩
      { s with candidates := (s.depth, c) :: s.candidates }
  else some s

/-- Closes the block collections that are indented deeper than a column. -/
def unwind (s : Scanner) (column : Int) : Scanner :=
  if s.depth ≠ 0 then s else go s s.outer
where
  go (s : Scanner) : List Int → Scanner
    | [] => s
    | i :: r =>
      if s.indent > column then go { s.push .blockEnd with indent := i, outer := r } r else s

/-- Opens a block collection if a column is indented deeper than the present one. -/
def openBlock (s : Scanner) (column position : Nat) (t : Token) : Scanner :=
  if s.indent < (column : Int) then
    { s.insertAt position t with indent := column, outer := s.indent :: s.outer }
  else s

/-- Steps over blanks, comments and line breaks. A new line may begin with a key. -/
def skipToToken : (fuel : Nat) → Scanner → Scanner
  | 0, s => s
  | fuel + 1, s =>
    let c := s.cursor.skipSpaces.skipComment
    match c.lineBreak with
    | ([], c) => { s with cursor := c }
    | (_, c) =>
      skipToToken fuel { s with cursor := c, keyAllowed := s.keyAllowed || s.depth = 0 }

def forward (s : Scanner) (n : Nat) : Scanner := { s with cursor := s.cursor.skip n }

def streamEnd (s : Scanner) : Option Scanner :=
  (s.unwind (-1)).dropCandidate.map fun s => s.push .streamEnd

def isTagChar (c : Rune) : Bool :=
  c.isAlphanum || c ∈ ("-;/?:@&=+$,_.!~*'()[]%" : Text).toList

/-- The bytes of a part of a tag. Two hexadecimal digits behind a percent sign stand for one. -/
def tagBytes? : List Rune → Option (List UInt8)
  | [] => some []
  | '%' :: a :: b :: r => do return .ofNat (← hexNumber? [a, b]) :: (← tagBytes? r)
  | c :: r => if c = '%' then none else (tagBytes? r).map (Utf8.encodeChar c ++ ·)

/-- A part of a tag. -/
def tagText? (c : Cursor) : Option (Text × Cursor) := do
  let word := c.run isTagChar
  if word = [] then none
  return (← (Utf8.decode (← tagBytes? word)).toOption, c.skip word.length)

/-- The handle of a tag: an exclamation mark, or a name between two of them. -/
def tagHandle? (c : Cursor) : Option (Text × Cursor) :=
  if c.rest.head? ≠ some (.char '!') then none
  else if c.peek? 1 = some (.char ' ') then some ("!", c.next)
  else
    let word := c.next.run isNameChar
    if c.peek? (word.length + 1) = some (.char '!') then
      some (.ofList (.char '!' :: word ++ [('!' : Rune)]), c.skip (word.length + 2))
    else none

/-- The version of the language that a document is written in, of two numbers. -/
def versionOf (c : Cursor) : Option (Token × Cursor) :=
  let c := c.skipSpaces
  let major := c.run Rune.isDigit
  let c := c.skip major.length
  let minor := c.next.run Rune.isDigit
  if major = [] ∨ c.rest.head? ≠ some (.char '.') ∨ minor = [] then none
  else some (.version (Decimal.natOfDigits (major.map fun d => d.toNat - 48)),
    c.next.skip minor.length)

/-- What a document lets a tag handle stand for. -/
def handleOf (c : Cursor) : Option (Token × Cursor) := do
  let (name, c) ← tagHandle? c.skipSpaces
  if c.rest.head? ≠ some (.char ' ') then none
  let (start, c) ← tagText? c.skipSpaces
  return (.handle name start, c)

/-- A line that tells how to read the document. What it is about may be unknown. -/
def directive (s : Scanner) : Option Scanner := do
  let s ← (s.unwind (-1)).dropCandidate
  let c := s.cursor.next
  let name := c.run isNameChar
  let c := c.skip name.length
  if name = [] ∨ !c.atLineEnd true then none
  let (t, c) ←
    if name = ("YAML" : Text).toList then versionOf c
    else if name = ("TAG" : Text).toList then handleOf c
    else some (.directive, c.skipRun fun ch => !isBreak ch)
  if !c.atLineEnd true then none
  let c := c.skipSpaces.skipComment
  if !c.atLineEnd false then none
  some { { s with cursor := c }.push t with keyAllowed := false }

def documentMark (s : Scanner) (t : Token) : Option Scanner :=
  (s.unwind (-1)).dropCandidate.map fun s =>
    { (s.forward 3).push t with keyAllowed := false }

def openFlow (s : Scanner) (t : Token) : Option Scanner :=
  s.saveCandidate.map fun s =>
    { (s.forward 1).push t with depth := s.depth + 1, keyAllowed := true }

def closeFlow (s : Scanner) (t : Token) : Option Scanner :=
  if s.depth = 0 then none
  else
    s.dropCandidate.map fun s =>
      { (s.forward 1).push t with depth := s.depth - 1, keyAllowed := false }

def flowEntry (s : Scanner) : Option Scanner :=
  s.dropCandidate.map fun s => { (s.forward 1).push .flowEntry with keyAllowed := true }

def blockEntry (s : Scanner) : Option Scanner :=
  if s.depth ≠ 0 ∨ !s.keyAllowed then none
  else
    (s.openBlock s.cursor.column s.count .blockSequence).dropCandidate.map fun s =>
      { (s.forward 1).push .blockEntry with keyAllowed := true }

def explicitKey (s : Scanner) : Option Scanner :=
  if s.depth = 0 ∧ !s.keyAllowed then none
  else
    let s := if s.depth = 0 then s.openBlock s.cursor.column s.count .blockMapping else s
    s.dropCandidate.map fun s => { (s.forward 1).push .key with keyAllowed := s.depth = 0 }

def value (s : Scanner) : Option Scanner :=
  match s.candidates.lookup s.depth with
  | some c =>
    let s := { s with candidates := s.candidates.filter fun e => e.1 ≠ s.depth }
    let s := s.insertAt c.position .key
    let s := if s.depth = 0 then s.openBlock c.column c.position .blockMapping else s
    some { (s.forward 1).push .value with keyAllowed := false }
  | none =>
    if s.depth = 0 ∧ !s.keyAllowed then none
    else
      let s := if s.depth = 0 then s.openBlock s.cursor.column s.count .blockMapping else s
      s.dropCandidate.map fun s => { (s.forward 1).push .value with keyAllowed := s.depth = 0 }

/-- The name of an anchor, to be given or to be followed. -/
def name (s : Scanner) (t : Text → Token) : Option Scanner := do
  let s ← s.saveCandidate
  let c := s.cursor.next
  let word := c.run isNameChar
  let c := c.skip word.length
  let stops := c.endsAt 0 ||
    (c.rest.head?.any fun ch => ch ∈ ("?:,]\x7d%@\x60" : Text).toList)
  if word = [] ∨ !stops then none
  some { { s with cursor := c }.push (t (.ofList word)) with keyAllowed := false }

/-- A tag: in full between angles, or after a handle that stands for its first part. -/
def tag (s : Scanner) : Option Scanner := do
  let s ← s.saveCandidate
  let c := s.cursor
  let (t, c) ←
    if c.peek? 1 = some (.char '<') then
      let (name, c) ← tagText? (c.skip 2)
      if c.rest.head? ≠ some (.char '>') then none
      else some (Token.tag none name, c.next)
    else if c.endsAt 1 then some (Token.tag none "!", c.next)
    else
      let (handle, c) ←
        if ('!' : Rune) ∈ c.next.run fun ch => ch ≠ ' ' && !isBreak ch then tagHandle? c
        else some ("!", c.next)
      let (rest, c) ← tagText? c
      some (Token.tag (some handle) rest, c)
  if !c.atLineEnd true then none
  some { { s with cursor := c }.push t with keyAllowed := false }

def blockText (s : Scanner) (folded : Bool) : Option Scanner := do
  let s ← s.dropCandidate
  let (cs, c) ← block? folded s.indent s.cursor.next
  some { { s with cursor := c }.push (.scalar false (.ofList cs)) with keyAllowed := true }

def quoted (s : Scanner) (double : Bool) : Except Fault Scanner :=
  match s.saveCandidate with
  | none => .error .malformed
  | some s =>
    let c := s.cursor.next
    (quotedText double (2 * c.size + 2) c []).map fun (cs, c) =>
      { { s with cursor := c }.push (.scalar false (.ofList cs)) with keyAllowed := false }

def plainText (s : Scanner) : Option Scanner :=
  s.saveCandidate.map fun s =>
    let (cs, lineEnded, c) :=
      plain (s.depth ≠ 0) (s.indent + 1) (s.cursor.size + 1) s.cursor [] [] false
    { { s with cursor := c }.push (.scalar true (.ofList cs)) with keyAllowed := lineEnded }

/-- Whether a plain text may begin here. -/
def startsPlain (s : Scanner) (ch : Rune) : Bool :=
  if ch ∈ ("-?:" : Text).toList then
    !s.cursor.endsAt 1 && (ch = '-' || s.depth = 0)
  else ch ∉ ("\t,[]\x7b\x7d#&*!|>'\"%@\x60" : Text).toList

/-- The next token, unless it is a text between quotes. -/
def unquoted (s : Scanner) : Option Scanner :=
  let c := s.cursor
  match c.rest with
  | [] => s.streamEnd
  | ch :: _ =>
    if ch = '%' ∧ c.column = 0 then s.directive
    else if ch = '-' ∧ c.column = 0 ∧ c.atDocumentMark then s.documentMark .documentStart
    else if ch = '.' ∧ c.column = 0 ∧ c.atDocumentMark then s.documentMark .documentEnd
    else if ch = '[' then s.openFlow .flowSequence
    else if ch = '\x7b' then s.openFlow .flowMapping
    else if ch = ']' then s.closeFlow .flowSequenceEnd
    else if ch = '\x7d' then s.closeFlow .flowMappingEnd
    else if ch = ',' then s.flowEntry
    else if ch = '-' ∧ c.endsAt 1 then s.blockEntry
    else if ch = '?' ∧ (s.depth ≠ 0 ∨ c.endsAt 1) then s.explicitKey
    else if ch = ':' ∧ (s.depth ≠ 0 ∨ c.endsAt 1) then s.value
    else if ch = '*' then s.name .alias
    else if ch = '&' then s.name .anchor
    else if ch = '!' then s.tag
    else if ch = '|' ∧ s.depth = 0 then s.blockText false
    else if ch = '>' ∧ s.depth = 0 then s.blockText true
    else if s.startsPlain ch then s.plainText
    else none

/-- The next token, with those that it brings along. -/
def step (s : Scanner) : Except Fault Scanner :=
  match (skipToToken (s.cursor.size + 1) s).dropStale with
  | none => .error .malformed
  | some s =>
    let s := s.unwind s.cursor.column
    if s.cursor.rest.head? = some (.char '\'') then s.quoted false
    else if s.cursor.rest.head? = some (.char '"') then s.quoted true
    else
      match s.unquoted with
      | some s => .ok s
      | none => .error .malformed

def run : (fuel : Nat) → Scanner → Except Fault (List Token)
  | 0, _ => .error .malformed
  | fuel + 1, s =>
    match s.step with
    | .error f => .error f
    | .ok s =>
      if s.tokens.head? = some .streamEnd then .ok s.tokens.reverse else run fuel s

end Scanner

/-- The characters that a YAML text may hold. -/
def isAllowed (c : Rune) : Bool :=
  let n := c.toNat
  n == 0x09 || n == 0x0A || n == 0x0D || (0x20 ≤ n && n ≤ 0x7E) || n == 0x85 ||
    (0xA0 ≤ n && n ≤ 0xFFFD) || 0x10000 ≤ n

def tokens (s : Text) : Except Fault (List Token) :=
  if !s.toList.all isAllowed then .error .malformed
  else
    let c := Cursor.ofText s
    let c := if c.rest.head? = some (.char '\uFEFF') then c.next else c
    Scanner.run (s.toList.length + 2) ⟨c, 0, -1, [], true, [], [], 0⟩

end Synopsis.Yaml
