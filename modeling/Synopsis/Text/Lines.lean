import Synopsis.Text.Basic

namespace Synopsis.Text

/-- Cuts at every separator; there is one part more than there are separators. -/
def splitChars (sep : Rune) : List Rune → List (List Rune)
  | [] => [[]]
  | c :: r =>
    if c = sep then [] :: splitChars sep r
    else
      match splitChars sep r with
      | [] => [[c]]
      | l :: ls => (c :: l) :: ls

def joinChars (sep : Rune) : List (List Rune) → List Rune
  | [] => []
  | [l] => l
  | l :: ls => l ++ sep :: joinChars sep ls

/-- There is always at least one line, and a final line feed leaves an empty one behind it. -/
def splitLines (s : Text) : List Text := (splitChars '\n' s.toList).map .ofList

def joinLines (ls : List Text) : Text := .ofList (joinChars '\n' (ls.map Text.toList))

theorem splitChars_ne_nil (sep : Rune) (cs : List Rune) : splitChars sep cs ≠ [] := by
  cases cs with
  | nil => simp [splitChars]
  | cons c r =>
    unfold splitChars
    split
    · simp
    · split <;> simp

theorem joinChars_splitChars (sep : Rune) (cs : List Rune) :
    joinChars sep (splitChars sep cs) = cs := by
  induction cs with
  | nil => rfl
  | cons c r ih =>
    unfold splitChars
    cases h : splitChars sep r with
    | nil => exact absurd h (splitChars_ne_nil sep r)
    | cons l ls =>
      rw [h] at ih
      by_cases hc : c = sep
      · simp [hc, joinChars, ih]
      · cases ls <;> simp_all [joinChars]

theorem joinLines_splitLines (s : Text) : joinLines (splitLines s) = s := by
  have h : (Text.toList ∘ Text.ofList) = id := by
    funext cs
    simp
  simp [joinLines, splitLines, List.map_map, h, joinChars_splitChars]

/-- A line feed alone, or a carriage return and a line feed. -/
inductive LineBreak where
  | lf
  | crlf
  deriving DecidableEq

def hasCrlf : List Rune → Bool
  | [] => false
  | '\r' :: '\n' :: _ => true
  | _ :: r => hasCrlf r

def lfOfCrlf : List Rune → List Rune
  | [] => []
  | '\r' :: '\n' :: r => '\n' :: lfOfCrlf r
  | c :: r => c :: lfOfCrlf r

def crlfOfLf (cs : List Rune) : List Rune :=
  cs.flatMap fun c : Rune => if c = '\n' then ['\r', '\n'] else [c]

/-- Turns every kind of line break into a line feed: both characters of a pair together, and a
carriage return on its own. -/
def lfOfAny : List Rune → List Rune
  | [] => []
  | '\r' :: '\n' :: r => '\n' :: lfOfAny r
  | c :: r => (if c = '\r' then '\n' else c) :: lfOfAny r

namespace LineBreak

/-- One pair anywhere makes the whole text count as written with pairs. -/
def ofText (s : Text) : LineBreak := if hasCrlf s.toList then .crlf else .lf

/-- Writes a text of line feeds with this line break. -/
def apply : LineBreak → Text → Text
  | .lf, s => s
  | .crlf, s => .ofList (crlfOfLf s.toList)

/-- Reads a text with this line break as a text of line feeds. -/
def undo : LineBreak → Text → Text
  | .lf, s => s
  | .crlf, s => .ofList (lfOfCrlf s.toList)

end LineBreak

end Synopsis.Text
