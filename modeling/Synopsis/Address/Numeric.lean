import Synopsis.Json.Token
import Synopsis.Text.Lines

namespace Synopsis.Address

/-- How far a text may have come on the way through four runs of digits with any one character
between them. An odd place is within a run, an even one is in front of it. -/
def quadSteps (places : List Nat) (c : Rune) : List Nat :=
  (places.flatMap fun p =>
    if p % 2 = 0 then if c.isDigit then [p + 1] else []
    else (if c.isDigit then [p] else []) ++ if p < 7 then [p + 1] else []).eraseDups

/-- Whether a host has to be read as four numbers. -/
def looksLikeQuad (host : List Rune) : Bool := 7 ∈ host.foldl quadSteps [0]

/-- A byte in decimal, without zeros in front. -/
def isByte (cs : List Rune) : Bool :=
  cs ≠ [] && cs.all Rune.isDigit && cs.length ≤ 3 &&
    (cs = ([.char '0'] : List Rune) || cs.head? ≠ some (.char '0')) &&
    Decimal.natOfDigits (cs.map fun c => c.toNat - 48) < 256

def isQuad (host : List Rune) : Bool :=
  let parts := Text.splitChars '.' host
  parts.length = 4 && parts.all isByte

def isGroup (cs : List Rune) : Bool :=
  cs ≠ [] && cs.length ≤ 4 && cs.all fun c => (Json.hexValue? c).isSome

/-- The parts between colons; four bytes at the end make two groups. -/
def groupsOf? (cs : List Rune) : Option (List (List Rune)) :=
  let parts := Text.splitChars ':' cs
  let last := parts.getLast?.getD []
  if parts.length < 3 then none
  else if ('.' : Rune) ∉ last then some parts
  else if isQuad last then some (parts.dropLast ++ ([[.char '0'], [.char '0']] : List (List Rune)))
  else none

/-- Where groups are left out: the places of empty parts, apart from both ends. -/
def gaps (parts : List (List Rune)) : List Nat :=
  (List.range parts.length).filter fun i =>
    0 < i && i + 1 < parts.length && parts[i]? == some []

def isGroups (cs : List Rune) : Bool :=
  match groupsOf? cs with
  | none => false
  | some parts =>
    match gaps parts with
    | [] => parts.length = 8 && parts.all isGroup
    | [gap] =>
      let front := parts.take gap
      let back := parts.drop (gap + 1)
      let front := if front = [[]] then [] else front
      let back := if back = [[]] then [] else back
      parts.length ≤ 9 && front.length + back.length < 8 && (front ++ back).all isGroup
    | _ => false

/-- Groups may be followed by the name of a zone behind a percent sign. -/
def isGroupHost (cs : List Rune) : Bool :=
  match cs.dropWhile (· ≠ ('%' : Rune)) with
  | [] => isGroups cs
  | _ :: zone => zone ≠ [] && ('%' : Rune) ∉ zone && isGroups (cs.takeWhile (· ≠ ('%' : Rune)))

end Synopsis.Address
