import Synopsis.Text.Basic

namespace Synopsis.Text.Base64

def digit (n : Nat) : Rune :=
  if n < 26 then Char.ofNat ('A'.toNat + n)
  else if n < 52 then Char.ofNat ('a'.toNat + (n - 26))
  else if n < 62 then Char.ofNat ('0'.toNat + (n - 52))
  else if n = 62 then '+'
  else '/'

/-- The first digits of a number of 24 bits. -/
def digits (count n : Nat) : List Rune :=
  ([n / Nat.pow 2 18, n / Nat.pow 2 12 % 64, n / Nat.pow 2 6 % 64, n % 64].take count).map digit

def encode : List UInt8 → List Rune
  | [] => []
  | [a] => digits 2 (a.toNat * Nat.pow 2 16) ++ (['=', '='] : List Rune)
  | [a, b] => digits 3 (a.toNat * Nat.pow 2 16 + b.toNat * Nat.pow 2 8) ++ (['='] : List Rune)
  | a :: b :: c :: r =>
    digits 4 (a.toNat * Nat.pow 2 16 + b.toNat * Nat.pow 2 8 + c.toNat) ++ encode r

/-- The six bits that a character stands for. -/
def value? (c : Rune) : Option Nat :=
  let n := c.toNat
  if c.isUpper then some (n - 'A'.toNat)
  else if c.isLower then some (n - 'a'.toNat + 26)
  else if c.isDigit then some (n - '0'.toNat + 52)
  else if c = '+' then some 62
  else if c = '/' then some 63
  else none

/-- Reads on with the digits of an unfinished group, the last one first, and the number of equals
signs behind them. All other characters do not count, nor does what follows a finished end. -/
def decodeFrom : List Nat → Nat → List Rune → Option (List UInt8)
  | [], _, [] => some []
  | _ :: _, _, [] => none
  | group, filled, c :: r =>
    if c = '=' then
      if group.length < 2 then decodeFrom group filled r
      else if group.length + filled < 3 then decodeFrom group (filled + 1) r
      else some []
    else
      match value? c, group with
      | none, _ => decodeFrom group filled r
      | some d, [] => decodeFrom [d] 0 r
      | some d, [a] => (decodeFrom [d, a] 0 r).map (.ofNat (a * 4 + d / 16) :: ·)
      | some d, [b, a] => (decodeFrom [d, b, a] 0 r).map (.ofNat (b % 16 * 16 + d / 4) :: ·)
      | some d, c :: _ => (decodeFrom [] 0 r).map (.ofNat (c % 4 * 64 + d) :: ·)

def decode? (cs : List Rune) : Option (List UInt8) := decodeFrom [] 0 cs

end Synopsis.Text.Base64
