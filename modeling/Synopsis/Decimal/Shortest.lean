import Synopsis.Text.Basic

namespace Synopsis.Decimal

/-- The number `mantissa · 2 ^ exponent`. All reals that round to it lie at most two quarters of
`2 ^ exponent` above it and at most `below` quarters below it. -/
structure Binary where
  mantissa : Nat
  exponent : Int
  below : Nat
  deriving DecidableEq

/-- The magnitude of a finite number, from its encoding. -/
def Binary.ofBits (bits : Nat) : Binary :=
  let e : Nat := bits / Nat.pow 2 52 % 2048
  let f : Nat := bits % Nat.pow 2 52
  if e = 0 then ⟨f, -1074, 2⟩
  else ⟨Nat.pow 2 52 + f, (e : Int) - 1075, if f = 0 ∧ e > 1 then 1 else 2⟩

/-- A point `digits · 10 ^ exponent` of a decimal grid. -/
structure Point where
  digits : Nat
  exponent : Int
  deriving DecidableEq

/-- `x` quarters of the unit of `b`, counted on the grid of step `10 ^ step`: numerator and
denominator. -/
def Binary.onGrid (b : Binary) (step : Int) (x : Nat) : Nat × Nat :=
  let e := b.exponent - 2
  (x * Nat.pow 2 e.toNat * Nat.pow 10 (-step).toNat, Nat.pow 2 (-e).toNat * Nat.pow 10 step.toNat)

/-- The order of magnitude: the least `p` with the number below `10 ^ p`. -/
def Binary.order (b : Binary) : Int :=
  let (n, d) := b.onGrid 0 (4 * b.mantissa)
  if n ≥ d then (Nat.toDigits 10 (n / d)).length
  else
    match (List.range 400).find? fun z => n * Nat.pow 10 z ≥ d with
    | some z => 1 - (z : Int)
    | none => 0

/-- The point of a grid that reads back as the number: of two the nearer, of two equally near the
even one. -/
def Binary.hit? (b : Binary) (step : Int) : Option Point :=
  let (value, d) := b.onGrid step (4 * b.mantissa)
  let low := (b.onGrid step (4 * b.mantissa - b.below)).1
  let high := (b.onGrid step (4 * b.mantissa + 2)).1
  let inside (k : Nat) : Bool :=
    if b.mantissa % 2 = 0 then low ≤ k * d && k * d ≤ high else low < k * d && k * d < high
  let k := value / d
  let down := value - k * d
  let up := (k + 1) * d - value
  let preferUp := up < down || (up == down && k % 2 == 1)
  if inside k && !(preferUp && inside (k + 1)) then some ⟨k, step⟩
  else if inside (k + 1) then some ⟨k + 1, step⟩
  else none

def Binary.shortest (b : Binary) : Point :=
  let p := b.order
  match (List.range 17).findSome? fun n : Nat => b.hit? (p - 1 - n) with
  | some point => point
  | none => ⟨0, 0⟩

/-- When a number is written without an exponent, and how many digits an exponent has at least. -/
structure Layout where
  positionalFrom : Int
  positionalBelow : Int
  exponentWidth : Nat
  deriving DecidableEq

def zeros (n : Int) : List Char := List.replicate n.toNat '0'

def exponentText (width : Nat) (e : Int) : List Char :=
  let ds := Nat.toDigits 10 e.natAbs
  (if e < 0 then '-' else '+') :: zeros (width - ds.length) ++ ds

/-- Trailing zeros of the digits are dropped; a point with at least one digit on either side stands
in every number without an exponent. -/
def Point.text (layout : Layout) (p : Point) : List Char :=
  let all := Nat.toDigits 10 p.digits
  let ds := (all.reverse.dropWhile (· = '0')).reverse
  let place := p.exponent + all.length
  if ds = [] then ['0', '.', '0']
  else if layout.positionalFrom ≤ place - 1 ∧ place - 1 < layout.positionalBelow then
    if place ≤ 0 then '0' :: '.' :: zeros (-place) ++ ds
    else if place ≥ ds.length then ds ++ zeros (place - ds.length) ++ ['.', '0']
    else ds.take place.toNat ++ '.' :: ds.drop place.toNat
  else
    ds.take 1 ++ (if ds.length = 1 then [] else '.' :: ds.drop 1) ++
      'e' :: exponentText layout.exponentWidth (place - 1)

/-- Infinity and the undefined number have names instead of digits. -/
def floatText (layout : Layout) (x : Float) : Text :=
  let bits := x.toBits.toNat
  let negative := bits ≥ Nat.pow 2 63
  let magnitude := bits % Nat.pow 2 63
  if magnitude > 2047 * Nat.pow 2 52 then "nan"
  else
    let cs :=
      if magnitude = 2047 * Nat.pow 2 52 then "inf".toList
      else (Binary.ofBits magnitude).shortest.text layout
    .ofChars (if negative then '-' :: cs else cs)

end Synopsis.Decimal
