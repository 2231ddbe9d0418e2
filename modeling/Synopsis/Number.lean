import Synopsis.Decimal.Shortest
import Synopsis.Json.Basic

namespace Synopsis

/-- A number as it is sent: whole, or with a fraction. -/
inductive Number where
  | whole (n : Int)
  | real (x : Float)

namespace Number

def toJson : Number → Json
  | whole n => .int n
  | real x => .real x

/-- The number with a fraction that is nearest, unless it is infinite. -/
def toFloat? : Number → Option Float
  | whole n =>
    let x := Float.ofInt n
    if x.isInf then none else some x
  | real x => some x

/-- The whole part of a finite number, towards zero. -/
def wholePart (x : Float) : Int :=
  let bits := x.toBits.toNat
  let b := Decimal.Binary.ofBits (bits % Nat.pow 2 63)
  let magnitude := b.mantissa * Nat.pow 2 b.exponent.toNat / Nat.pow 2 (-b.exponent).toNat
  if bits ≥ Nat.pow 2 63 then -(magnitude : Int) else magnitude

/-- Compares a whole number with another one: `below` says on which side it has to be. -/
def compareWhole (below : Bool) (n : Int) (x : Float) : Bool :=
  if x.isNaN then false
  else if x.isInf then below == (0.0 < x)
  else
    let m := wholePart x
    if n ≠ m then below == decide (n < m)
    else if below then Float.ofInt m < x && n.natAbs < Nat.pow 2 53
    else x < Float.ofInt m && n.natAbs < Nat.pow 2 53

def isLess : Number → Number → Bool
  | whole m, whole n => m < n
  | real x, real y => x < y
  | whole n, real x => compareWhole true n x
  | real x, whole n => compareWhole false n x

/-- The lesser of two numbers; of two that cannot be told apart, the first. -/
def least (a b : Number) : Number := if b.isLess a then b else a

/-- The greater of two numbers; of two that cannot be told apart, the first. -/
def greatest (a b : Number) : Number := if a.isLess b then b else a

/-- Puts two numbers together, each kind in its own way. -/
def combine? (onWhole : Int → Int → Int) (onReal : Float → Float → Float) :
    Number → Number → Option Number
  | whole m, whole n => some (whole (onWhole m n))
  | a, b =>
    match a.toFloat?, b.toFloat? with
    | some x, some y => some (real (onReal x y))
    | _, _ => none

def times? : Number → Number → Option Number := combine? (· * ·) (· * ·)

def plus? : Number → Number → Option Number := combine? (· + ·) (· + ·)

/-- Two to a whole power, which has a fraction if the power is negative. -/
def twoToThe (power : Int) : Number :=
  if 0 ≤ power then whole (Nat.pow 2 power.toNat) else real (Float.scaleB 1.0 power)

end Number

end Synopsis
