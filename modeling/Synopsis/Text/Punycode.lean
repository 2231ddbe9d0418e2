import Synopsis.Text.Basic

namespace Synopsis.Text.Punycode

/-- Digits in base 36. -/
def digit (n : Nat) : Rune :=
  if n < 26 then Char.ofNat ('a'.toNat + n) else Char.ofNat ('0'.toNat + (n - 26))

/-- From which digit on a place is not the last one of a distance. -/
def threshold (place bias : Nat) : Nat := min 26 (max 1 (place - bias))

/-- The digits of a distance, the lowest first. There are at most as many as `fuel`. -/
def distance (bias : Nat) : (fuel place n : Nat) → List Rune
  | 0, _, _ => []
  | fuel + 1, place, n =>
    let t := threshold place bias
    if n < t then [digit n]
    else digit (t + (n - t) % (36 - t)) :: distance bias fuel (place + 36) ((n - t) / (36 - t))

/-- How often a distance is divided by 35 until it is small, and what is left. -/
def divided : (fuel n times : Nat) → Nat × Nat
  | 0, n, times => (n, times)
  | fuel + 1, n, times => if 455 < n then divided fuel (n / 35) (times + 1) else (n, times)

/-- The bias after a distance, the `count`-th in all. -/
def adapt (distance count : Nat) (first : Bool) : Nat :=
  let n := if first then distance / 700 else distance / 2
  let (n, times) := divided n (n + n / count) 0
  36 * times + 36 * n / (n + 38)

/-- What is written so far, and where in the count the next distance starts. -/
structure Progress where
  written : List Rune
  gap : Nat
  bias : Nat
  count : Nat
  first : Bool

/-- Passes one character of the text in the round of a code point. -/
def pass (point : Nat) (p : Progress) (c : Rune) : Progress :=
  if c.toNat < point then { p with gap := p.gap + 1 }
  else if c.toNat = point then
    { written := p.written ++ distance p.bias (p.gap + 1) 36 p.gap
      gap := 0
      bias := adapt p.gap (p.count + 1) p.first
      count := p.count + 1
      first := false }
  else p

/-- The rounds of some code points in their order; `next` is the code point that the count has
reached. -/
def rounds (text : List Rune) : (points : List Nat) → (next : Nat) → Progress → Progress
  | [], _, p => p
  | point :: r, next, p =>
    let p := { p with gap := p.gap + (point - next) * (p.count + 1) }
    let p := text.foldl (pass point) p
    rounds text r (point + 1) { p with gap := p.gap + 1 }

def encode (text : List Rune) : List Rune :=
  let plain := text.filter fun c => c.toNat < 0x80
  let others := (text.map Rune.toNat).filter fun n => 0x80 ≤ n
  let points := (others.mergeSort (· ≤ ·)).eraseDups
  let start : Progress := ⟨[], 0, 72, plain.length, true⟩
  (if plain = [] then [] else plain ++ (['-'] : List Rune)) ++
    (rounds text points 0x80 start).written

end Synopsis.Text.Punycode
