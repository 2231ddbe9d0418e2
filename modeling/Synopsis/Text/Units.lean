import Synopsis.Text.Utf8

namespace Synopsis.Text

/-- The width of a unit. Wider ones come with the high byte first or last. -/
inductive Units where
  | singles
  | pairs (highFirst : Bool)
  | quads (highFirst : Bool)
  deriving DecidableEq

namespace Units

/-- The unit that the zeros among the first bytes speak for. -/
def ofZeros : List UInt8 → Units
  | a :: b :: c :: d :: _ =>
    if a = 0 then if b = 0 then .quads true else .pairs true
    else if b = 0 then if c = 0 ∧ d = 0 then .quads false else .pairs false
    else .singles
  | [a, b] => if a = 0 then .pairs true else if b = 0 then .pairs false else .singles
  | _ => .singles

/-- The unit of a text, and the bytes behind its mark. -/
def detect (bytes : List UInt8) : Units × List UInt8 :=
  match bytes with
  | 0x00 :: 0x00 :: 0xFE :: 0xFF :: r => (.quads true, r)
  | 0xFF :: 0xFE :: 0x00 :: 0x00 :: r => (.quads false, r)
  | 0xFE :: 0xFF :: r => (.pairs true, r)
  | 0xFF :: 0xFE :: r => (.pairs false, r)
  | 0xEF :: 0xBB :: 0xBF :: r => (.singles, r)
  | _ => (ofZeros bytes, bytes)

def number (highFirst : Bool) (bytes : List UInt8) : Nat :=
  (if highFirst then bytes else bytes.reverse).foldl (fun n b => n * 256 + b.toNat) 0

def isPair (m n : Nat) : Bool := 0xD800 ≤ m && m < 0xDC00 && 0xDC00 ≤ n && n < 0xE000

/-- The character of two halves. -/
def joined (m n : Nat) : Char := Char.ofNat (0x10000 + (m - 0xD800) * 0x400 + (n - 0xDC00))

/-- The code points that some numbers stand for, two halves for one. -/
def characters : List Nat → List Rune
  | [] => []
  | [n] => [.ofNat n]
  | m :: n :: r =>
    if isPair m n then joined m n :: characters r else .ofNat m :: characters (n :: r)

/-- Half of a character at the start of bytes of UTF-8. -/
def half? : List UInt8 → Option Nat
  | 0xED :: b :: c :: _ =>
    if 0xA0 ≤ b ∧ b < 0xC0 ∧ 0x80 ≤ c ∧ c < 0xC0 then
      some (0xD000 + (b.toNat - 0x80) * 64 + (c.toNat - 0x80))
    else none
  | _ => none

/-- Reads UTF-8 in which halves of characters may stand, each for itself. The bytes since the last
half are kept backwards. -/
def singles? (seen bytes : List UInt8) : Option (List Rune) :=
  match bytes with
  | [] => (Utf8.decode seen.reverse).toOption.map Text.toList
  | b :: r =>
    match half? (b :: r) with
    | none => singles? (b :: seen) r
    | some n =>
      (Utf8.decode seen.reverse).toOption.bind fun front =>
        (singles? [] (r.drop 2)).map fun behind => front.toList ++ .ofNat n :: behind
termination_by bytes.length
decreasing_by
  all_goals simp only [List.length_cons, List.length_drop]
  all_goals omega

/-- The numbers in units of two bytes. -/
def pairs? (highFirst : Bool) : List UInt8 → Option (List Nat)
  | [] => some []
  | a :: b :: r => (pairs? highFirst r).map (number highFirst [a, b] :: ·)
  | [_] => none

/-- The numbers in units of four bytes, none of them beyond the last character. -/
def quads? (highFirst : Bool) : List UInt8 → Option (List Nat)
  | [] => some []
  | a :: b :: c :: d :: r =>
    let n := number highFirst [a, b, c, d]
    if 0x110000 ≤ n then none else (quads? highFirst r).map (n :: ·)
  | _ => none

/-- The text that some bytes hold in these units. -/
def read? : Units → List UInt8 → Option Text
  | .singles, bytes => (singles? [] bytes).map .ofList
  | .pairs highFirst, bytes => (pairs? highFirst bytes).map fun ns => .ofList (characters ns)
  | .quads highFirst, bytes => (quads? highFirst bytes).map fun ns => .ofList (ns.map .ofNat)

end Units

end Synopsis.Text
