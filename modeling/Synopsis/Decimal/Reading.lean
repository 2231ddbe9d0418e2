import Synopsis.Text.Blank
import Synopsis.Text.Quoted

namespace Synopsis

/-- The number `mantissa · 10 ^ exponent`, negated if `negative`. -/
structure Decimal where
  negative : Bool
  mantissa : Nat
  exponent : Int
  deriving DecidableEq

namespace Decimal

def natOfDigits (ds : List Nat) : Nat := ds.foldl (fun n d => 10 * n + d) 0

/-- The digits in front of a text, and what follows them. -/
def digitRun (afterDigit : Bool) : List Rune → List Nat × List Rune
  | [] => ([], [])
  | c :: r =>
    match Text.digitValue? c with
    | some d =>
      let (ds, rest) := digitRun true r
      (d :: ds, rest)
    | none =>
      if c = '_' ∧ afterDigit ∧ (r.head?.bind Text.digitValue?).isSome then digitRun false r
      else ([], c :: r)

/-- Takes a sign, and says whether it is negative. -/
def sign : List Rune → Bool × List Rune
  | '-' :: r => (true, r)
  | '+' :: r => (false, r)
  | r => (false, r)

def fraction : List Rune → List Nat × List Rune
  | '.' :: r => digitRun false r
  | r => ([], r)

/-- The exponent after an `e`; without the letter it is zero. -/
def exponent? : List Rune → Option Int
  | [] => some 0
  | c :: r =>
    if c = 'e' ∨ c = 'E' then
      let (negative, r) := sign r
      match digitRun false r with
      | ([], _) => none
      | (ds, []) => some (if negative then -(natOfDigits ds : Int) else natOfDigits ds)
      | _ => none
    else none

def ofChars? (cs : List Rune) : Option Decimal :=
  let (negative, cs) := sign cs
  let (whole, cs) := digitRun false cs
  let (part, cs) := fraction cs
  if whole = [] ∧ part = [] then none
  else (exponent? cs).map fun e => ⟨negative, natOfDigits (whole ++ part), e - part.length⟩

/-- The nearest floating-point number, infinite above the greatest. -/
def toFloat (d : Decimal) : Float :=
  let order := d.exponent + (Nat.toDigits 10 d.mantissa).length
  let magnitude : Float :=
    if d.mantissa = 0 ∨ order < -330 then 0.0
    else if order > 310 then 1.0 / 0.0
    else .ofScientific d.mantissa (d.exponent < 0) d.exponent.natAbs
  if d.negative then -magnitude else magnitude

end Decimal

/-- What may surround a number: the white space of Unicode, without the separators U+001C to
U+001F. -/
def Decimal.isSpace (c : Rune) : Bool :=
  Text.isBlankChar c && !(0x1C ≤ c.toNat && c.toNat ≤ 0x1F)

def Decimal.withoutSpaces (cs : List Rune) : List Rune :=
  ((cs.dropWhile isSpace).reverse.dropWhile isSpace).reverse

/-- Why a text is not read as an integer in a base. -/
inductive IntFault where
  | malformed (base : Nat) (text : Text)
  | tooLong (digits : Nat)
  deriving DecidableEq

/-- Decimal integers of more digits are not read. -/
def digitLimit : Nat := 4300

def IntFault.message : IntFault → Text
  | malformed base text =>
    "invalid literal for int() with base " ++ toString base ++ ": " ++
      .ofList ((Text.quoted text).toList.take 200)
  | tooLong digits =>
    "Exceeds the limit (" ++ toString digitLimit ++ " digits) for integer string conversion: " ++
      "value has " ++ toString digits ++ " digits; use sys.set_int_max_str_digits() to " ++
      "increase the limit"

/-- An integer between spaces, with an optional sign. -/
def readInt (s : Text) : Except IntFault Int :=
  let (negative, cs) := Decimal.sign (Decimal.withoutSpaces s.toList)
  match Decimal.digitRun false cs with
  | ([], _) => .error (.malformed 10 s)
  | (_, '_' :: _) => .error (.malformed 10 s)
  | (ds, rest) =>
    if digitLimit < ds.length then .error (.tooLong ds.length)
    else if rest ≠ [] then .error (.malformed 10 s)
    else .ok (if negative then -(Decimal.natOfDigits ds : Int) else Decimal.natOfDigits ds)

/-- A digit of a base up to sixteen. -/
def digitIn? (base : Nat) (c : Rune) : Option Nat :=
  let letter : Option Nat :=
    if 'a' ≤ c.toLower ∧ c.toLower ≤ 'f' then some (c.toLower.toNat - 'a'.toNat + 10) else none
  ((Text.digitValue? c).or letter).filter (· < base)

/-- The letter that may stand behind a zero in front of the digits of a base. -/
def baseLetter? : Nat → Option Rune
  | 2 => some 'b'
  | 8 => some 'o'
  | 16 => some 'x'
  | _ => none

def withoutBase (base : Nat) : List Rune → List Rune
  | '0' :: c :: r => if some c.toLower = baseLetter? base then r else '0' :: c :: r
  | cs => cs

/-- An integer between spaces, with an optional sign, in a base that is a power of two. -/
def readIntIn (base : Nat) (s : Text) : Except IntFault Int :=
  let (negative, cs) := Decimal.sign (Decimal.withoutSpaces s.toList)
  let digits := withoutBase base cs
  match digits.mapM (digitIn? base) with
  | none => .error (.malformed base s)
  | some [] => .error (.malformed base s)
  | some ds =>
    let n := ds.foldl (fun n d => base * n + d) 0
    .ok (if negative then -(n : Int) else n)

/-- A number between spaces. It may also be infinite or undefined, in any case of letters. -/
def readFloat? (s : Text) : Option Float :=
  let cs := Decimal.withoutSpaces s.toList
  let (negative, word) := Decimal.sign cs
  let name := Text.ofList (word.map Rune.toLower)
  if name = "inf" ∨ name = "infinity" then some (if negative then -1.0 / 0.0 else 1.0 / 0.0)
  else if name = "nan" then some (0.0 / 0.0)
  else (Decimal.ofChars? cs).map Decimal.toFloat

end Synopsis
