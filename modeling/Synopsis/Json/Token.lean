import Synopsis.Decimal.Reading
import Synopsis.Json.Basic
import Synopsis.Text.Units

namespace Synopsis.Json

/-- An `overlong` number is whole and has more digits than are read. -/
inductive Token where
  | openObject
  | closeObject
  | openArray
  | closeArray
  | colon
  | comma
  | text (s : Text)
  | atom (v : Json)
  | overlong (digits : Nat)
  | junk

def isWordChar (c : Rune) : Bool := c.isAlphanum || c == '+' || c == '-' || c == '.'

/-- Drops a run of digits; a run has at least one. -/
def afterDigits? (cs : List Rune) : Option (List Rune) :=
  if (cs.head?.map Rune.isDigit).getD false then some (cs.dropWhile Rune.isDigit) else none

def afterWhole? : List Rune → Option (List Rune)
  | '0' :: r => some r
  | r => afterDigits? r

def afterFraction? : List Rune → Option (List Rune)
  | '.' :: r => afterDigits? r
  | r => some r

def afterExponent? : List Rune → Option (List Rune)
  | [] => some []
  | c :: r => if c = 'e' ∨ c = 'E' then afterDigits? (Decimal.sign r).2 else some (c :: r)

def withoutMinus : List Rune → List Rune
  | '-' :: r => r
  | r => r

/-- The form of a number: no sign but minus, no zero in front of other digits. -/
def isNumber (cs : List Rune) : Bool :=
  ((afterWhole? (withoutMinus cs)).bind afterFraction?).bind afterExponent? == some []

def number? (cs : List Rune) : Option Json :=
  if isNumber cs then
    (Decimal.ofChars? cs).map fun d =>
      if cs.any fun c => c = '.' ∨ c = 'e' ∨ c = 'E' then .real d.toFloat
      else .int (if d.negative then -(d.mantissa : Int) else d.mantissa)
  else none

/-- How many digits a word starts with, unless they are the first part of a number with a fraction
or an exponent. -/
def wholeDigits (cs : List Rune) : Nat :=
  let unsigned := withoutMinus cs
  match afterWhole? unsigned with
  | none => 0
  | some rest =>
    let goesOn (after : Option (List Rune)) : Bool := (after.map (· != rest)).getD false
    if goesOn (afterFraction? rest) || goesOn (afterExponent? rest) then 0
    else unsigned.length - rest.length

def atom? (cs : List Rune) : Option Json :=
  let s := Text.ofList cs
  if s = "null" then some .null
  else if s = "true" then some (.bool true)
  else if s = "false" then some (.bool false)
  else if s = "NaN" then some (.real (0.0 / 0.0))
  else if s = "Infinity" then some (.real (1.0 / 0.0))
  else if s = "-Infinity" then some (.real (-1.0 / 0.0))
  else number? cs

def wordToken (cs : List Rune) : Token :=
  let digits := wholeDigits cs
  if digitLimit < digits then .overlong digits
  else
    match atom? cs with
    | some v => .atom v
    | none => .junk

/-- What stands for a code point in a text: the code point, or an escape with its number. -/
inductive Letter where
  | plain (c : Rune)
  | numbered (n : Nat)
  deriving DecidableEq

/-- The code points of a text. Two escapes in a row may stand for one. -/
def unescaped : List Letter → List Rune
  | [] => []
  | .plain c :: r => c :: unescaped r
  | .numbered m :: .numbered n :: r =>
    if Text.Units.isPair m n then Text.Units.joined m n :: unescaped r
    else .ofNat m :: unescaped (.numbered n :: r)
  | .numbered n :: r => .ofNat n :: unescaped r

/-- Where the scanner stands; what it has seen of a word or a text is kept backwards. -/
inductive Mode where
  | between
  | word (seen : List Rune)
  | text (seen : List Letter)
  | escape (seen : List Letter)
  | hex (seen : List Letter) (value : Nat) (owed : Nat)
  deriving DecidableEq

def begin? (c : Rune) : Option (List Token × Mode) :=
  if c = ' ' ∨ c = '\t' ∨ c = '\n' ∨ c = '\r' then some ([], .between)
  else if c = '\x7b' then some ([.openObject], .between)
  else if c = '\x7d' then some ([.closeObject], .between)
  else if c = '[' then some ([.openArray], .between)
  else if c = ']' then some ([.closeArray], .between)
  else if c = ':' then some ([.colon], .between)
  else if c = ',' then some ([.comma], .between)
  else if c = '"' then some ([], .text [])
  else if isWordChar c then some ([], .word [c])
  else none

def escaped? (c : Rune) : Option Rune :=
  match c with
  | '"' => some (.char '"')
  | '\\' => some (.char '\\')
  | '/' => some (.char '/')
  | 'b' => some (.char '\x08')
  | 'f' => some (.char '\x0C')
  | 'n' => some (.char '\n')
  | 'r' => some (.char '\r')
  | 't' => some (.char '\t')
  | _ => none

def hexValue? (c : Rune) : Option Nat :=
  if c.isDigit then some (c.toNat - 0x30)
  else if 'a' ≤ c ∧ c ≤ 'f' then some (c.toNat - 0x57)
  else if 'A' ≤ c ∧ c ≤ 'F' then some (c.toNat - 0x37)
  else none

def scanChar : Mode → Rune → Option (List Token × Mode)
  | .between, c => begin? c
  | .word seen, c =>
    if isWordChar c then some ([], .word (c :: seen))
    else
      match begin? c with
      | some (ts, mode) => some (wordToken seen.reverse :: ts, mode)
      | none => some ([wordToken seen.reverse, .junk], .between)
  | .text seen, c =>
    if c = '"' then some ([.text (.ofList (unescaped seen.reverse))], .between)
    else if c = '\\' then some ([], .escape seen)
    else if c.toNat < 0x20 then none
    else some ([], .text (.plain c :: seen))
  | .escape seen, c =>
    if c = 'u' then some ([], .hex seen 0 4)
    else (escaped? c).map fun u => ([], .text (.plain u :: seen))
  | .hex seen value owed, c =>
    (hexValue? c).map fun d =>
      let value := value * 16 + d
      ([], if owed ≤ 1 then .text (.numbered value :: seen) else .hex seen value (owed - 1))

def scan : Mode → List Rune → List Token
  | .between, [] => []
  | .word seen, [] => [wordToken seen.reverse]
  | _, [] => [.junk]
  | mode, c :: r =>
    match scanChar mode c with
    | none => [.junk]
    | some (ts, mode) => ts ++ scan mode r

end Synopsis.Json
