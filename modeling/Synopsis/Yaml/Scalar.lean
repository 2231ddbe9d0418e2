import Synopsis.Datum
import Synopsis.Number
import Synopsis.Text.Base64
import Synopsis.Text.Lines
import Synopsis.Text.Lowercase
import Synopsis.Yaml.Fault

namespace Synopsis.Yaml

/-- The types that a tag can name. The texts of a merge and of a default stand for no value. -/
inductive Tag where
  | nothing
  | truth
  | whole
  | real
  | time
  | bytes
  | text
  | list
  | map
  | pairs
  | set
  | merge
  | default
  | foreign
  deriving DecidableEq

def nothings : List Text := ["", "~", "null", "Null", "NULL"]

def truths : List Text := ["yes", "Yes", "YES", "true", "True", "TRUE", "on", "On", "ON"]

def falsehoods : List Text := ["no", "No", "NO", "false", "False", "FALSE", "off", "Off", "OFF"]

/-- Underscores may divide the digits of a number. -/
def isDigitOrMark (c : Rune) : Bool := c.isDigit || c = '_'

def withoutMarks (cs : List Rune) : List Rune := cs.filter (· ≠ ('_' : Rune))

/-- One part of a number in base sixty, below sixty. -/
def isSixtieth (cs : List Rune) : Bool :=
  match cs with
  | [c] => c.isDigit
  | [c, d] => '0' ≤ c && c ≤ '5' && d.isDigit
  | _ => false

/-- The form of a whole number: binary, octal, hexadecimal, decimal or in base sixty. -/
def isWhole (cs : List Rune) : Bool :=
  match (Decimal.sign cs).2 with
  | '0' :: 'b' :: r => r ≠ [] && r.all fun c => c = '0' || c = '1' || c = '_'
  | '0' :: 'x' :: r => r ≠ [] && r.all fun c => (digitIn? 16 c).isSome && c.toNat < 0x80 || c = '_'
  | '0' :: r => r.all fun c => ('0' ≤ c && c ≤ '7') || c = '_'
  | c :: r =>
    match Text.splitChars ':' r with
    | first :: rest => c.isDigit && first.all isDigitOrMark && rest.all isSixtieth
    | [] => false
  | [] => false

/-- An exponent needs its sign. -/
def isExponent (cs : List Rune) : Bool :=
  match cs with
  | [] => true
  | e :: s :: r => (e = 'e' || e = 'E') && (s = '+' || s = '-') && r ≠ [] && r.all Rune.isDigit
  | _ => false

/-- The form of a number with a point in it. Only digits in front of the point allow a sign. -/
def isPointed (cs : List Rune) : Bool :=
  match (Decimal.sign cs).2 with
  | c :: r =>
    if c.isDigit then
      match r.dropWhile isDigitOrMark with
      | '.' :: r => isExponent (r.dropWhile isDigitOrMark)
      | _ => false
    else
      match cs with
      | '.' :: d :: r => d.isDigit && isExponent (r.dropWhile isDigitOrMark)
      | _ => false
  | [] => false

/-- The form of a number in base sixty with a point behind its last part. -/
def isPointedSixty (cs : List Rune) : Bool :=
  let body := (Decimal.sign cs).2
  let back := body.dropWhile (· ≠ ('.' : Rune))
  match Text.splitChars ':' (body.takeWhile (· ≠ ('.' : Rune))) with
  | first :: second :: rest =>
    (first.head?.any Rune.isDigit) && first.all isDigitOrMark && (second :: rest).all isSixtieth &&
      back ≠ [] && (back.drop 1).all isDigitOrMark
  | _ => false

/-- The texts that stand for an infinite or an undefined number. -/
def isLimit (s : Text) : Bool :=
  s ∈ ([".inf", ".Inf", ".INF", "+.inf", "+.Inf", "+.INF", "-.inf", "-.Inf", "-.INF", ".nan",
    ".NaN", ".NAN"] : List Text)

def isReal (cs : List Rune) : Bool :=
  isLimit (.ofList cs) || isPointed cs || isPointedSixty cs

/-- A point of time as it is written. Without a clock time it is a whole day. -/
structure Time where
  year : List Rune
  month : List Rune
  day : List Rune
  clock : Option (List Rune × List Rune × List Rune)
  zone : Option (Bool × List Rune × List Rune)

/-- One digit, or two. -/
def isShortNumber (cs : List Rune) : Bool := (cs.length = 1 || cs.length = 2) && cs.all Rune.isDigit

/-- What lies between two times and Greenwich: nothing, or a sign with hours and minutes. -/
def zone? (cs : List Rune) : Option (Option (Bool × List Rune × List Rune)) :=
  match cs.dropWhile fun c : Rune => c = ' ' || c = '\t' with
  | [] => if cs = [] then some none else none
  | ['Z'] => some none
  | s :: r =>
    if s ≠ '+' ∧ s ≠ '-' then none
    else
      match Text.splitChars ':' r with
      | [h] => if isShortNumber h then some (some (s = '-', h, [])) else none
      | [h, m] =>
        if isShortNumber h ∧ m.length = 2 ∧ isShortNumber m then some (some (s = '-', h, m))
        else none
      | _ => none

/-- Takes a number of digits in front of a text. -/
def shortNumber? (least : Nat) (cs : List Rune) : Option (List Rune × List Rune) :=
  let ds := (cs.take 2).takeWhile Rune.isDigit
  if ds.length < least then none else some (ds, cs.drop ds.length)

def afterColon? : List Rune → Option (List Rune)
  | ':' :: r => some r
  | _ => none

/-- The hours, minutes and seconds of a day, and what follows their fraction. -/
def clock? (cs : List Rune) : Option ((List Rune × List Rune × List Rune) × List Rune) := do
  let (h, cs) ← shortNumber? 1 cs
  let (m, cs) ← shortNumber? 2 (← afterColon? cs)
  let (s, cs) ← shortNumber? 2 (← afterColon? cs)
  let rest := match cs with
    | '.' :: r => r.dropWhile Rune.isDigit
    | r => r
  return ((h, m, s), rest)

def afterDash? : List Rune → Option (List Rune)
  | '-' :: r => some r
  | _ => none

/-- Reads a point of time: a date, and perhaps a clock time behind a `T` or blanks. -/
def time? (cs : List Rune) : Option Time := do
  let year := (cs.take 4).takeWhile Rune.isDigit
  if year.length < 4 then none
  let (month, cs) ← shortNumber? 1 (← afterDash? (cs.drop 4))
  let (day, cs) ← shortNumber? 1 (← afterDash? cs)
  match cs with
  | [] => return ⟨year, month, day, none, none⟩
  | c :: r =>
    let isBlank (c : Rune) : Bool := c = ' ' || c = '\t'
    if c ≠ 'T' ∧ c ≠ 't' ∧ !isBlank c then none
    let (clock, rest) ← clock? (if isBlank c then r.dropWhile isBlank else r)
    return ⟨year, month, day, some clock, ← zone? rest⟩

/-- The form of a point of time. A date alone needs all its digits. -/
def isTime (cs : List Rune) : Bool :=
  (time? cs).any fun t => t.clock.isSome || (t.month.length = 2 && t.day.length = 2)

/-- Takes a line feed from the end of a text. -/
def withoutLastBreak (cs : List Rune) : List Rune :=
  if cs.getLast? = some (.char '\n') ∧ cs ≠ ([.char '\n'] : List Rune) then cs.dropLast else cs

namespace Tag

def commonStart : Text := "tag:yaml.org,2002:"

/-- The types by the last parts of their tags. -/
def common : List (Text × Tag) :=
  [("null", nothing), ("bool", truth), ("int", whole), ("float", real), ("timestamp", time),
    ("binary", bytes), ("str", text), ("seq", list), ("map", map), ("omap", pairs),
    ("pairs", pairs), ("set", set), ("merge", merge), ("value", default)]

def ofName (name : Text) : Tag :=
  ((common.find? fun e => commonStart ++ e.1 = name).map Prod.snd).getD foreign

/-- The type that the form of a text speaks for. A line feed at the end does not count. -/
def ofForm (s : Text) : Tag :=
  let cs := withoutLastBreak s.toList
  let word := Text.ofList cs
  if word ∈ nothings then nothing
  else if word ∈ truths ∨ word ∈ falsehoods then truth
  else if word = "<<" then merge
  else if word = "=" then default
  else if isWhole cs then whole
  else if isReal cs then real
  else if isTime cs then time
  else text

/-- Values that have parts. -/
def isCollection : Tag → Bool
  | list | map | pairs | set => true
  | _ => false

end Tag

/-- The number that decimal digits stand for. -/
def digits (cs : List Rune) : Nat := Decimal.natOfDigits (cs.map fun d => d.toNat - 48)

def readTruth (s : Text) : Except Fault Datum :=
  let word := Text.ofList (Text.lower s.toList)
  if word ∈ truths then .ok (.bool true)
  else if word ∈ falsehoods then .ok (.bool false)
  else .error (.notTruth word)

def readWhole (s : Text) : Except Fault Datum :=
  let cs := withoutMarks s.toList
  let (negative, body) := Decimal.sign cs
  let read (base : Nat) (cs : List Rune) : Except Fault Int :=
    (readIntIn base (.ofList cs)).mapError .notWhole
  let part (cs : List Rune) : Except Fault Int := (readInt (.ofList cs)).mapError .notWhole
  let magnitude : Except Fault Int :=
    match body with
    | [] => .error .noNumber
    | '0' :: 'b' :: r => read 2 r
    | '0' :: 'x' :: r => read 16 r
    | '0' :: _ => read 8 body
    | _ =>
      ((Text.splitChars ':' body).mapM part).map fun parts => parts.foldl (fun n p => n * 60 + p) 0
  magnitude.map fun n => .int (if negative then -n else n)

/-- Sums up the parts of a number in base sixty, the last one first. -/
def sumSixties (base : Nat) (sum : Number) : List Float → Except Fault Number
  | [] => .ok sum
  | part :: r =>
    match ((Number.real part).times? (.whole base)).bind fun p => sum.plus? p with
    | some sum => sumSixties (60 * base) sum r
    | none => .error .numberTooLarge

def readReal (s : Text) : Except Fault Datum :=
  let cs := Text.lower (withoutMarks s.toList)
  let (negative, body) := Decimal.sign cs
  let part (cs : List Rune) : Except Fault Float :=
    match readFloat? (.ofList cs) with
    | some x => .ok x
    | none => .error (.notReal (.ofList cs))
  let magnitude : Except Fault Float :=
    if cs = [] then .error .noNumber
    else if body = (".inf" : Text).toList then .ok (1.0 / 0.0)
    else if body = (".nan" : Text).toList then .ok (0.0 / 0.0)
    else if (':' : Rune) ∈ body then
      match (Text.splitChars ':' body).mapM part with
      | .error f => .error f
      | .ok parts =>
        match sumSixties 1 (.real 0.0) parts.reverse with
        | .ok (.real x) => .ok x
        | .ok (.whole n) => .ok (.ofInt n)
        | .error f => .error f
    else part body
  magnitude.map fun x => .real (if negative then -x else x)

def isLeapYear (year : Nat) : Bool := year % 4 == 0 && (year % 100 != 0 || year % 400 == 0)

def daysIn (year month : Nat) : Nat :=
  if month = 2 then if isLeapYear year then 29 else 28
  else if month ∈ [4, 6, 9, 11] then 30
  else 31

/-- What is wrong with a point of time: its zone comes first, then its parts from the year on. -/
def Time.fault? (t : Time) : Option TimeFault :=
  let (year, month, day) := (digits t.year, digits t.month, digits t.day)
  let distance : Int := match t.zone with
    | some (negative, h, m) =>
      let n : Int := digits h * 60 + digits m
      if negative then -n else n
    | none => 0
  let (h, m, s) := match t.clock with
    | some (h, m, s) => (digits h, digits m, digits s)
    | none => (0, 0, 0)
  if 1440 ≤ distance.natAbs then some (.zone distance)
  else if year = 0 then some .year
  else if month = 0 ∨ 12 < month then some .month
  else if day = 0 ∨ daysIn year month < day then some .day
  else if 23 < h then some .hour
  else if 59 < m then some .minute
  else if 59 < s then some .second
  else none

def readTime (s : Text) : Except Fault Datum :=
  match time? (withoutLastBreak s.toList) with
  | none => .error .noTime
  | some t =>
    match t.fault?, t.clock with
    | some f, _ => .error (.time f)
    | none, none => .ok (.date (digits t.year) (digits t.month) (digits t.day))
    | none, some _ => .ok (.moment s)

def readBytes (s : Text) : Except Fault Datum :=
  if s.toList.all fun c => c.toNat < 0x80 then
    match Text.Base64.decode? s.toList with
    | some bytes => .ok (.bytes bytes)
    | none => .error .malformed
  else .error .malformed

/-- The value of a text of some type. -/
def scalar (tag : Tag) (s : Text) : Except Fault Datum :=
  match tag with
  | .nothing => .ok .null
  | .truth => readTruth s
  | .whole => readWhole s
  | .real => readReal s
  | .time => readTime s
  | .bytes => readBytes s
  | .text => .ok (.text s)
  | _ => .error .malformed

end Synopsis.Yaml
