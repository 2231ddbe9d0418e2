import Synopsis.Keyed

namespace Synopsis

inductive Datum where
  | null
  | bool (b : Bool)
  | int (n : Int)
  | real (x : Float)
  | text (s : Text)
  | date (year month day : Nat)
  | moment (written : Text)
  | bytes (content : List UInt8)
  | list (items : List Datum)
  | map (entries : List (Datum × Datum))
  | set (items : List Datum)
  deriving Inhabited

namespace Datum

/-- The name of a value's kind in messages. -/
def kind : Datum → Text
  | null => "NoneType"
  | bool _ => "bool"
  | int _ => "int"
  | real _ => "float"
  | text _ => "str"
  | date .. => "datetime.date"
  | moment _ => "datetime.datetime"
  | bytes _ => "bytes"
  | list _ => "list"
  | map _ => "dict"
  | set _ => "set"

def text? : Datum → Option Text
  | text s => some s
  | _ => none

/-- Truth values are numbers too. -/
def whole? : Datum → Option Int
  | bool b => some b.toInt
  | int n => some n
  | _ => none

def number? : Datum → Option Float
  | real x => some x
  | d => d.whole?.map Float.ofInt

/-- Whether two values are one key. Numbers are compared by value, whatever their kind. -/
def sameKey (a b : Datum) : Bool :=
  match a.whole?, b.whole? with
  | some m, some n => m == n
  | _, _ =>
    match a.number?, b.number? with
    | some x, some y => x == y
    | _, _ =>
      match a, b with
      | null, null => true
      | text s, text t => s == t
      | date y m d, date y' m' d' => y == y' && m == m' && d == d'
      | moment s, moment t => s == t
      | bytes s, bytes t => s == t
      | _, _ => false

def isNull : Datum → Bool
  | null => true
  | _ => false

/-- The last value of a key counts, at the place of the first. -/
def setEntry : List (Datum × Datum) → Datum → Datum → List (Datum × Datum)
  | [], key, value => [(key, value)]
  | (k, v) :: r, key, value =>
    if k.sameKey key then (k, value) :: r else (k, v) :: setEntry r key value

end Datum

end Synopsis
