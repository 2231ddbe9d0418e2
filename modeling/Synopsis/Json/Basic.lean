import Synopsis.Decimal.Shortest
import Synopsis.Keyed
import Synopsis.Text.Quoted

namespace Synopsis

inductive Json where
  | null
  | bool (b : Bool)
  | int (n : Int)
  | real (x : Float)
  | str (s : Text)
  | arr (items : List Json)
  | obj (fields : List (Text × Json))
  deriving Inhabited

namespace Json

def field? : Json → Text → Option Json
  | .obj fields, key => Keyed.get? fields key
  | _, _ => none

def str? : Json → Option Text
  | .str s => some s
  | _ => none

/-- The values that count as absent: nothing, false, zero, and whatever is empty. -/
def isVoid : Json → Bool
  | .null => true
  | .bool b => !b
  | .int n => n == 0
  | .real x => x == 0.0
  | .str s => s == ""
  | .arr items => items.isEmpty
  | .obj fields => fields.isEmpty

mutual

/-- Whether no number is infinite or undefined. -/
def isFinite : Json → Bool
  | .real x => x.isFinite
  | .arr items => areFinite items
  | .obj fields => fieldsAreFinite fields
  | _ => true

def areFinite : List Json → Bool
  | [] => true
  | v :: r => isFinite v && areFinite r

def fieldsAreFinite : List (Text × Json) → Bool
  | [] => true
  | e :: r => fieldIsFinite e && fieldsAreFinite r

def fieldIsFinite : Text × Json → Bool
  | (_, v) => isFinite v

end

/-- Numbers in messages are positional from 0.0001 to below 10 ^ 16. -/
def shownNumber : Decimal.Layout := ⟨-4, 16, 2⟩

mutual

/-- A value as messages show it inside another one. -/
def shown : Json → Text
  | .null => "None"
  | .bool true => "True"
  | .bool false => "False"
  | .int n => toString n
  | .real x => Decimal.floatText shownNumber x
  | .str s => Text.quoted s
  | .arr items => "[" ++ Text.intercalate ", " (shownItems items) ++ "]"
  | .obj fields => "\x7b" ++ Text.intercalate ", " (shownFields fields) ++ "\x7d"

def shownItems : List Json → List Text
  | [] => []
  | v :: r => shown v :: shownItems r

def shownFields : List (Text × Json) → List Text
  | [] => []
  | e :: r => shownField e :: shownFields r

def shownField : Text × Json → Text
  | (key, v) => Text.quoted key ++ ": " ++ shown v

end

/-- A value as the whole of a message: a text stands for itself. -/
def message : Json → Text
  | .str s => s
  | v => v.shown

end Json

end Synopsis
