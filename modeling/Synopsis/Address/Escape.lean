import Synopsis.Json.Token
import Synopsis.Text.Utf8

namespace Synopsis.Address

def escapeByte (b : UInt8) : List Rune :=
  '%' :: (Utf8.hexDigits 2 b.toNat).toList.map Rune.toUpper

/-- Writes the characters that are not allowed as bytes. -/
def escape (isAllowed : Rune → Bool) (cs : List Rune) : List Rune :=
  cs.flatMap fun c => if isAllowed c then [c] else (Utf8.encodeChar c).flatMap escapeByte

/-- The bytes that a text stands for. A percent sign without two digits stands for itself. -/
def unescape : List Rune → List UInt8
  | '%' :: a :: b :: r =>
    match Json.hexValue? a, Json.hexValue? b with
    | some m, some n => .ofNat (16 * m + n) :: unescape r
    | _, _ => Utf8.encodeChar '%' ++ unescape (a :: b :: r)
  | c :: r => Utf8.encodeChar c ++ unescape r
  | [] => []

def isPrintable (c : Rune) : Bool := 0x20 ≤ c.toNat && c.toNat < 0x7F

/-- What may stand in a query. -/
def isQueryChar (c : Rune) : Bool := isPrintable c && c ∉ (" \"#<>" : Text).toList

def isFragmentChar (c : Rune) : Bool := isPrintable c && c ∉ (" \"<>\x60" : Text).toList

def isPathChar (c : Rune) : Bool := isQueryChar c && c ∉ ("?\x60\x7b\x7d" : Text).toList

def isUserChar (c : Rune) : Bool :=
  isPathChar c && c ∉ ("/;=@[\\]^|" : Text).toList

def isHostChar (c : Rune) : Bool :=
  isPrintable c && c ∉ (" #/:<>?@[]^" : Text).toList

end Synopsis.Address
