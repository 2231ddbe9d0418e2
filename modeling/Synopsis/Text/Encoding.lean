import Synopsis.Text.Units

namespace Synopsis.Text

/-- UTF-8 holds all characters, but no half of one. In a path the halves from U+DC80 to U+DCFF are
single bytes that are no characters. -/
inductive Encoding where
  | ascii
  | utf8
  | path
  deriving DecidableEq

namespace Encoding

def name : Encoding → Text
  | ascii => "ascii"
  | utf8 | path => "utf-8"

def holds : Encoding → Rune → Bool
  | ascii, c => c.toNat < 0x80
  | utf8, c => c.isCharacter
  | path, c => c.isCharacter || (0xDC80 ≤ c.toNat && c.toNat < 0xDD00)

/-- What a fault goes on over, once it has begun. -/
def faultyBehind : Encoding → Rune → Bool
  | path, c => !c.isCharacter
  | e, c => !e.holds c

def refusal : Encoding → Text
  | ascii => "ordinal not in range(128)"
  | utf8 | path => "surrogates not allowed"

end Encoding

/-- The first run of characters that an encoding does not hold. -/
structure EncodingFault where
  encoding : Encoding
  position : Nat
  length : Nat
  first : Rune
  deriving DecidableEq

def EncodingFault.message (f : EncodingFault) : Text :=
  let n := f.first.toNat
  let code :=
    if n < 0x100 then "\\x" ++ Utf8.hexDigits 2 n
    else if n < 0x10000 then "\\u" ++ Utf8.hexDigits 4 n
    else "\\U" ++ Utf8.hexDigits 8 n
  let place :=
    if f.length = 1 then "character '" ++ code ++ "' in position " ++ toString f.position
    else
      "characters in position " ++ toString f.position ++ "-" ++
        toString (f.position + f.length - 1)
  "'" ++ f.encoding.name ++ "' codec can't encode " ++ place ++ ": " ++ f.encoding.refusal

/-- What is wrong with a text that is to be written in an encoding. -/
def Encoding.fault? (e : Encoding) (s : Text) : Option EncodingFault :=
  let front := s.toList.takeWhile e.holds
  match s.toList.dropWhile e.holds with
  | [] => none
  | c :: r => some ⟨e, front.length, 1 + (r.takeWhile e.faultyBehind).length, c⟩

end Synopsis.Text
