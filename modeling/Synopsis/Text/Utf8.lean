import Synopsis.Text.Basic

namespace Synopsis.Utf8

inductive Reason where
  | badStart
  | badContinuation
  | truncated
  deriving DecidableEq

/-- The bytes that could not be read: the longest start of a character's encoding. -/
structure Fault where
  position : Nat
  length : Nat
  first : UInt8
  reason : Reason
  deriving DecidableEq

/-- An encoding whose first bytes have been read: `owed` more must follow, the next of them
between `low` and `high`. -/
structure Pending where
  value : Nat
  owed : Nat
  low : Nat
  high : Nat
  length : Nat
  first : UInt8
  deriving DecidableEq

inductive Piece where
  | char (c : Char)
  | bad (length : Nat) (first : UInt8) (reason : Reason)
  deriving DecidableEq

def lead (b : UInt8) : Piece ⊕ Pending :=
  let n := b.toNat
  if n < 0x80 then .inl (.char (Char.ofNat n))
  else if n < 0xC2 then .inl (.bad 1 b .badStart)
  else if n < 0xE0 then .inr ⟨n - 0xC0, 1, 0x80, 0xBF, 1, b⟩
  else if n < 0xF0 then
    .inr ⟨n - 0xE0, 2, if n = 0xE0 then 0xA0 else 0x80, if n = 0xED then 0x9F else 0xBF, 1, b⟩
  else if n < 0xF5 then
    .inr ⟨n - 0xF0, 3, if n = 0xF0 then 0x90 else 0x80, if n = 0xF4 then 0x8F else 0xBF, 1, b⟩
  else .inl (.bad 1 b .badStart)

/-- Characters and faults, read one byte at a time. -/
def pieces : Option Pending → List UInt8 → List Piece
  | none, [] => []
  | some p, [] => [.bad p.length p.first .truncated]
  | none, b :: r =>
    match lead b with
    | .inl piece => piece :: pieces none r
    | .inr p => pieces (some p) r
  | some p, b :: r =>
    if p.low ≤ b.toNat ∧ b.toNat ≤ p.high then
      let value := p.value * 64 + (b.toNat - 0x80)
      if p.owed = 1 then .char (Char.ofNat value) :: pieces none r
      else pieces (some ⟨value, p.owed - 1, 0x80, 0xBF, p.length + 1, p.first⟩) r
    else
      .bad p.length p.first .badContinuation ::
        match lead b with
        | .inl piece => piece :: pieces none r
        | .inr q => pieces (some q) r

/-- The characters up to the first fault, where `position` is the number of bytes before them. -/
def collect (position : Nat) : List Piece → Except Fault (List Rune)
  | [] => .ok []
  | .char c :: r => (collect (position + c.utf8Size) r).map (c :: ·)
  | .bad length first reason :: _ => .error ⟨position, length, first, reason⟩

/-- Strict reading stops at the first fault. -/
def decode (bytes : List UInt8) : Except Fault Text :=
  (collect 0 (pieces none bytes)).map .ofList

/-- Lenient reading puts a replacement character in the place of each fault. -/
def decodeLossy (bytes : List UInt8) : Text :=
  .ofList ((pieces none bytes).map fun
    | .char c => c
    | .bad .. => '\uFFFD')

/-- The bytes of a code point, by its number alone. UTF-8 has none for halves. -/
def encodeChar (c : Rune) : List UInt8 :=
  let n := c.toNat
  if n < 0x80 then [.ofNat n]
  else if n < 0x800 then [.ofNat (0xC0 + n / 64), .ofNat (0x80 + n % 64)]
  else if n < 0x10000 then
    [.ofNat (0xE0 + n / 4096), .ofNat (0x80 + n / 64 % 64), .ofNat (0x80 + n % 64)]
  else
    [.ofNat (0xF0 + n / 262144), .ofNat (0x80 + n / 4096 % 64), .ofNat (0x80 + n / 64 % 64),
      .ofNat (0x80 + n % 64)]

def encode (s : Text) : List UInt8 := s.toList.flatMap encodeChar

def Reason.text : Reason → Text
  | .badStart => "invalid start byte"
  | .badContinuation => "invalid continuation byte"
  | .truncated => "unexpected end of data"

def hexDigits (width n : Nat) : Text :=
  let ds := Nat.toDigits 16 n
  .ofChars (List.replicate (width - ds.length) '0' ++ ds)

/-- A span of one byte shows the byte, a longer one its first and last position. -/
def Fault.message (f : Fault) : Text :=
  let place :=
    if f.length = 1 then
      "byte 0x" ++ hexDigits 2 f.first.toNat ++ " in position " ++ toString f.position
    else
      "bytes in position " ++ toString f.position ++ "-" ++ toString (f.position + f.length - 1)
  "'utf-8' codec can't decode " ++ place ++ ": " ++ f.reason.text

end Synopsis.Utf8
