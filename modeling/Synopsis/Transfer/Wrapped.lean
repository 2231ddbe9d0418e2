import Synopsis.Transfer.Deflate

namespace Synopsis.Transfer

/-- The remainder of some bytes by the polynomial that archives are checked with. -/
def crc32 (bytes : List UInt8) : Nat :=
  let shift (n : Nat) : Nat := if n % 2 = 1 then (n / 2).xor 0xEDB88320 else n / 2
  (bytes.foldl (fun n b => Nat.repeat shift 8 (n.xor b.toNat)) 0xFFFFFFFF).xor 0xFFFFFFFF

/-- Two sums of some bytes: of the bytes, and of their sums. -/
def adler32 (bytes : List UInt8) : Nat :=
  let (a, b) := bytes.foldl (fun (a, b) c =>
    let a := (a + c.toNat) % 65521
    (a, (b + a) % 65521)) (1, 0)
  b * 65536 + a

def littleEndian (bytes : List UInt8) : Nat := bytes.foldr (fun b n => 256 * n + b.toNat) 0

def bigEndian (bytes : List UInt8) : Nat := bytes.foldl (fun n b => 256 * n + b.toNat) 0

/-- Bytes at the front, if there are enough of them. -/
def front (count : Nat) (bytes : List UInt8) : Except Stop (List UInt8 × List UInt8) :=
  if bytes.length < count then .error .short else .ok (bytes.take count, bytes.drop count)

/-- Whether a checksum agrees, as far as it is there, and what follows it. -/
def checked (count : Nat) (read : List UInt8 → Nat) (expected : Nat) (bytes : List UInt8) :
    Except Stop (List UInt8) := do
  let (sum, rest) ← front count bytes
  if read sum = expected then .ok rest else .error .corrupt

/-- Takes a text up to the zero that ends it. -/
def afterZero (bytes : List UInt8) : Except Stop (List UInt8) :=
  match bytes.dropWhile (· ≠ 0) with
  | [] => .error .short
  | _ :: r => .ok r

/-- Takes the header of an archive off its bytes. -/
def afterArchiveHeader (all : List UInt8) : Except Stop (List UInt8) := do
  let (mark, r) ← front 2 all
  if mark ≠ [0x1F, 0x8B] then .error .corrupt
  else
    let (kind, r) ← front 2 r
    let flags := (kind[1]?.getD 0).toNat
    if kind.head? ≠ some 8 ∨ 0x20 ≤ flags then .error .corrupt
    else
      let has (flag : Nat) : Bool := flags / flag % 2 == 1
      let (_, r) ← front 6 r
      let r ← if has 4 then do
          let (size, r) ← front 2 r
          let (_, r) ← front (littleEndian size) r
          pure r
        else pure r
      let r ← if has 8 then afterZero r else pure r
      let r ← if has 16 then afterZero r else pure r
      if has 2 then
        checked 2 littleEndian (crc32 (all.take (all.length - r.length)) % 65536) r
      else pure r

/-- What compressed bytes stand for, with a check of what follows them. -/
def checkedInflate (bytes : List UInt8)
    (check : List UInt8 → List UInt8 → Except Stop (List UInt8)) : Option (List UInt8) :=
  match Deflate.inflate (bitsOf bytes) with
  | .error _ => none
  | .ok ⟨out, none⟩ => some out.toList
  | .ok ⟨out, some rest⟩ =>
    match check out.toList (bytesOf (aligned rest)) with
    | .error .corrupt => none
    | _ => some out.toList

/-- What an archive of a single file holds. -/
def gunzip? (all : List UInt8) : Option (List UInt8) :=
  match afterArchiveHeader all with
  | .error .short => some []
  | .error .corrupt => none
  | .ok bytes =>
    checkedInflate bytes fun out rest => do
      let rest ← checked 4 littleEndian (crc32 out) rest
      checked 4 littleEndian (out.length % Nat.pow 2 32) rest

/-- What bytes with a header of two bytes hold. The header may ask for a dictionary, which nobody
has. -/
def unwrap? (all : List UInt8) : Option (List UInt8) :=
  match all with
  | a :: b :: bytes =>
    if (256 * a.toNat + b.toNat) % 31 ≠ 0 ∨ a.toNat % 16 ≠ 8 ∨ 7 < a.toNat / 16 then none
    else if b.toNat / 32 % 2 = 1 then if bytes.length < 4 then some [] else none
    else checkedInflate bytes fun out rest => checked 4 bigEndian (adler32 out) rest
  | _ => some []

/-- Bytes without a header. -/
def inflate? (all : List UInt8) : Option (List UInt8) := checkedInflate all fun _ rest => .ok rest

end Synopsis.Transfer
