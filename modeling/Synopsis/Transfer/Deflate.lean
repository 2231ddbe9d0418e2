namespace Synopsis.Transfer

/-- Why reading stops: the bits end, or they cannot be right. -/
inductive Stop where
  | short
  | corrupt
  deriving DecidableEq

/-- What reads bits from the front of a list. -/
abbrev BitReader := StateT (List Bool) (Except Stop)

/-- The bits of some bytes, of each byte the lowest first. -/
def bitsOf (bytes : List UInt8) : List Bool :=
  bytes.flatMap fun b => (List.range 8).map fun i => b.toNat / Nat.pow 2 i % 2 == 1

def number (bits : List Bool) : Nat := bits.foldr (fun b n => 2 * n + b.toNat) 0

/-- The bytes that start with the next whole byte. -/
def bytesOf : List Bool → List UInt8
  | a :: b :: c :: d :: e :: f :: g :: h :: r =>
    .ofNat (number [a, b, c, d, e, f, g, h]) :: bytesOf r
  | _ => []

/-- Drops what is left of a byte. -/
def aligned (bits : List Bool) : List Bool := bits.drop (bits.length % 8)

namespace Deflate

/-- A number of some bits. -/
def bits (count : Nat) : BitReader Nat := fun all =>
  let taken := all.take count
  if taken.length < count then .error .short else .ok (number taken, all.drop count)

def corrupt {α : Type} : BitReader α := fun _ => .error .corrupt

/-- How many words of each length a code has, from length one on, and its symbols in the order of
their words. -/
structure Code where
  counts : List Nat
  symbols : Array Nat

def Code.ofLengths (lengths : List Nat) : Code :=
  let longest := lengths.foldl max 1
  let sizes := (List.range longest).map (· + 1)
  let indexed := lengths.zipIdx
  ⟨sizes.map fun size => lengths.countP (· == size),
    (sizes.flatMap fun size => (indexed.filter (·.1 == size)).map Prod.snd).toArray⟩

/-- Reads a word bit by bit. `first` is the first word of the length reached, `index` the place of
its symbol. -/
def Code.symbolFrom (symbols : Array Nat) :
    (counts : List Nat) → (word first index : Nat) → List Bool → Except Stop (Nat × List Bool)
  | [], _, _, _, _ => .error .corrupt
  | _ :: _, _, _, _, [] => .error .short
  | count :: counts, word, first, index, b :: rest =>
    let word := word + b.toNat
    if word < first + count then
      match symbols[index + (word - first)]? with
      | some s => .ok (s, rest)
      | none => .error .corrupt
    else
      symbolFrom symbols counts (2 * word) (2 * (first + count)) (index + count) rest

def Code.symbol (c : Code) : BitReader Nat := symbolFrom c.symbols c.counts 0 0 0

/-- The share of all words that words of some lengths take, in parts of 2 ^ 15. -/
def share (lengths : List Nat) : Nat :=
  lengths.foldr (fun n total => (if n = 0 then 0 else Nat.pow 2 (15 - n)) + total) 0

/-- Whether lengths make a code: no word is missing, but a code may have a single word of one bit,
or none. -/
def isCode (lengths : List Nat) : Bool :=
  share lengths = Nat.pow 2 15 || lengths.all (· == 0) ||
    (share lengths < Nat.pow 2 15 && lengths.all (· ≤ 1))

/-- A code of code lengths has every word, or none: then every bit stands for length zero. -/
def lengthCode? (lengths : List Nat) : Option Code :=
  if share lengths = Nat.pow 2 15 then some (.ofLengths lengths)
  else if lengths.all (· == 0) then some ⟨[2], #[0, 0]⟩
  else none

def literalLengths : List Nat :=
  List.replicate 144 8 ++ List.replicate 112 9 ++ List.replicate 24 7 ++ List.replicate 8 8

def fixedLiterals : Code := .ofLengths literalLengths

def fixedDistances : Code := .ofLengths (List.replicate 32 5)

/-- The least length that a symbol stands for, from symbol 257 on, and how many bits more tell it
exactly. -/
def lengthRanges : List (Nat × Nat) :=
  [(3, 0), (4, 0), (5, 0), (6, 0), (7, 0), (8, 0), (9, 0), (10, 0), (11, 1), (13, 1), (15, 1),
    (17, 1), (19, 2), (23, 2), (27, 2), (31, 2), (35, 3), (43, 3), (51, 3), (59, 3), (67, 4),
    (83, 4), (99, 4), (115, 4), (131, 5), (163, 5), (195, 5), (227, 5), (258, 0)]

/-- The same of distances. -/
def distanceRanges : List (Nat × Nat) :=
  [(1, 0), (2, 0), (3, 0), (4, 0), (5, 1), (7, 1), (9, 2), (13, 2), (17, 3), (25, 3), (33, 4),
    (49, 4), (65, 5), (97, 5), (129, 6), (193, 6), (257, 7), (385, 7), (513, 8), (769, 8),
    (1025, 9), (1537, 9), (2049, 10), (3073, 10), (4097, 11), (6145, 11), (8193, 12), (12289, 12),
    (16385, 13), (24577, 13)]

def valueIn (ranges : List (Nat × Nat)) (symbol : Nat) : BitReader Nat :=
  match ranges[symbol]? with
  | some (least, count) => do return least + (← bits count)
  | none => corrupt

inductive Item where
  | literal (b : UInt8)
  | copy (length distance : Nat)
  | close
  deriving DecidableEq

def item (literals distances : Code) : BitReader Item := do
  let s ← literals.symbol
  if s < 256 then return .literal (.ofNat s)
  else if s = 256 then return .close
  else
    let length ← valueIn lengthRanges (s - 257)
    let distance ← valueIn distanceRanges (← distances.symbol)
    return .copy length distance

/-- Writes what lies some way back once more. What is written on the way counts. -/
def copied (out : Array UInt8) (distance : Nat) : (length : Nat) → Array UInt8
  | 0 => out
  | length + 1 => copied (out.push (out[out.size - distance]?.getD 0)) distance length

/-- What has been read, and the bits behind it unless they came to an end. -/
structure Inflated where
  out : Array UInt8
  rest : Option (List Bool)

/-- The items of a block. Every item takes a bit, so `fuel` is their number. -/
def items (literals distances : Code) :
    (fuel : Nat) → Array UInt8 → List Bool → Except Stop Inflated
  | 0, out, _ => .ok ⟨out, none⟩
  | fuel + 1, out, all =>
    match item literals distances all with
    | .error .short => .ok ⟨out, none⟩
    | .error .corrupt => .error .corrupt
    | .ok (.literal b, rest) => items literals distances fuel (out.push b) rest
    | .ok (.copy length distance, rest) =>
      if out.size < distance then .error .corrupt
      else items literals distances fuel (copied out distance length) rest
    | .ok (.close, rest) => .ok ⟨out, some rest⟩

/-- The order in which the code lengths of the code of code lengths are given. -/
def lengthOrder : List Nat :=
  [16, 17, 18, 0, 8, 7, 9, 6, 10, 5, 11, 4, 12, 3, 13, 2, 14, 1, 15]

/-- Code lengths, some of them told as repetitions; `seen` is backwards. -/
def codeLengths (c : Code) (wanted : Nat) : (fuel : Nat) → (seen : List Nat) → BitReader (List Nat)
  | 0, _ => corrupt
  | fuel + 1, seen =>
    if seen.length = wanted then return seen.reverse
    else if wanted < seen.length then corrupt
    else do
      let s ← c.symbol
      if s < 16 then codeLengths c wanted fuel (s :: seen)
      else if s = 16 then
        let times ← bits 2
        match seen with
        | [] => corrupt
        | last :: _ => codeLengths c wanted fuel (List.replicate (3 + times) last ++ seen)
      else
        let times ← if s = 17 then do pure (3 + (← bits 3)) else do pure (11 + (← bits 7))
        codeLengths c wanted fuel (List.replicate times 0 ++ seen)

/-- The codes of a block that brings its own. -/
def ownCodes : BitReader (Code × Code) := do
  let literalCount := (← bits 5) + 257
  let distanceCount := (← bits 5) + 1
  let orderCount := (← bits 4) + 4
  if 286 < literalCount ∨ 30 < distanceCount then corrupt
  else
    let given ← (List.range orderCount).mapM fun _ => bits 3
    let lengths := (List.range 19).map fun s =>
      ((lengthOrder.zip given).lookup s).getD 0
    match lengthCode? lengths with
    | none => corrupt
    | some c =>
      let total := literalCount + distanceCount
      let all ← codeLengths c total (total + 1) []
      let literals := all.take literalCount
      let distances := all.drop literalCount
      if literals[256]?.getD 0 = 0 ∨ !isCode literals ∨ !isCode distances then corrupt
      else return (.ofLengths literals, .ofLengths distances)

/-- The kind of a block: its last bytes, or the codes it is under. -/
inductive Block where
  | stored (length : Nat)
  | coded (literals distances : Code)

def blockStart : BitReader (Bool × Block) := do
  let last ← bits 1
  let kind ← bits 2
  match kind with
  | 0 =>
    modify aligned
    let length ← bits 16
    let complement ← bits 16
    if length + complement = 0xFFFF then return (last == 1, .stored length) else corrupt
  | 1 => return (last == 1, .coded fixedLiterals fixedDistances)
  | 2 => do
    let (literals, distances) ← ownCodes
    return (last == 1, .coded literals distances)
  | _ => corrupt

def blockBody (block : Block) (out : Array UInt8) (all : List Bool) : Except Stop Inflated :=
  match block with
  | .stored length =>
    let bytes := bytesOf (all.take (8 * length))
    .ok ⟨out ++ bytes, if bytes.length < length then none else some (all.drop (8 * length))⟩
  | .coded literals distances => items literals distances (all.length + 1) out all

def blocks : (fuel : Nat) → Array UInt8 → List Bool → Except Stop Inflated
  | 0, out, _ => .ok ⟨out, none⟩
  | fuel + 1, out, all =>
    match blockStart all with
    | .error .short => .ok ⟨out, none⟩
    | .error .corrupt => .error .corrupt
    | .ok ((last, block), rest) =>
      match blockBody block out rest with
      | .error e => .error e
      | .ok ⟨out, none⟩ => .ok ⟨out, none⟩
      | .ok ⟨out, some rest⟩ => if last then .ok ⟨out, some rest⟩ else blocks fuel out rest

/-- What compressed bytes stand for. -/
def inflate (all : List Bool) : Except Stop Inflated := blocks (all.length + 1) #[] all

end Deflate

end Synopsis.Transfer
