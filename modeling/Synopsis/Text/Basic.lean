namespace Synopsis

/-- A code point. Half of a pair is one of its own only where the other half is missing. -/
inductive Rune where
  | char (c : Char)
  | half (n : Fin 0x800)
  deriving DecidableEq, Inhabited

namespace Rune

instance : Coe Char Rune := ⟨char⟩

/-- Halves have the numbers from U+D800 to U+DFFF, which no character has. -/
def toNat : Rune → Nat
  | char c => c.toNat
  | half n => 0xD800 + n

/-- Whether a number is half of a pair. -/
def isHalf (n : Nat) : Bool := 0xD800 ≤ n && n < 0xE000

def ofNat (n : Nat) : Rune :=
  if isHalf n then half (Fin.ofNat 0x800 (n - 0xD800)) else char (Char.ofNat n)

/-- Code points come in the order of their numbers. -/
instance : LE Rune := ⟨fun r s => r.toNat ≤ s.toNat⟩

instance : DecidableLE Rune := fun r s => inferInstanceAs (Decidable (r.toNat ≤ s.toNat))

/-- Whether a code point is a character of a kind. -/
def meets (kind : Char → Bool) : Rune → Bool
  | char c => kind c
  | half _ => false

/-- Whether a code point is a character and no half of one. -/
def isCharacter (r : Rune) : Bool := r.meets fun _ => true

def isDigit (r : Rune) : Bool := r.meets Char.isDigit

def isAlpha (r : Rune) : Bool := r.meets Char.isAlpha

def isAlphanum (r : Rune) : Bool := r.meets Char.isAlphanum

def isUpper (r : Rune) : Bool := r.meets Char.isUpper

def isLower (r : Rune) : Bool := r.meets Char.isLower

/-- The bytes of a code point in the name of a file, where a half stands for a byte that is no
character. -/
def fileSize : Rune → Nat
  | char c => c.utf8Size
  | half _ => 1

def toLower : Rune → Rune
  | char c => char c.toLower
  | half n => half n

def toUpper : Rune → Rune
  | char c => char c.toUpper
  | half n => half n

end Rune

/-- A text is a sequence of code points, and may hold halves of pairs. -/
structure Text where
  ofList ::
  toList : List Rune
  deriving DecidableEq, Inhabited

namespace Text

def ofChars (cs : List Char) : Text := ofList (cs.map .char)

@[coe]
def ofString (s : String) : Text := ofChars s.toList

instance : Coe String Text := ⟨ofString⟩

/-- A text as the machine shows it, with a replacement character for a half. -/
protected def toString (s : Text) : String :=
  .ofList (s.toList.map fun
    | .char c => c
    | .half _ => '\uFFFD')

/-- Texts come in the order of their code points. -/
instance : LE Text := ⟨fun s t => (s.toList.map Rune.toNat).le (t.toList.map Rune.toNat)⟩

instance : DecidableLE Text :=
  fun s t => List.decidableLE (s.toList.map Rune.toNat) (t.toList.map Rune.toNat)

protected def length (s : Text) : Nat := s.toList.length

protected def map (f : Rune → Rune) (s : Text) : Text := ofList (s.toList.map f)

/-- The bytes of a text in the name of a file, where a half stands for a single byte. -/
def fileSize (s : Text) : Nat := s.toList.foldl (fun n r => n + r.fileSize) 0

instance : Append Text := ⟨fun s t => ofList (s.toList ++ t.toList)⟩

protected def join (ts : List Text) : Text := ofList (ts.flatMap toList)

protected def intercalate (s : Text) (ts : List Text) : Text :=
  ofList (s.toList.intercalate (ts.map toList))

variable {s t : Text}

@[simp]
theorem toList_ofList {rs : List Rune} : (ofList rs).toList = rs := rfl

@[simp]
theorem ofList_toList : ofList s.toList = s := rfl

@[simp]
theorem toList_append : (s ++ t).toList = s.toList ++ t.toList := rfl

@[simp]
theorem toList_inj : s.toList = t.toList ↔ s = t := by
  constructor
  · intro h
    rw [← @ofList_toList s, h, ofList_toList]
  · rintro rfl
    rfl

@[simp]
theorem toList_ofChars {cs : List Char} : (ofChars cs).toList = cs.map .char := rfl

@[simp]
theorem toList_ofString {s : String} : (ofString s).toList = s.toList.map .char := rfl

theorem ofChars_inj {cs ds : List Char} : ofChars cs = ofChars ds ↔ cs = ds := by
  rw [← toList_inj, toList_ofChars, toList_ofChars]
  exact List.map_inj_right fun _ _ => Rune.char.inj

@[simp]
theorem ofString_inj {s t : String} : ofString s = ofString t ↔ s = t := by
  rw [ofString, ofString, ofChars_inj, String.toList_inj]

end Text

end Synopsis
