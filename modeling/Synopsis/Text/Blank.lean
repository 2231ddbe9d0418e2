import Synopsis.Text.Basic

namespace Synopsis.Text

/-- The white space of Unicode together with the four separators U+001C to U+001F. -/
def isBlankChar (c : Rune) : Bool :=
  let n := c.toNat
  (0x09 ≤ n && n ≤ 0x0D) || (0x1C ≤ n && n ≤ 0x20) || n == 0x85 || n == 0xA0 || n == 0x1680 ||
    (0x2000 ≤ n && n ≤ 0x200A) || n == 0x2028 || n == 0x2029 || n == 0x202F || n == 0x205F ||
    n == 0x3000

def trimStartChars (cs : List Rune) : List Rune := cs.dropWhile isBlankChar

def trimEndChars (cs : List Rune) : List Rune := (trimStartChars cs.reverse).reverse

def trimChars (cs : List Rune) : List Rune := trimEndChars (trimStartChars cs)

def trim (s : Text) : Text := .ofList (trimChars s.toList)

def isBlank (s : Text) : Bool := s.toList.all isBlankChar

theorem trimStartChars_eq_nil_iff {cs : List Rune} :
    trimStartChars cs = [] ↔ cs.all isBlankChar = true := by
  induction cs with
  | nil => simp [trimStartChars]
  | cons c r ih => cases h : isBlankChar c <;> simp_all [trimStartChars]

theorem trimEndChars_eq_nil_iff {cs : List Rune} :
    trimEndChars cs = [] ↔ cs.all isBlankChar = true := by
  simp [trimEndChars, trimStartChars_eq_nil_iff]

theorem trimChars_eq_nil_iff {cs : List Rune} :
    trimChars cs = [] ↔ cs.all isBlankChar = true := by
  unfold trimChars
  rw [trimEndChars_eq_nil_iff]
  constructor
  · intro h
    induction cs with
    | nil => rfl
    | cons c r ih => cases hc : isBlankChar c <;> simp_all [trimStartChars]
  · intro h
    rw [trimStartChars_eq_nil_iff.mpr h]
    rfl

theorem trim_eq_empty_iff {s : Text} : trim s = "" ↔ isBlank s = true := by
  rw [← Text.toList_inj]
  simp only [trim, Text.toList_ofList, isBlank]
  exact trimChars_eq_nil_iff

/-- No blank is left in front. -/
theorem head_trimStartChars {c : Rune} {cs r : List Rune} (h : trimStartChars cs = c :: r) :
    isBlankChar c = false := by
  induction cs with
  | nil => simp [trimStartChars] at h
  | cons a t ih =>
    cases ha : isBlankChar a
    · simp [trimStartChars, ha] at h
      rw [← h.1]
      exact ha
    · exact ih (by simpa [trimStartChars, ha] using h)

theorem trimStartChars_of_head {c : Rune} {r : List Rune} (h : isBlankChar c = false) :
    trimStartChars (c :: r) = c :: r := by
  simp [trimStartChars, h]

theorem trimStartChars_trimStartChars (cs : List Rune) :
    trimStartChars (trimStartChars cs) = trimStartChars cs := by
  cases h : trimStartChars cs with
  | nil => rfl
  | cons c r => exact trimStartChars_of_head (head_trimStartChars h)

theorem trimEndChars_trimEndChars (cs : List Rune) :
    trimEndChars (trimEndChars cs) = trimEndChars cs := by
  simp [trimEndChars, trimStartChars_trimStartChars]

end Synopsis.Text
