import Synopsis.Text.Basic

namespace Synopsis

namespace Rune

theorem toNat_char_bounds (c : Char) :
    c.toNat < 0xD800 ∨ 0xDFFF < c.toNat ∧ c.toNat < 0x110000 := by
  have h := c.valid
  simp only [UInt32.isValidChar, Nat.isValidChar] at h
  exact h

theorem toNat_lt (r : Rune) : r.toNat < 0x110000 := by
  cases r with
  | char c =>
    have h := toNat_char_bounds c
    simp only [toNat]
    omega
  | half n =>
    simp only [toNat]
    omega

/-- Characters and halves have different numbers. -/
theorem toNat_injective {r s : Rune} (h : r.toNat = s.toNat) : r = s := by
  cases r with
  | char c =>
    cases s with
    | char d => rw [Char.toNat_inj.mp h]
    | half n =>
      have hc := toNat_char_bounds c
      simp only [toNat] at h
      omega
  | half m =>
    cases s with
    | char d =>
      have hd := toNat_char_bounds d
      simp only [toNat] at h
      omega
    | half n =>
      simp only [toNat] at h
      rw [Fin.ext (by omega : m.val = n.val)]

theorem ofNat_toNat (r : Rune) : ofNat r.toNat = r := by
  cases r with
  | char c =>
    have hc := toNat_char_bounds c
    have hhalf : isHalf c.toNat = false := by
      simp only [isHalf, Bool.and_eq_false_iff, decide_eq_false_iff_not]
      omega
    simp [ofNat, toNat, hhalf]
  | half n =>
    have hhalf : isHalf (0xD800 + n) = true := by
      simp only [isHalf, Bool.and_eq_true, decide_eq_true_eq]
      omega
    simp [ofNat, toNat, hhalf]

end Rune

namespace Text

variable {s t u : Text}

theorem append_assoc : s ++ t ++ u = s ++ (t ++ u) := by
  rw [← toList_inj]
  simp

theorem append_right_inj (s : Text) : s ++ t = s ++ u ↔ t = u := by
  rw [← toList_inj, ← toList_inj, toList_append, toList_append, List.append_cancel_left_eq]

theorem append_right_eq_self : s ++ t = s ↔ t = "" := by
  rw [← toList_inj, ← toList_inj, toList_append, List.append_right_eq_self]
  rfl

theorem length_append : (s ++ t).length = s.length + t.length := List.length_append

theorem foldl_fileSize (rs : List Rune) (n : Nat) :
    rs.foldl (fun n r => n + r.fileSize) n = n + rs.foldl (fun n r => n + r.fileSize) 0 := by
  induction rs generalizing n with
  | nil => rfl
  | cons r rs ih =>
    rw [List.foldl_cons, List.foldl_cons, ih, ih (0 + r.fileSize)]
    omega

theorem fileSize_append : (s ++ t).fileSize = s.fileSize + t.fileSize := by
  rw [fileSize, toList_append, List.foldl_append, foldl_fileSize]
  rfl

theorem toList_intercalate (s : Text) (ts : List Text) :
    (Text.intercalate s ts).toList = s.toList.intercalate (ts.map toList) := rfl

@[simp]
theorem intercalate_singleton (s t : Text) : Text.intercalate s [t] = t := by
  rw [← toList_inj]
  simp [toList_intercalate]

theorem intercalate_cons_cons (s t u : Text) (ts : List Text) :
    Text.intercalate s (t :: u :: ts) = t ++ (s ++ Text.intercalate s (u :: ts)) := by
  rw [← toList_inj]
  simp [toList_intercalate, List.intercalate_cons_cons]

theorem le_total (s t : Text) : s ≤ t ∨ t ≤ s := List.le_total _ _

theorem le_trans (hst : s ≤ t) (htu : t ≤ u) : s ≤ u := List.le_trans hst htu

theorem le_antisymm (hst : s ≤ t) (hts : t ≤ s) : s = t := by
  have h : s.toList.map Rune.toNat = t.toList.map Rune.toNat := List.le_antisymm hst hts
  exact toList_inj.mp ((List.map_inj_right fun _ _ => Rune.toNat_injective).mp h)

instance : LT Text := ⟨fun s t => (s.toList.map Rune.toNat).lt (t.toList.map Rune.toNat)⟩

theorem lt_irrefl (s : Text) : ¬ s < s := List.lt_irrefl _

theorem lt_asymm (h : s < t) : ¬ t < s := List.lt_asymm h

theorem lt_of_le_of_ne (hle : s ≤ t) (hne : s ≠ t) : s < t := by
  apply Classical.byContradiction
  intro hnot
  exact hne (le_antisymm hle (List.not_lt.mp hnot))

end Text

end Synopsis
