import Synopsis.Text.Encoding

namespace Synopsis.Text

/-- An encoding holds a text if it holds each of its code points. -/
theorem Encoding.fault?_eq_none_iff {e : Encoding} {s : Text} :
    e.fault? s = none ↔ ∀ c ∈ s.toList, e.holds c = true := by
  have hdrop (cs : List Rune) : cs.dropWhile e.holds = [] ↔ ∀ c ∈ cs, e.holds c = true := by
    induction cs with
    | nil => simp
    | cons c r ih => cases hc : e.holds c <;> simp [hc, ih]
  rw [← hdrop, Encoding.fault?]
  cases s.toList.dropWhile e.holds <;> simp

/-- What is encoded in UTF-8 is made of characters. -/
theorem Encoding.fault?_utf8_eq_none_iff {s : Text} :
    utf8.fault? s = none ↔ ∃ cs : List Char, s = .ofChars cs := by
  rw [fault?_eq_none_iff]
  constructor
  · intro h
    have hchars (rs : List Rune) (h : ∀ c ∈ rs, utf8.holds c = true) :
        ∃ cs : List Char, rs = cs.map .char := by
      induction rs with
      | nil => exact ⟨[], rfl⟩
      | cons c r ih =>
        obtain ⟨cs, rfl⟩ := ih fun d hd => h d (List.mem_cons_of_mem _ hd)
        cases c with
        | char c => exact ⟨c :: cs, rfl⟩
        | half n =>
          have hholds := h _ List.mem_cons_self
          cases hholds
    obtain ⟨cs, hcs⟩ := hchars _ h
    exact ⟨cs, toList_inj.mp hcs⟩
  · rintro ⟨cs, rfl⟩ c hc
    obtain ⟨d, -, rfl⟩ := List.mem_map.mp hc
    rfl

theorem Encoding.fault?_ofChars (cs : List Char) : utf8.fault? (.ofChars cs) = none :=
  fault?_utf8_eq_none_iff.mpr ⟨cs, rfl⟩

end Synopsis.Text
