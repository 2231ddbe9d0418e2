import Synopsis.Proofs.Text.Returns

namespace Synopsis.Text

/-- Whether there is a line feed without a carriage return in front of it. -/
def hasBareLf : List Rune → Bool
  | [] => false
  | .char '\r' :: .char '\n' :: r => hasBareLf r
  | c :: r => c = '\n' || hasBareLf r

variable {c : Rune} {cs a b r : List Rune}

/-- Two characters that are no pair. -/
theorem ne_of_not_pair (h : ∀ t, c = '\r' → r = .char '\n' :: t → False) :
    c ≠ '\r' ∨ r.head? ≠ some (.char '\n') := by
  by_cases hc : c = '\r'
  · right
    intro hhead
    obtain ⟨t, ht⟩ := List.head?_eq_some_iff.mp hhead
    exact h t hc ht
  · exact .inl hc

theorem hasBareLf_cons_of_ne (h : c ≠ '\r' ∨ r.head? ≠ some (.char '\n')) :
    hasBareLf (c :: r) = (decide (c = '\n') || hasBareLf r) := by
  rw [hasBareLf]
  rintro t rfl rfl
  simp at h

theorem hasBareLf_lf_cons (r : List Rune) : hasBareLf (.char '\n' :: r) = true := by
  rw [hasBareLf_cons_of_ne (.inl (by decide))]
  rfl

theorem head?_ne_of_hasBareLf (h : hasBareLf cs = false) : cs.head? ≠ some (.char '\n') := by
  intro hhead
  obtain ⟨t, rfl⟩ := List.head?_eq_some_iff.mp hhead
  rw [hasBareLf_lf_cons] at h
  simp at h

theorem hasBareLf_return_cons (h : hasBareLf r = false) : hasBareLf (.char '\r' :: r) = false := by
  rw [hasBareLf_cons_of_ne (.inr (head?_ne_of_hasBareLf h)), h]
  rfl

theorem hasBareLf_crlfOfLf (cs : List Rune) : hasBareLf (crlfOfLf cs) = false := by
  induction cs with
  | nil => rfl
  | cons c r ih =>
    by_cases hc : c = '\n'
    · rw [hc, crlfOfLf_cons_lf, hasBareLf, ih]
    · rw [crlfOfLf_cons_of_ne r hc, hasBareLf_cons_of_ne (.inr (head?_crlfOfLf_ne r)), ih]
      simp [hc]

theorem hasCrlf_crlfOfLf_iff : hasCrlf (crlfOfLf cs) = true ↔ ('\n' : Rune) ∈ cs := by
  induction cs with
  | nil => simp [crlfOfLf, hasCrlf]
  | cons c r ih =>
    by_cases hc : c = '\n'
    · simp [hc, crlfOfLf_cons_lf, hasCrlf]
    · rw [crlfOfLf_cons_of_ne r hc, hasCrlf_cons_of_ne (.inr (head?_crlfOfLf_ne r)), ih]
      simp [Ne.symm hc]

/-- Pairs are all that comes back as it was. -/
theorem crlfOfLf_lfOfCrlf_iff : crlfOfLf (lfOfCrlf cs) = cs ↔ hasBareLf cs = false := by
  constructor
  · intro h
    rw [← h]
    exact hasBareLf_crlfOfLf _
  · intro h
    induction cs using hasBareLf.induct with
    | case1 => rfl
    | case2 r ih =>
      rw [hasBareLf] at h
      rw [lfOfCrlf, crlfOfLf_cons_lf, ih h]
    | case3 c r hpair ih =>
      have hne : c ≠ '\r' ∨ r.head? ≠ some (.char '\n') := ne_of_not_pair hpair
      rw [hasBareLf_cons_of_ne hne, Bool.or_eq_false_iff, decide_eq_false_iff_not] at h
      rw [lfOfCrlf_cons_of_ne hne, crlfOfLf_cons_of_ne _ h.1, ih h.2]

/-- A line feed at the start is found again behind the return that is put in front of it. -/
theorem suffix_crlfOfLf_lfOfCrlf (h : hasBareLf (.char '\r' :: cs) = false) :
    cs <:+ crlfOfLf (lfOfCrlf cs) := by
  by_cases hhead : cs.head? = some (.char '\n')
  · obtain ⟨t, rfl⟩ := List.head?_eq_some_iff.mp hhead
    rw [hasBareLf] at h
    rw [lfOfCrlf_cons_of_ne (.inl (by decide)), crlfOfLf_cons_lf, crlfOfLf_lfOfCrlf_iff.mpr h]
    exact List.suffix_cons _ _
  · rw [hasBareLf_cons_of_ne (.inr hhead), Bool.or_eq_false_iff] at h
    exact ⟨[], (crlfOfLf_lfOfCrlf_iff.mpr h.2).symm⟩

theorem hasBareLf_return_of_cons (h : hasBareLf (.char '\r' :: c :: r) = false) :
    hasBareLf (.char '\r' :: r) = false := by
  by_cases hc : c = '\n'
  · rw [hc, hasBareLf] at h
    exact hasBareLf_return_cons h
  · rw [hasBareLf_cons_of_ne (.inr (by simpa using hc)), Bool.or_eq_false_iff] at h
    by_cases hr : c = '\r'
    · exact hr ▸ h.2
    · rw [hasBareLf_cons_of_ne (.inl hr), Bool.or_eq_false_iff] at h
      exact hasBareLf_return_cons h.2.2

/-- The end of a text of pairs can start within a pair. -/
theorem hasBareLf_of_suffix (h : a <:+ b) (hb : hasBareLf b = false) :
    hasBareLf (.char '\r' :: a) = false := by
  obtain ⟨front, rfl⟩ := h
  have hall := hasBareLf_return_cons hb
  clear hb
  induction front with
  | nil => exact hall
  | cons c front ih => exact ih (hasBareLf_return_of_cons hall)

/-- A first line, its line break if it has one, and all that follows. -/
structure Opening where
  line : List Rune
  lineBreak? : Option LineBreak
  rest : List Rune
  deriving DecidableEq

def opening : List Rune → Opening
  | [] => ⟨[], none, []⟩
  | .char '\n' :: r => ⟨[], some .lf, r⟩
  | .char '\r' :: .char '\n' :: r => ⟨[], some .crlf, r⟩
  | c :: r => { opening r with line := c :: (opening r).line }

theorem opening_cons_of_ne (hc : c ≠ '\n') (h : c ≠ '\r' ∨ r.head? ≠ some (.char '\n')) :
    opening (c :: r) = { opening r with line := c :: (opening r).line } := by
  rw [opening]
  · exact hc
  · rintro t rfl rfl
    simp at h

theorem opening_of_not_mem (h : ('\n' : Rune) ∉ cs) : opening cs = ⟨cs, none, []⟩ := by
  induction cs with
  | nil => rfl
  | cons c r ih =>
    simp only [List.mem_cons, not_or] at h
    have hr : r.head? ≠ some (.char '\n') := fun he => h.2 (List.mem_of_mem_head? he)
    rw [opening_cons_of_ne (Ne.symm h.1) (.inr hr), ih h.2]

theorem opening_append_lf (b : List Rune) (h : ('\n' : Rune) ∉ a) : opening (a ++ .char '\n' :: b) =
    if a.getLast? = some (.char '\r') then ⟨a.dropLast, some .crlf, b⟩ else ⟨a, some .lf, b⟩ := by
  induction a with
  | nil => rfl
  | cons c r ih =>
    simp only [List.mem_cons, not_or] at h
    cases r with
    | nil =>
      by_cases hc : c = '\r'
      · subst hc
        rfl
      · rw [List.cons_append, List.nil_append, opening_cons_of_ne (Ne.symm h.1) (.inl hc)]
        simp [opening, hc]
    | cons d t =>
      have hd : d ≠ '\n' := fun he => h.2 (by simp [he])
      rw [List.cons_append, opening_cons_of_ne (Ne.symm h.1) (.inr (by simpa using hd)), ih h.2,
        List.getLast?_cons_cons]
      split <;> rfl

theorem opening_rest_suffix (cs : List Rune) : (opening cs).rest <:+ cs := by
  induction cs using opening.induct with
  | case1 => exact List.suffix_refl _
  | case2 r => exact List.suffix_cons _ _
  | case3 r => exact (List.suffix_cons _ _).trans (List.suffix_cons _ _)
  | case4 c r hc hpair ih =>
    rw [opening_cons_of_ne hc (ne_of_not_pair hpair)]
    exact ih.trans (List.suffix_cons _ _)

/-- A text without a line break in it has no pair. -/
theorem hasCrlf_of_opening_none (h : (opening cs).lineBreak? = none) : hasCrlf cs = false := by
  induction cs using opening.induct with
  | case1 => rfl
  | case2 r => simp [opening] at h
  | case3 r => simp [opening] at h
  | case4 c r hc hpair ih =>
    have hne : c ≠ '\r' ∨ r.head? ≠ some (.char '\n') := ne_of_not_pair hpair
    rw [opening_cons_of_ne hc hne] at h
    rw [hasCrlf_cons_of_ne hne, ih h]

theorem hasCrlf_of_opening_crlf (h : (opening cs).lineBreak? = some .crlf) :
    hasCrlf cs = true := by
  induction cs using opening.induct with
  | case1 => simp [opening] at h
  | case2 r => simp [opening] at h
  | case3 r => rfl
  | case4 c r hc hpair ih =>
    have hne : c ≠ '\r' ∨ r.head? ≠ some (.char '\n') := ne_of_not_pair hpair
    rw [opening_cons_of_ne hc hne] at h
    rw [hasCrlf_cons_of_ne hne, ih h]

/-- The line break that stands behind a line as it was cut off. -/
def breakOf (l : Text) : LineBreak := if endsInReturn l then .crlf else .lf

variable {s l : Text} {ls : List Text}

theorem opening_single (h : splitLines s = [l]) : opening s.toList = ⟨l.toList, none, []⟩ := by
  have hl : ('\n' : Rune) ∉ l.toList := lf_not_mem_of_mem_splitLines (s := s) (by simp [h])
  have hjoin := joinLines_splitLines s
  rw [h] at hjoin
  have hs : s.toList = l.toList := by
    rw [← hjoin]
    simp [joinLines, joinChars]
  rw [hs, opening_of_not_mem hl]

theorem opening_cons (h : splitLines s = l :: ls) (hne : ls ≠ []) :
    opening s.toList = ⟨(dropReturn l).toList, some (breakOf l), (joinLines ls).toList⟩ := by
  have hl : ('\n' : Rune) ∉ l.toList := lf_not_mem_of_mem_splitLines (s := s) (by simp [h])
  have hjoin := joinLines_splitLines s
  rw [h] at hjoin
  rw [← hjoin, toList_joinLines_cons l hne, opening_append_lf _ hl]
  unfold dropReturn breakOf endsInReturn
  simp only [decide_eq_true_eq]
  split <;> simp

theorem joinLines_nil : joinLines [] = "" := rfl

theorem suffix_joinLines_append (front ls : List Text) :
    (joinLines ls).toList <:+ (joinLines (front ++ ls)).toList := by
  by_cases hne : ls = []
  · rw [hne, joinLines_nil]
    exact List.nil_suffix
  · induction front with
    | nil => exact List.suffix_refl _
    | cons l front ih =>
      rw [List.cons_append, toList_joinLines_cons l (List.append_ne_nil_of_right_ne_nil front hne)]
      exact ih.trans ((List.suffix_cons _ _).trans (List.suffix_append _ _))

theorem lf_mem_joinLines (h : 1 < ls.length) : ('\n' : Rune) ∈ (joinLines ls).toList := by
  cases ls with
  | nil => simp at h
  | cons l r =>
    have hr : r ≠ [] := by
      rintro rfl
      simp at h
    simp [toList_joinLines_cons l hr]

theorem crlfOfLf_suffix (h : a <:+ b) : crlfOfLf a <:+ crlfOfLf b := by
  obtain ⟨front, rfl⟩ := h
  rw [crlfOfLf_append]
  exact List.suffix_append _ _

namespace LineBreak

theorem apply_injective (b : LineBreak) {x y : Text} (h : b.apply x = b.apply y) : x = y := by
  cases b with
  | lf => exact h
  | crlf =>
    have hchars : crlfOfLf x.toList = crlfOfLf y.toList := by
      have htexts := congrArg Text.toList h
      simpa only [apply, Text.toList_ofList] using htexts
    rw [← Text.toList_inj, ← lfOfCrlf_crlfOfLf x.toList, hchars, lfOfCrlf_crlfOfLf]

/-- A text that does not mix its line breaks is what it was after reading and writing. -/
theorem apply_undo_iff {raw : Text} : (ofText raw).apply ((ofText raw).undo raw) = raw ↔
    hasCrlf raw.toList = false ∨ hasBareLf raw.toList = false := by
  rw [ofText]
  cases hpair : hasCrlf raw.toList with
  | false => simp [apply, undo]
  | true =>
    rw [← crlfOfLf_lfOfCrlf_iff, ← Text.toList_inj]
    simp [apply, undo]

/-- Only line breaks are added to what is written. -/
theorem mem_of_mem_apply {b : LineBreak} {x : Text} (h : c ∈ (b.apply x).toList) :
    c = '\r' ∨ c ∈ x.toList := by
  cases b with
  | lf => exact .inr h
  | crlf =>
    rw [apply, Text.toList_ofList, crlfOfLf] at h
    obtain ⟨e, he, hc⟩ := List.mem_flatMap.mp h
    by_cases hlf : e = '\n'
    · subst hlf
      simp at hc
      rcases hc with rfl | rfl
      · exact .inl rfl
      · exact .inr he
    · simp [hlf] at hc
      exact .inr (hc ▸ he)

theorem mem_apply_of_mem (b : LineBreak) {x : Text} (h : c ∈ x.toList) :
    c ∈ (b.apply x).toList := by
  cases b with
  | lf => exact h
  | crlf =>
    rw [apply, Text.toList_ofList, crlfOfLf]
    apply List.mem_flatMap.mpr
    refine ⟨c, h, ?_⟩
    split <;> simp_all

end LineBreak

end Synopsis.Text
