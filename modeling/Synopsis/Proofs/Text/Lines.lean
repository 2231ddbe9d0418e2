import Synopsis.Text.Lines

namespace Synopsis.Text

theorem splitChars_of_not_mem {sep : Rune} {cs : List Rune} (h : sep ∉ cs) :
    splitChars sep cs = [cs] := by
  induction cs with
  | nil => rfl
  | cons c r ih =>
    simp only [List.mem_cons, not_or] at h
    simp [splitChars, ih h.2, Ne.symm h.1]

theorem splitChars_append_sep {sep : Rune} {a : List Rune} (b : List Rune) (h : sep ∉ a) :
    splitChars sep (a ++ sep :: b) = a :: splitChars sep b := by
  induction a with
  | nil => simp [splitChars]
  | cons c r ih =>
    simp only [List.mem_cons, not_or] at h
    simp [splitChars, ih h.2, Ne.symm h.1]

theorem splitChars_joinChars {sep : Rune} {ls : List (List Rune)} (hne : ls ≠ [])
    (h : ∀ l ∈ ls, sep ∉ l) : splitChars sep (joinChars sep ls) = ls := by
  induction ls with
  | nil => exact absurd rfl hne
  | cons l ls ih =>
    cases ls with
    | nil => simpa [joinChars] using splitChars_of_not_mem (h l (by simp))
    | cons m ms =>
      have htail := ih (by simp) (fun x hx => h x (List.mem_cons_of_mem _ hx))
      rw [joinChars, splitChars_append_sep _ (h l (by simp)), htail]
      simp

theorem not_mem_of_mem_splitChars {sep : Rune} {cs l : List Rune} (h : l ∈ splitChars sep cs) :
    sep ∉ l := by
  induction cs generalizing l with
  | nil => simp_all [splitChars]
  | cons c r ih =>
    unfold splitChars at h
    split at h
    · rcases List.mem_cons.mp h with rfl | h
      · simp
      · exact ih h
    · rename_i hc
      cases hs : splitChars sep r with
      | nil => exact absurd hs (splitChars_ne_nil sep r)
      | cons m ms =>
        rw [hs] at h ih
        rcases List.mem_cons.mp h with rfl | h
        · have hm := ih (List.mem_cons_self)
          simp only [List.mem_cons, not_or]
          exact ⟨Ne.symm hc, hm⟩
        · exact ih (List.mem_cons_of_mem _ h)

theorem splitLines_ne_nil (s : Text) : splitLines s ≠ [] := by
  simp [splitLines, splitChars_ne_nil]

theorem lf_not_mem_of_mem_splitLines {s l : Text} (h : l ∈ splitLines s) :
    ('\n' : Rune) ∉ l.toList := by
  obtain ⟨cs, hcs, rfl⟩ := List.mem_map.mp h
  simpa using not_mem_of_mem_splitChars hcs

theorem splitLines_joinLines {ls : List Text} (hne : ls ≠ [])
    (h : ∀ l ∈ ls, ('\n' : Rune) ∉ l.toList) :
    splitLines (joinLines ls) = ls := by
  have hparts : ∀ cs ∈ ls.map Text.toList, ('\n' : Rune) ∉ cs := by
    intro cs hcs
    obtain ⟨l, hl, rfl⟩ := List.mem_map.mp hcs
    exact h l hl
  have hback : splitChars '\n' (joinChars '\n' (ls.map Text.toList)) = ls.map Text.toList :=
    splitChars_joinChars (by simpa using hne) hparts
  simp [splitLines, joinLines, hback, Function.comp_def]

/-- A character of a text of lines is in one of them, or a line feed between two. -/
theorem mem_of_mem_joinChars {sep c : Rune} {ls : List (List Rune)} (h : c ∈ joinChars sep ls) :
    c = sep ∨ ∃ l ∈ ls, c ∈ l := by
  induction ls with
  | nil => simp [joinChars] at h
  | cons l ls ih =>
    cases ls with
    | nil => exact .inr ⟨l, by simp, by simpa [joinChars] using h⟩
    | cons m ms =>
      rw [joinChars, List.mem_append, List.mem_cons] at h
      · rcases h with h | rfl | h
        · exact .inr ⟨l, by simp, h⟩
        · exact .inl rfl
        · rcases ih h with rfl | ⟨x, hx, hc⟩
          · exact .inl rfl
          · exact .inr ⟨x, List.mem_cons_of_mem _ hx, hc⟩
      · simp

theorem mem_joinChars_of_mem {sep c : Rune} {ls : List (List Rune)} {l : List Rune} (hl : l ∈ ls)
    (hc : c ∈ l) : c ∈ joinChars sep ls := by
  induction ls with
  | nil => simp at hl
  | cons m ls ih =>
    cases ls with
    | nil => simp_all [joinChars]
    | cons n ns =>
      rw [joinChars, List.mem_append, List.mem_cons]
      · rcases List.mem_cons.mp hl with rfl | hl
        · exact .inl hc
        · exact .inr (.inr (ih hl))
      · simp

theorem joinChars_eq_intercalate (sep : Rune) (parts : List (List Rune)) :
    joinChars sep parts = [sep].intercalate parts := by
  induction parts with
  | nil => rfl
  | cons part r ih =>
    cases r with
    | nil => simp [joinChars]
    | cons next r => simp [joinChars, ih, List.intercalate_cons_cons]

theorem mem_of_mem_splitLines {s l : Text} {c : Rune} (hl : l ∈ splitLines s)
    (hc : c ∈ l.toList) : c ∈ s.toList := by
  obtain ⟨cs, hcs, rfl⟩ := List.mem_map.mp hl
  rw [← joinChars_splitChars '\n' s.toList]
  exact mem_joinChars_of_mem hcs (by simpa using hc)

theorem hasCrlf_cons_of_ne {c : Rune} {r : List Rune} (h : c ≠ '\r' ∨ r.head? ≠ some (.char '\n')) :
    hasCrlf (c :: r) = hasCrlf r := by
  rw [hasCrlf]
  rintro t rfl rfl
  simp at h

theorem lfOfCrlf_cons_of_ne {c : Rune} {r : List Rune}
    (h : c ≠ '\r' ∨ r.head? ≠ some (.char '\n')) :
    lfOfCrlf (c :: r) = c :: lfOfCrlf r := by
  rw [lfOfCrlf]
  rintro t rfl rfl
  simp at h

theorem crlfOfLf_cons_of_ne {c : Rune} (r : List Rune) (h : c ≠ '\n') :
    crlfOfLf (c :: r) = c :: crlfOfLf r := by
  simp [crlfOfLf, h]

theorem crlfOfLf_cons_lf (r : List Rune) :
    crlfOfLf (.char '\n' :: r) = .char '\r' :: .char '\n' :: crlfOfLf r := by
  simp [crlfOfLf]

theorem crlfOfLf_of_not_mem {cs : List Rune} (h : ('\n' : Rune) ∉ cs) : crlfOfLf cs = cs := by
  induction cs with
  | nil => rfl
  | cons c r ih =>
    simp only [List.mem_cons, not_or] at h
    rw [crlfOfLf_cons_of_ne r (Ne.symm h.1), ih h.2]

/-- What is written with pairs starts with no line feed of its own. -/
theorem head?_crlfOfLf_ne (cs : List Rune) : (crlfOfLf cs).head? ≠ some (.char '\n') := by
  cases cs with
  | nil => simp [crlfOfLf]
  | cons c r =>
    by_cases hc : c = '\n'
    · simp [hc, crlfOfLf_cons_lf]
    · simp [hc, crlfOfLf_cons_of_ne]

theorem lfOfCrlf_crlfOfLf (cs : List Rune) : lfOfCrlf (crlfOfLf cs) = cs := by
  induction cs with
  | nil => rfl
  | cons c r ih =>
    by_cases hc : c = '\n'
    · rw [hc, crlfOfLf_cons_lf, lfOfCrlf, ih]
    · rw [crlfOfLf_cons_of_ne r hc, lfOfCrlf_cons_of_ne (.inr (head?_crlfOfLf_ne r)), ih]

theorem hasCrlf_of_lf_not_mem {cs : List Rune} (h : ('\n' : Rune) ∉ cs) : hasCrlf cs = false := by
  induction cs with
  | nil => rfl
  | cons c r ih =>
    simp only [List.mem_cons, not_or] at h
    have hr : r.head? ≠ some (.char '\n') := fun he => h.2 (List.mem_of_mem_head? he)
    rw [hasCrlf_cons_of_ne (.inr hr), ih h.2]

theorem hasCrlf_of_return_not_mem {cs : List Rune} (h : ('\r' : Rune) ∉ cs) :
    hasCrlf cs = false := by
  induction cs with
  | nil => rfl
  | cons c r ih =>
    simp only [List.mem_cons, not_or] at h
    rw [hasCrlf_cons_of_ne (.inl (Ne.symm h.1)), ih h.2]

/-- A line that ends like this makes a pair with the line feed behind it. -/
def endsInReturn (l : Text) : Bool := l.toList.getLast? = some (.char '\r')

theorem endsInReturn_of_not_mem {l : Text} (h : ('\r' : Rune) ∉ l.toList) :
    endsInReturn l = false := by
  simp only [endsInReturn, decide_eq_false_iff_not]
  exact fun he => h (List.mem_of_getLast? he)

theorem hasCrlf_append_lf {a : List Rune} (b : List Rune) (h : ('\n' : Rune) ∉ a) :
    hasCrlf (a ++ .char '\n' :: b) = (decide (a.getLast? = some (.char '\r')) || hasCrlf b) := by
  induction a with
  | nil => simp [hasCrlf_cons_of_ne]
  | cons c r ih =>
    simp only [List.mem_cons, not_or] at h
    cases r with
    | nil =>
      by_cases hc : c = '\r'
      · simp [hc, hasCrlf]
      · rw [List.cons_append, List.nil_append, hasCrlf_cons_of_ne (.inl hc),
          hasCrlf_cons_of_ne (by simp)]
        simp [hc]
    | cons d t =>
      have hd : d ≠ '\n' := fun he => h.2 (by simp [he])
      rw [List.cons_append, hasCrlf_cons_of_ne (.inr (by simpa using hd)), ih h.2]
      simp

/-- A text of line feeds holds a pair exactly when a line other than the last ends in a carriage
return. -/
theorem hasCrlf_joinLines {ls : List Text} (h : ∀ l ∈ ls, ('\n' : Rune) ∉ l.toList) :
    hasCrlf (joinLines ls).toList = ls.dropLast.any endsInReturn := by
  simp only [joinLines, Text.toList_ofList]
  induction ls with
  | nil => rfl
  | cons l ls ih =>
    have hl := h l (by simp)
    have htail := ih (fun x hx => h x (List.mem_cons_of_mem _ hx))
    cases ls with
    | nil => simpa [joinChars] using hasCrlf_of_lf_not_mem hl
    | cons m ms =>
      rw [List.map_cons, List.map_cons, joinChars, hasCrlf_append_lf _ hl,
        List.dropLast_cons_of_ne_nil (by simp), List.any_cons, ← htail]
      · rfl
      · simp

theorem lfOfAny_of_not_mem {cs : List Rune} (h : ('\r' : Rune) ∉ cs) : lfOfAny cs = cs := by
  fun_induction lfOfAny cs with
  | case1 => rfl
  | case2 r _ => simp at h
  | case3 c r _ ih =>
    simp only [List.mem_cons, not_or] at h
    rw [if_neg (Ne.symm h.1), ih h.2]

end Synopsis.Text
