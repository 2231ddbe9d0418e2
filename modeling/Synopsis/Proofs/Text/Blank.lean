import Synopsis.Text.Blank

namespace Synopsis.Text

theorem trimEndChars_append_blank (cs : List Rune) :
    ∃ w : List Rune, w.all isBlankChar = true ∧ cs = trimEndChars cs ++ w := by
  refine ⟨(cs.reverse.takeWhile isBlankChar).reverse, ?_, ?_⟩
  · rw [List.all_reverse]
    exact List.all_takeWhile
  · rw [trimEndChars, trimStartChars, ← List.reverse_append, List.takeWhile_append_dropWhile,
      List.reverse_reverse]

theorem trimEndChars_cons_of_not_blank {c : Rune} (r : List Rune) (h : isBlankChar c = false) :
    trimEndChars (c :: r) = c :: trimEndChars r := by
  simp only [trimEndChars, trimStartChars, List.reverse_cons, List.dropWhile_append]
  split
  · simp_all
  · simp

theorem getLast?_trimEndChars_not_blank {c : Rune} {cs : List Rune}
    (h : (trimEndChars cs).getLast? = some c) : isBlankChar c = false := by
  rw [trimEndChars, List.getLast?_reverse] at h
  obtain ⟨r, hr⟩ : ∃ r, trimStartChars cs.reverse = c :: r := by
    cases hs : trimStartChars cs.reverse with
    | nil => simp [hs] at h
    | cons d t => exact ⟨t, by simp_all⟩
  exact head_trimStartChars hr

theorem getLast?_trim_not_blank {c : Rune} {s : Text} (h : (trim s).toList.getLast? = some c) :
    isBlankChar c = false := by
  simp only [trim, Text.toList_ofList, trimChars] at h
  exact getLast?_trimEndChars_not_blank h

theorem isBlank_trim {s : Text} (h : trim s ≠ "") : isBlank (trim s) = false := by
  apply Bool.eq_false_iff.mpr
  intro hall
  have hne : (trim s).toList ≠ [] := fun hnil => h (Text.toList_inj.mp hnil)
  have hc := List.getLast?_eq_some_getLast hne
  have hblank := List.all_eq_true.mp hall _ (List.mem_of_getLast? hc)
  simp [getLast?_trim_not_blank hc] at hblank

/-- Without a blank in front, trimming takes away the end alone. -/
theorem trim_append_blank {s : Text} {c : Rune} {r : List Rune} (hs : s.toList = c :: r)
    (hc : isBlankChar c = false) : ∃ w : Text, isBlank w = true ∧ s = trim s ++ w := by
  obtain ⟨w, hw, happend⟩ := trimEndChars_append_blank s.toList
  refine ⟨.ofList w, by simpa [isBlank] using hw, ?_⟩
  rw [← Text.toList_inj]
  simp only [Text.toList_append, trim, trimChars]
  rwa [hs, trimStartChars_of_head hc, ← hs]

theorem trim_trim (s : Text) : trim (trim s) = trim s := by
  have hstart : trimStartChars (trimChars s.toList) = trimChars s.toList := by
    rw [trimChars]
    cases h : trimStartChars s.toList with
    | nil => rfl
    | cons c r =>
      have hc := head_trimStartChars h
      rw [trimEndChars_cons_of_not_blank r hc, trimStartChars_of_head hc]
  have hend : trimEndChars (trimChars s.toList) = trimChars s.toList := trimEndChars_trimEndChars _
  simp only [trim, Text.toList_ofList]
  change Text.ofList (trimEndChars (trimStartChars (trimChars s.toList))) = _
  rw [hstart, hend]

theorem mem_of_mem_trimEndChars {c : Rune} {cs : List Rune} (h : c ∈ trimEndChars cs) : c ∈ cs := by
  obtain ⟨w, -, happend⟩ := trimEndChars_append_blank cs
  rw [happend]
  exact List.mem_append_left w h

theorem mem_of_mem_trim {c : Rune} {s : Text} (h : c ∈ (trim s).toList) : c ∈ s.toList := by
  simp only [trim, Text.toList_ofList, trimChars] at h
  exact (List.dropWhile_sublist isBlankChar).subset (mem_of_mem_trimEndChars h)

end Synopsis.Text
