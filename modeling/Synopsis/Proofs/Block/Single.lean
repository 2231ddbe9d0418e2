import Synopsis.Proofs.Block.Placing

namespace Synopsis.Block

variable {d : Dialect}

/-- The lines `original`, without a header or a footer. -/
structure HoldsNone (d : Dialect) (original lines : List Text) : Prop where
  header : d.header ∉ lines
  footer : d.footer ∉ lines
  keeps : Keeps original lines

/-- The lines `original` with the block of a summary in them and with no other header or footer.
Only an interpreter line may stand in front of it. -/
def HoldsOnly (d : Dialect) (original : List Text) (summary : Text) (lines : List Text) :
    Prop :=
  ∃ front rest, lines = front ++ d.header ::
      ((Text.splitLines summary).map (d.indent ++ ·) ++ d.footer :: rest) ∧
    lines.count d.header = 1 ∧ lines.count d.footer = 1 ∧
    (front = [] ∨ ∃ l, front = [l] ∧ isInterpreterLine l = true) ∧ Keeps original (front ++ rest)

theorem count_header (hd : d.Lawful) (front rest : List Text) (summary : Text) :
    (front ++ d.header :: ((Text.splitLines summary).map (d.indent ++ ·) ++ d.footer :: rest)).count
      d.header = (front ++ rest).count d.header + 1 := by
  have hbody := List.count_eq_zero.mpr (header_not_mem_indented hd (Text.splitLines summary))
  simp only [List.count_append, List.count_cons, hbody, beq_self_eq_true, if_true, beq_iff_eq,
    hd.header_ne_footer.symm, if_false]
  omega

theorem count_footer (hd : d.Lawful) (front rest : List Text) (summary : Text) :
    (front ++ d.header :: ((Text.splitLines summary).map (d.indent ++ ·) ++ d.footer :: rest)).count
      d.footer = (front ++ rest).count d.footer + 1 := by
  have hbody := List.count_eq_zero.mpr (footer_not_mem_indented hd (Text.splitLines summary))
  simp only [List.count_append, List.count_cons, hbody, beq_self_eq_true, if_true, beq_iff_eq,
    hd.header_ne_footer, if_false]
  omega

theorem HoldsNone.cut? {original lines : List Text} (hd : d.Lawful)
    (h : HoldsNone d original lines) : cut? d.header d.footer lines = none :=
  cut?_eq_none (.inl h.header) hd.header_ne_footer

theorem HoldsNone.remove {original lines : List Text} (hd : d.Lawful)
    (h : HoldsNone d original lines) : Block.remove d lines = lines := by
  rw [Block.remove, h.cut? hd]

/-- Where the block of lines that hold just one is found. -/
theorem HoldsOnly.cut? {original lines : List Text} {summary : Text} (hd : d.Lawful)
    (h : HoldsOnly d original summary lines) :
    ∃ front rest, cut? d.header d.footer lines =
        some ⟨front, (Text.splitLines summary).map (d.indent ++ ·), rest⟩ ∧
      HoldsNone d original (front ++ rest) := by
  obtain ⟨front, rest, rfl, hheader, hfooter, -, hkeeps⟩ := h
  rw [count_header hd] at hheader
  rw [count_footer hd] at hfooter
  have hh : d.header ∉ front ++ rest := List.count_eq_zero.mp (by omega)
  have hf : d.footer ∉ front ++ rest := List.count_eq_zero.mp (by omega)
  refine ⟨front, rest, (cut?_eq_some_iff hd.header_ne_footer).mpr ⟨rfl, ?_, ?_, ?_⟩, hh, hf, hkeeps⟩
  · exact fun hm => hh (List.mem_append_left _ hm)
  · exact fun hm => hf (List.mem_append_left _ hm)
  · exact footer_not_mem_indented hd _

theorem HoldsOnly.remove {original lines : List Text} {summary : Text} (hd : d.Lawful)
    (h : HoldsOnly d original summary lines) : HoldsNone d original (Block.remove d lines) := by
  obtain ⟨front, rest, hcut, hnone⟩ := h.cut? hd
  rwa [Block.remove, hcut]

theorem HoldsOnly.strip? {original lines : List Text} {summary : Text} (hd : d.Lawful)
    (h : HoldsOnly d original summary lines) :
    ∃ stripped, strip? d lines = some stripped ∧ HoldsNone d original stripped := by
  obtain ⟨front, rest, hcut, hnone⟩ := h.cut? hd
  refine ⟨front ++ dropSeparator rest, by rw [Block.strip?, hcut, Option.map_some], ?_⟩
  have hsub : (front ++ dropSeparator rest).Sublist (front ++ rest) :=
    (List.Sublist.refl _).append (dropSeparator_sublist rest)
  refine ⟨fun hm => hnone.header (hsub.subset hm), fun hm => hnone.footer (hsub.subset hm),
    hnone.keeps.trans (Keeps.of_filled_eq ?_)⟩
  rw [filled_append, filled_append, filled_dropSeparator]

theorem HoldsNone.place {original lines : List Text} (hd : d.Lawful)
    (h : HoldsNone d original lines) (summary : Text) :
    HoldsOnly d original summary (Block.place (compose d summary) lines) := by
  let front := (takeInterpreter lines).1
  let rest := (takeInterpreter lines).2
  have hmem (l : Text) (hl : isInterpreterLine l = false) (hne : l ≠ "") (hnot : l ∉ lines) :
      l ∉ front ++ (separator rest ++ rest) := by
    simp only [List.mem_append, not_or]
    refine ⟨not_mem_takeInterpreter_front lines hl, ?_, ?_⟩
    · rcases separator_cases rest with hs | hs <;> simp [hs, hne]
    · intro hr
      exact hnot ((takeInterpreter_rest_sublist lines).subset hr)
  have hheader := hmem _ hd.header_not_interpreter hd.header_ne_empty h.header
  have hfooter := hmem _ hd.footer_not_interpreter hd.footer_ne_empty h.footer
  rw [place_compose hd]
  refine ⟨front, separator rest ++ rest, rfl, ?_, ?_, takeInterpreter_front lines,
    h.keeps.trans (keeps_place lines)⟩
  · rw [count_header hd, List.count_eq_zero.mpr hheader]
  · rw [count_footer hd, List.count_eq_zero.mpr hfooter]

end Synopsis.Block
