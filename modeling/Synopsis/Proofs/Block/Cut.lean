import Synopsis.Block.Basic
import Synopsis.Proofs.Text.Blank
import Synopsis.Proofs.Text.Lines

namespace Synopsis

namespace Block

theorem dropChars?_eq_some_iff {ps cs r : List Rune} :
    dropChars? ps cs = some r ↔ cs = ps ++ r := by
  induction ps generalizing cs with
  | nil => simp [dropChars?]
  | cons p ps ih =>
    cases cs with
    | nil => simp [dropChars?]
    | cons c cs =>
      by_cases h : p = c
      · simp [dropChars?, h, ih]
      · simp [dropChars?, h, Ne.symm h]

theorem isInterpreterLine_iff {l : Text} :
    isInterpreterLine l = true ↔ ∃ r, l.toList = .char '#' :: .char '!' :: r := by
  simp [isInterpreterLine, Option.isSome_iff_exists, dropChars?_eq_some_iff]

/-- Trimming an interpreter line takes blanks from its end alone. -/
theorem trim_interpreterLine {l : Text} (h : isInterpreterLine l = true) :
    isInterpreterLine (Text.trim l) = true ∧
      ∃ w, Text.isBlank w = true ∧ l = Text.trim l ++ w := by
  obtain ⟨r, hr⟩ := isInterpreterLine_iff.mp h
  refine ⟨isInterpreterLine_iff.mpr ⟨Text.trimEndChars r, ?_⟩,
    Text.trim_append_blank hr (by decide)⟩
  simp only [Text.trim, Text.trimChars, Text.toList_ofList, hr]
  rw [Text.trimStartChars_of_head (by decide), Text.trimEndChars_cons_of_not_blank _ (by decide),
    Text.trimEndChars_cons_of_not_blank _ (by decide)]

theorem isBlank_interpreterLine {l : Text} (h : isInterpreterLine l = true) :
    Text.isBlank l = false := by
  obtain ⟨r, hr⟩ := isInterpreterLine_iff.mp h
  have hhash : Text.isBlankChar '#' = false := by decide
  simp [Text.isBlank, hr, hhash]

theorem outdent_append (indent line : Text) : outdent indent (indent ++ line) = line := by
  have h : dropChars? indent.toList (indent ++ line).toList = some line.toList :=
    dropChars?_eq_some_iff.mpr Text.toList_append
  rw [outdent, h]

theorem upTo?_eq_some_iff {footer : Text} {lines body after : List Text} :
    upTo? footer lines = some (body, after) ↔
      lines = body ++ footer :: after ∧ footer ∉ body := by
  induction lines generalizing body with
  | nil => simp [upTo?]
  | cons l r ih =>
    by_cases h : l = footer
    · cases body with
      | nil => simp [upTo?, h]
      | cons b bs =>
        simp only [upTo?, h, if_true, Option.some.injEq, Prod.mk.injEq, List.cons_append,
          List.cons.injEq, List.mem_cons, not_or]
        constructor
        · rintro ⟨hb, -⟩
          exact absurd hb (by simp)
        · rintro ⟨⟨hb, -⟩, hne, -⟩
          exact absurd hb hne
    · cases body with
      | nil => simp [upTo?, h]
      | cons b bs =>
        simp only [upTo?, h, if_false, Option.map_eq_some_iff, Prod.exists, Prod.mk.injEq,
          List.cons.injEq, List.cons_append, List.mem_cons, not_or]
        constructor
        · rintro ⟨b', a', hup, ⟨rfl, rfl⟩, rfl⟩
          obtain ⟨hr, hnot⟩ := ih.mp hup
          exact ⟨⟨rfl, hr⟩, Ne.symm h, hnot⟩
        · rintro ⟨⟨rfl, hr⟩, -, hnot⟩
          exact ⟨bs, after, ih.mpr ⟨hr, hnot⟩, ⟨rfl, rfl⟩, rfl⟩

/-- The lines that a cut takes apart. -/
structure CutsAt (header footer : Text) (lines : List Text) (c : Cut) : Prop where
  lines_eq : lines = c.before ++ header :: (c.body ++ footer :: c.after)
  header_before : header ∉ c.before
  footer_before : footer ∉ c.before
  footer_body : footer ∉ c.body

namespace CutsAt

variable {header footer l : Text} {r : List Text} {c : Cut}

/-- The first line is that of the front, or the header if there is no front. -/
theorem head_eq (h : CutsAt header footer (l :: r) c) :
    (c.before = [] ∧ l = header ∧ r = c.body ++ footer :: c.after) ∨
      ∃ before, c.before = l :: before ∧ r = before ++ header :: (c.body ++ footer :: c.after) := by
  have hl := h.lines_eq
  cases hb : c.before with
  | nil =>
    rw [hb, List.nil_append, List.cons.injEq] at hl
    exact .inl ⟨rfl, hl.1, hl.2⟩
  | cons b bs =>
    rw [hb, List.cons_append, List.cons.injEq] at hl
    exact .inr ⟨bs, by rw [hl.1], hl.2⟩

/-- There is no cut with a footer in front of every header. -/
theorem head_ne_footer (hne : header ≠ footer) (h : CutsAt header footer (l :: r) c) :
    l ≠ footer := by
  rintro rfl
  rcases h.head_eq with ⟨-, heq, -⟩ | ⟨before, hb, -⟩
  · exact hne heq.symm
  · exact h.footer_before (by simp [hb])

theorem header_cons_iff : CutsAt header footer (header :: r) c ↔
    ∃ body after, upTo? footer r = some (body, after) ∧ ⟨[], body, after⟩ = c := by
  constructor
  · intro h
    rcases h.head_eq with ⟨hb, -, hr⟩ | ⟨before, hb, -⟩
    · refine ⟨c.body, c.after, upTo?_eq_some_iff.mpr ⟨hr, h.footer_body⟩, ?_⟩
      rw [← hb]
    · exact absurd (by simp [hb]) h.header_before
  · rintro ⟨body, after, hup, rfl⟩
    obtain ⟨hr, hnot⟩ := upTo?_eq_some_iff.mp hup
    exact ⟨by simp [hr], by simp, by simp, hnot⟩

theorem cons_iff (hf : l ≠ footer) (hh : l ≠ header) : CutsAt header footer (l :: r) c ↔
    ∃ c', CutsAt header footer r c' ∧ { c' with before := l :: c'.before } = c := by
  constructor
  · intro h
    have hheader := h.header_before
    have hfooter := h.footer_before
    rcases h.head_eq with ⟨-, heq, -⟩ | ⟨before, hb, hr⟩
    · exact absurd heq hh
    · rw [hb, List.mem_cons, not_or] at hheader hfooter
      refine ⟨⟨before, c.body, c.after⟩, ⟨hr, hheader.2, hfooter.2, h.footer_body⟩, ?_⟩
      rw [← hb]
  · rintro ⟨c', h, rfl⟩
    refine ⟨by simp [h.lines_eq], ?_, ?_, h.footer_body⟩
    · simpa using ⟨Ne.symm hh, h.header_before⟩
    · simpa using ⟨Ne.symm hf, h.footer_before⟩

end CutsAt

/-- A cut is the one way to write the lines as a front without header and footer, the header, a body
without footer, the footer and a rest. -/
theorem cut?_eq_some_iff {header footer : Text} {lines : List Text} {c : Cut}
    (hne : header ≠ footer) : cut? header footer lines = some c ↔ CutsAt header footer lines c := by
  induction lines generalizing c with
  | nil =>
    constructor
    · intro h
      simp [cut?] at h
    · intro h
      have hl := h.lines_eq
      simp at hl
  | cons l r ih =>
    by_cases hf : l = footer
    · -- a footer in front of every header
      have hnot : ¬ CutsAt header footer (l :: r) c := fun h => h.head_ne_footer hne hf
      simp only [cut?, hf, if_true]
      rw [hf] at hnot
      simp [hnot]
    by_cases hh : l = header
    · subst hh
      rw [CutsAt.header_cons_iff]
      simp only [cut?, hf, if_false, if_true, Option.map_eq_some_iff, Prod.exists]
    · rw [CutsAt.cons_iff hf hh]
      simp only [cut?, hf, hh, if_false, Option.map_eq_some_iff, ih]

theorem cut?_eq_none {header footer : Text} {lines : List Text}
    (h : header ∉ lines ∨ footer ∉ lines) (hne : header ≠ footer) :
    cut? header footer lines = none := by
  cases hc : cut? header footer lines with
  | none => rfl
  | some c =>
    have hl := ((cut?_eq_some_iff hne).mp hc).lines_eq
    rcases h with h | h <;> exact absurd (by simp [hl]) h

theorem remove_sublist (d : Dialect) (lines : List Text) (hne : d.header ≠ d.footer) :
    (remove d lines).Sublist lines := by
  unfold remove
  split
  · rename_i c hc
    have hl := ((cut?_eq_some_iff hne).mp hc).lines_eq
    rw [hl]
    apply List.Sublist.append (List.Sublist.refl _)
    apply List.Sublist.cons
    exact (List.sublist_append_of_sublist_right (List.sublist_cons_self _ _))
  · exact List.Sublist.refl _

theorem dropSeparator_sublist (lines : List Text) : (dropSeparator lines).Sublist lines := by
  cases lines with
  | nil => exact List.Sublist.refl _
  | cons l r =>
    rw [dropSeparator]
    split
    · exact List.sublist_cons_self _ _
    · exact List.Sublist.refl _

theorem strip?_sublist_remove {d : Dialect} {lines stripped : List Text}
    (h : strip? d lines = some stripped) : stripped.Sublist (remove d lines) := by
  obtain ⟨c, hc, rfl⟩ := Option.map_eq_some_iff.mp h
  simp only [remove, hc]
  exact (List.Sublist.refl _).append (dropSeparator_sublist _)

theorem strip?_sublist {d : Dialect} {lines stripped : List Text} (hne : d.header ≠ d.footer)
    (h : strip? d lines = some stripped) : stripped.Sublist lines :=
  (strip?_sublist_remove h).trans (remove_sublist d lines hne)

end Block

end Synopsis
