import Mathlib.Data.List.Forall2
import Synopsis.Proofs.Block.Cut
import Synopsis.Proofs.Text.Basic

namespace Synopsis

/-- What the dialects have in common: no line of a summary and no interpreter line can be taken for
a header or a footer. -/
structure Dialect.Lawful (d : Dialect) : Prop where
  header_ne_footer : d.header ≠ d.footer
  header_ne_empty : d.header ≠ ""
  footer_ne_empty : d.footer ≠ ""
  trim_header : Text.trim d.header = d.header
  trim_footer : Text.trim d.footer = d.footer
  header_not_interpreter : Block.isInterpreterLine d.header = false
  footer_not_interpreter : Block.isInterpreterLine d.footer = false
  indented_ne_header (l : Text) : d.indent ++ l ≠ d.header
  indented_ne_footer (l : Text) : d.indent ++ l ≠ d.footer
  plain : ∀ part ∈ [d.header, d.footer, d.indent],
    ('\n' : Rune) ∉ part.toList ∧ ('\r' : Rune) ∉ part.toList

namespace Dialect

theorem append_ne_of_dropChars?_none {indent line : Text}
    (h : Block.dropChars? indent.toList line.toList = none) (l : Text) : indent ++ l ≠ line := by
  rintro rfl
  have hsome := Block.dropChars?_eq_some_iff.mpr (Text.toList_append (s := indent) (t := l))
  rw [hsome] at h
  simp at h

theorem lawful_script : Lawful script where
  header_ne_footer := by decide
  header_ne_empty := by decide
  footer_ne_empty := by decide
  trim_header := by decide +kernel
  trim_footer := by decide +kernel
  header_not_interpreter := by decide +kernel
  footer_not_interpreter := by decide +kernel
  indented_ne_header := append_ne_of_dropChars?_none (by decide +kernel)
  indented_ne_footer := append_ne_of_dropChars?_none (by decide +kernel)
  plain := by decide +kernel

theorem lawful_hash : Lawful hash where
  header_ne_footer := by decide
  header_ne_empty := by decide
  footer_ne_empty := by decide
  trim_header := by decide +kernel
  trim_footer := by decide +kernel
  header_not_interpreter := by decide +kernel
  footer_not_interpreter := by decide +kernel
  indented_ne_header := append_ne_of_dropChars?_none (by decide +kernel)
  indented_ne_footer := append_ne_of_dropChars?_none (by decide +kernel)
  plain := by decide +kernel

theorem ofExtension?_cases {extension : Text} {d : Dialect}
    (h : ofExtension? extension = some d) : d = script ∨ d = hash := by
  unfold ofExtension? at h
  split at h
  · exact .inl (Option.some.inj h).symm
  · split at h
    · exact .inr (Option.some.inj h).symm
    · simp at h

theorem lawful_of_cases {d : Dialect} (h : d = script ∨ d = hash) : Lawful d := by
  rcases h with rfl | rfl
  · exact lawful_script
  · exact lawful_hash

theorem lawful_of_ofExtension? {extension : Text} {d : Dialect}
    (h : ofExtension? extension = some d) : Lawful d :=
  lawful_of_cases (ofExtension?_cases h)

end Dialect

namespace Block

variable {d : Dialect}

theorem header_not_mem_indented (hd : d.Lawful) (ls : List Text) :
    d.header ∉ ls.map (d.indent ++ ·) := by
  intro h
  obtain ⟨l, -, hl⟩ := List.mem_map.mp h
  exact hd.indented_ne_header l hl

theorem footer_not_mem_indented (hd : d.Lawful) (ls : List Text) :
    d.footer ∉ ls.map (d.indent ++ ·) := by
  intro h
  obtain ⟨l, -, hl⟩ := List.mem_map.mp h
  exact hd.indented_ne_footer l hl

theorem trimLast_append_single (ls : List Text) (l : Text) :
    trimLast (ls ++ [l]) = ls ++ [Text.trim l] := by
  induction ls with
  | nil => rfl
  | cons m ms ih =>
    cases ms with
    | nil => rfl
    | cons n ns => simpa [trimLast] using ih

theorem trimEnds_compose (hd : d.Lawful) (summary : Text) :
    trimEnds (compose d summary) = compose d summary := by
  simp only [compose, trimEnds, List.cons_append, hd.trim_header]
  rw [← List.cons_append, trimLast_append_single, hd.trim_footer]

/-- The lines with a block in them: an interpreter line, the block, a separator and the rest. -/
theorem place_compose (hd : d.Lawful) (summary : Text) (lines : List Text) :
    place (compose d summary) lines = (takeInterpreter lines).1 ++ d.header ::
      ((Text.splitLines summary).map (d.indent ++ ·) ++ d.footer ::
        (separator (takeInterpreter lines).2 ++ (takeInterpreter lines).2)) := by
  rw [place, trimEnds_compose hd]
  simp [compose]

/-- In front of a block there is nothing, or an interpreter line. -/
theorem takeInterpreter_front (lines : List Text) :
    (takeInterpreter lines).1 = [] ∨
      ∃ l, (takeInterpreter lines).1 = [l] ∧ isInterpreterLine l = true := by
  cases lines with
  | nil => exact .inl rfl
  | cons l r =>
    rw [takeInterpreter]
    split
    · rename_i h
      exact .inr ⟨_, rfl, (trim_interpreterLine h).1⟩
    · exact .inl rfl

theorem not_mem_takeInterpreter_front {line : Text} (lines : List Text)
    (h : isInterpreterLine line = false) : line ∉ (takeInterpreter lines).1 := by
  rcases takeInterpreter_front lines with he | ⟨l, he, hl⟩
  · simp [he]
  · rw [he, List.mem_singleton]
    rintro rfl
    simp [hl] at h

theorem takeInterpreter_rest_sublist (lines : List Text) :
    (takeInterpreter lines).2.Sublist lines := by
  cases lines with
  | nil => exact List.Sublist.refl _
  | cons l r =>
    rw [takeInterpreter]
    split
    · exact List.sublist_cons_self _ _
    · exact List.Sublist.refl _

theorem separator_cases (lines : List Text) : separator lines = [] ∨ separator lines = [""] := by
  cases lines with
  | nil => exact .inr rfl
  | cons l r =>
    rw [separator]
    split
    · exact .inl rfl
    · exact .inr rfl

/-- A block is found where it was put. -/
theorem cut?_place (hd : d.Lawful) (summary : Text) (lines : List Text) :
    cut? d.header d.footer (place (compose d summary) lines) =
      some ⟨(takeInterpreter lines).1, (Text.splitLines summary).map (d.indent ++ ·),
        separator (takeInterpreter lines).2 ++ (takeInterpreter lines).2⟩ :=
  (cut?_eq_some_iff hd.header_ne_footer).mpr
    ⟨place_compose hd summary lines, not_mem_takeInterpreter_front lines hd.header_not_interpreter,
      not_mem_takeInterpreter_front lines hd.footer_not_interpreter, footer_not_mem_indented hd _⟩

theorem extract?_place (hd : d.Lawful) (summary : Text) (lines : List Text) :
    extract? d (place (compose d summary) lines) = some (Text.splitLines summary) := by
  rw [extract?, cut?_place hd, Option.map_some, List.map_map]
  have hid : (outdent d.indent ∘ fun l => d.indent ++ l) = id := by
    funext l
    exact outdent_append d.indent l
  rw [hid, List.map_id]

/-- The lines that are not blank. -/
def filled (lines : List Text) : List Text := lines.filter fun l => !Text.isBlank l

/-- The same line, or an interpreter line that lost blanks at its end. -/
def SameLine (old new : Text) : Prop :=
  new = old ∨ isInterpreterLine old = true ∧ ∃ w, Text.isBlank w = true ∧ old = new ++ w

/-- Nothing but blank lines came or went, and every other line is the same. -/
def Keeps (old new : List Text) : Prop := List.Forall₂ SameLine (filled old) (filled new)

theorem SameLine.trans {a b c : Text} (hab : SameLine a b) (hbc : SameLine b c) :
    SameLine a c := by
  rcases hab with rfl | ⟨ha, v, hv, rfl⟩
  · exact hbc
  · rcases hbc with rfl | ⟨-, w, hw, rfl⟩
    · exact .inr ⟨ha, v, hv, rfl⟩
    · refine .inr ⟨ha, w ++ v, ?_, ?_⟩
      · simp_all [Text.isBlank]
      · exact Text.append_assoc

theorem filled_append (a b : List Text) : filled (a ++ b) = filled a ++ filled b :=
  List.filter_append ..

theorem Keeps.of_filled_eq {a b : List Text} (h : filled a = filled b) : Keeps a b := by
  rw [Keeps, h]
  exact List.forall₂_same.mpr fun l _ => .inl rfl

theorem Keeps.refl (lines : List Text) : Keeps lines lines := .of_filled_eq rfl

theorem Keeps.append {a b a' b' : List Text} (ha : Keeps a a') (hb : Keeps b b') :
    Keeps (a ++ b) (a' ++ b') := by
  unfold Keeps
  rw [filled_append, filled_append]
  exact List.rel_append ha hb

theorem Keeps.trans {a b c : List Text} (hab : Keeps a b) (hbc : Keeps b c) : Keeps a c := by
  unfold Keeps at *
  generalize filled a = x at hab
  generalize filled b = y at hab hbc
  generalize filled c = z at hbc
  induction hab generalizing z with
  | nil =>
    cases hbc
    exact .nil
  | cons hl _ ih =>
    cases hbc with
    | cons hm htail => exact .cons (hl.trans hm) (ih _ htail)

theorem filled_separator (lines : List Text) : filled (separator lines) = [] := by
  have hempty : Text.isBlank "" = true := by decide
  rcases separator_cases lines with h | h
  · simp [h, filled]
  · simp [h, filled, hempty]

theorem filled_dropSeparator (lines : List Text) :
    filled (dropSeparator lines) = filled lines := by
  cases lines with
  | nil => rfl
  | cons l r =>
    rw [dropSeparator]
    split
    · rename_i h
      simp [filled, h]
    · rfl

/-- The interpreter line keeps its place in front and loses blanks at most. -/
theorem keeps_takeInterpreter (lines : List Text) :
    Keeps lines ((takeInterpreter lines).1 ++ (takeInterpreter lines).2) := by
  cases lines with
  | nil => exact .refl _
  | cons l r =>
    rw [takeInterpreter]
    split
    · rename_i h
      obtain ⟨htrim, w, hw, hl⟩ := trim_interpreterLine h
      have hfirst : Keeps [l] [Text.trim l] := by
        simp only [Keeps, filled, List.filter_cons, isBlank_interpreterLine h,
          isBlank_interpreterLine htrim]
        exact .cons (.inr ⟨h, w, hw, hl⟩) .nil
      exact hfirst.append (.refl r)
    · exact .refl _

/-- Placing a block keeps the lines around it. -/
theorem keeps_place (lines : List Text) :
    Keeps lines ((takeInterpreter lines).1 ++
      (separator (takeInterpreter lines).2 ++ (takeInterpreter lines).2)) := by
  refine (keeps_takeInterpreter lines).trans (Keeps.of_filled_eq ?_)
  rw [filled_append, filled_append, filled_append, filled_separator, List.nil_append]

end Block

end Synopsis
