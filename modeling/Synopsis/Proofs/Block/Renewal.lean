import Synopsis.Proofs.Block.Placing
import Synopsis.Source

namespace Synopsis

namespace Block

variable {d : Dialect}

/-- The lines around a block that was placed: an interpreter line, the separator and the rest. -/
def surrounding (lines : List Text) : List Text :=
  (takeInterpreter lines).1 ++
    (separator (takeInterpreter lines).2 ++ (takeInterpreter lines).2)

/-- Behind a block stands a blank line, be it a new one or one of the file. -/
theorem exists_blank_cons (lines : List Text) :
    ∃ l r, separator lines ++ lines = l :: r ∧ Text.isBlank l = true := by
  have hempty : Text.isBlank "" = true := rfl
  cases lines with
  | nil => exact ⟨"", [], rfl, hempty⟩
  | cons l r =>
    cases hblank : Text.isBlank l with
    | true => exact ⟨l, r, by simp [separator, hblank], hblank⟩
    | false => exact ⟨"", l :: r, by simp [separator, hblank], hempty⟩

theorem separator_append (lines : List Text) : separator (separator lines ++ lines) = [] := by
  obtain ⟨l, r, hlines, hblank⟩ := exists_blank_cons lines
  rw [hlines, separator, if_pos hblank]

/-- A blank line is no interpreter line. -/
theorem takeInterpreter_append_separator (lines : List Text) :
    takeInterpreter (separator lines ++ lines) = ([], separator lines ++ lines) := by
  obtain ⟨l, r, hlines, hblank⟩ := exists_blank_cons lines
  have hplain : isInterpreterLine l ≠ true := by
    intro hl
    rw [isBlank_interpreterLine hl] at hblank
    cases hblank
  rw [hlines, takeInterpreter, if_neg hplain]

theorem takeInterpreter_surrounding (lines : List Text) :
    takeInterpreter (surrounding lines) = ((takeInterpreter lines).1,
      separator (takeInterpreter lines).2 ++ (takeInterpreter lines).2) := by
  cases lines with
  | nil => exact takeInterpreter_append_separator []
  | cons l r =>
    cases hl : isInterpreterLine l with
    | true =>
      have htrim := (trim_interpreterLine hl).1
      simp [surrounding, takeInterpreter, hl, htrim, Text.trim_trim]
    | false =>
      have hplain : takeInterpreter (l :: r) = ([], l :: r) := by simp [takeInterpreter, hl]
      rw [surrounding, hplain]
      exact takeInterpreter_append_separator (l :: r)

theorem place_surrounding (hd : d.Lawful) (summary : Text) (lines : List Text) :
    place (compose d summary) (surrounding lines) = place (compose d summary) lines := by
  rw [place_compose hd, place_compose hd, takeInterpreter_surrounding, separator_append,
    List.nil_append]

theorem remove_place (hd : d.Lawful) (summary : Text) (lines : List Text) :
    remove d (place (compose d summary) lines) = surrounding lines := by
  rw [remove, cut?_place hd, surrounding]

/-- A new block takes the place of the one that was placed before, separator and all. -/
theorem place_remove_place (hd : d.Lawful) (first second : Text) (lines : List Text) :
    place (compose d second) (remove d (place (compose d first) lines)) =
      place (compose d second) lines := by
  rw [remove_place hd, place_surrounding hd]

theorem annotate_annotate (hd : d.Lawful) (first second : Text) (s : Source) :
    (s.annotate d first).annotate d second = s.annotate d second := by
  have hlines := place_remove_place hd first second (remove d s.lines)
  simp only [Source.annotate, hlines]

/-- Of any number of summaries that are put into a source the last one counts. -/
theorem foldl_annotate (hd : d.Lawful) (earlier : List Text) (last : Text) (s : Source) :
    (earlier ++ [last]).foldl (fun s summary => s.annotate d summary) s = s.annotate d last := by
  induction earlier generalizing s with
  | nil => rfl
  | cons first r ih =>
    rw [List.cons_append, List.foldl_cons, ih]
    exact annotate_annotate hd first last s

/-- A summary that was placed is found again, whatever it holds and whatever the lines hold. -/
theorem summary_of_place (h : d = .script ∨ d = .hash) (summary : Text) (lines : List Text) :
    extract? d (place (compose d summary) lines) = some (Text.splitLines summary) ∧
      Text.joinLines (Text.splitLines summary) = summary :=
  ⟨extract?_place (Dialect.lawful_of_cases h) summary lines, Text.joinLines_splitLines summary⟩

/-- Headers, footers and indented lines in the summary, and an interpreter line and a block in the
lines. -/
theorem summary_of_place_sentinels : (Dialect.hash = .script ∨ Dialect.hash = .hash) ∧
    extract? .hash (place (compose .hash "### END-SUMMARY ###\n#  x\n### AUTO-SUMMARY ###")
      ["#!/bin/sh ", "### AUTO-SUMMARY ###", "### END-SUMMARY ###"]) =
        some (["### END-SUMMARY ###", "#  x", "### AUTO-SUMMARY ###"] : List Text) := by
  have hsplit : Text.splitLines "### END-SUMMARY ###\n#  x\n### AUTO-SUMMARY ###" =
      (["### END-SUMMARY ###", "#  x", "### AUTO-SUMMARY ###"] : List Text) := by decide +kernel
  refine ⟨.inr rfl, ?_⟩
  rw [(summary_of_place (.inr rfl) _ _).1, hsplit]

/-- Neither blocks nor separators pile up. -/
theorem renewed_of_place (h : d = .script ∨ d = .hash) :
    (∀ (lines : List Text) (first second : Text),
      place (compose d second) (remove d (place (compose d first) lines)) =
        place (compose d second) lines) ∧
    ∀ (s : Source) (earlier : List Text) (last : Text),
      (earlier ++ [last]).foldl (fun s summary => s.annotate d summary) s = s.annotate d last :=
  ⟨fun lines first second => place_remove_place (Dialect.lawful_of_cases h) first second lines,
    fun s earlier last => foldl_annotate (Dialect.lawful_of_cases h) earlier last s⟩

/-- A script with a blank line, a stray header and a block, and summaries that hold a footer. -/
theorem renewed_of_place_sentinels : (Dialect.script = .script ∨ Dialect.script = .hash) ∧
    place (compose .script "b") (remove .script (place (compose .script "*** END-SUMMARY **/\n   a")
      ["#!/bin/sh ", "", "/** AUTO-SUMMARY **", "/** AUTO-SUMMARY **", "*** END-SUMMARY **/"])) =
      ["#!/bin/sh", "/** AUTO-SUMMARY **", "   b", "*** END-SUMMARY **/", "",
        "/** AUTO-SUMMARY **", "/** AUTO-SUMMARY **", "*** END-SUMMARY **/"] := by
  refine ⟨.inl rfl, ?_⟩
  rw [(renewed_of_place (.inl rfl)).1]
  decide +kernel

theorem cut?_append {header footer : Text} {front : List Text} (hheader : header ∉ front)
    (hfooter : footer ∉ front) (lines : List Text) : cut? header footer (front ++ lines) =
      (cut? header footer lines).map fun c => { c with before := front ++ c.before } := by
  induction front with
  | nil => simp
  | cons l r ih =>
    rw [List.mem_cons, not_or] at hheader hfooter
    rw [List.cons_append, cut?, if_neg (Ne.symm hfooter.1), if_neg (Ne.symm hheader.1),
      ih hheader.2 hfooter.2, Option.map_map]
    rfl

theorem isIn_append {front : List Text} (hheader : d.header ∉ front) (hfooter : d.footer ∉ front)
    (lines : List Text) : isIn d (front ++ lines) = isIn d lines := by
  rw [isIn, isIn, cut?_append hheader hfooter, Option.isSome_map]

/-- Placing a block makes no other block of the lines around it. -/
theorem isIn_surrounding (hd : d.Lawful) (lines : List Text) :
    isIn d (surrounding lines) = isIn d lines := by
  have hseparator : isIn d (separator (takeInterpreter lines).2 ++ (takeInterpreter lines).2) =
      isIn d (takeInterpreter lines).2 := by
    rcases separator_cases (takeInterpreter lines).2 with hs | hs
    · rw [hs, List.nil_append]
    · rw [hs]
      exact isIn_append (by simp [hd.header_ne_empty]) (by simp [hd.footer_ne_empty]) _
  rw [surrounding, isIn_append (not_mem_takeInterpreter_front lines hd.header_not_interpreter)
    (not_mem_takeInterpreter_front lines hd.footer_not_interpreter), hseparator]
  cases lines with
  | nil => rfl
  | cons l r =>
    rw [takeInterpreter]
    split
    · rename_i hl
      have hne (line : Text) (hline : isInterpreterLine line = false) : line ∉ [l] := by
        rw [List.mem_singleton]
        rintro rfl
        simp [hl] at hline
      exact (isIn_append (hne _ hd.header_not_interpreter) (hne _ hd.footer_not_interpreter) r).symm
    · rfl

/-- Where the first block is taken out, there is a block if there is one behind it. -/
theorem isIn_remove_iff (hd : d.Lawful) (lines : List Text) : isIn d (remove d lines) = true ↔
    ∃ c, cut? d.header d.footer lines = some c ∧ isIn d c.after = true := by
  rw [remove]
  cases hcut : cut? d.header d.footer lines with
  | none => simp [isIn, hcut]
  | some c =>
    have hc := (cut?_eq_some_iff hd.header_ne_footer).mp hcut
    simp [isIn_append hc.header_before hc.footer_before]

/-- Lines with one block in them and no more. -/
structure HoldsSingle (d : Dialect) (lines : List Text) : Prop where
  first : isIn d lines = true
  no_more : isIn d (remove d lines) = false

/-- After a block was renewed it is the only one, unless there was another one behind it. -/
theorem holdsSingle_place_iff (hd : d.Lawful) (summary : Text) (lines : List Text) :
    HoldsSingle d (place (compose d summary) (remove d lines)) ↔
      ∀ c, cut? d.header d.footer lines = some c → isIn d c.after = false := by
  have hin : isIn d (place (compose d summary) (remove d lines)) = true := by
    rw [isIn, cut?_place hd]
    rfl
  have hrest : isIn d (remove d (place (compose d summary) (remove d lines))) =
      isIn d (remove d lines) := by
    rw [remove_place hd, isIn_surrounding hd]
  have hiff := isIn_remove_iff hd lines
  constructor
  · intro h c hcut
    have hnone := h.no_more
    rw [hrest] at hnone
    exact Bool.eq_false_iff.mpr fun hafter => by simp [hiff.mpr ⟨c, hcut, hafter⟩] at hnone
  · intro h
    refine ⟨hin, ?_⟩
    rw [hrest]
    apply Bool.eq_false_iff.mpr
    intro hmore
    obtain ⟨c, hcut, hafter⟩ := hiff.mp hmore
    simp [h c hcut] at hafter

end Block

end Synopsis
