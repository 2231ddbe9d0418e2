import Synopsis.Proofs.Block.Placing
import Synopsis.Proofs.Text.Returns
import Synopsis.Source

namespace Synopsis

namespace Text

theorem endsInReturn_trim (l : Text) : endsInReturn (trim l) = false := by
  simp only [endsInReturn, decide_eq_false_iff_not]
  intro h
  have hblank : isBlankChar '\r' = true := by decide
  simp [getLast?_trim_not_blank h] at hblank

theorem sublist_dropLast {α : Type} {a b : List α} (h : a.Sublist b) :
    a.dropLast.Sublist b.dropLast := by
  have htail := h.reverse.tail
  rw [List.tail_reverse, List.tail_reverse] at htail
  exact List.reverse_sublist.mp htail

end Text

namespace Source

open Text Block

/-- Lines that are found again when they have been written. With line feeds alone no line but the
last may end in a carriage return, or a pair would come about. -/
structure Stable (s : Source) : Prop where
  lines_ne_nil : s.lines ≠ []
  plain : ∀ l ∈ s.lines, ('\n' : Rune) ∉ l.toList
  returns : s.lineBreak = .lf → ∀ l ∈ s.lines.dropLast, endsInReturn l = false

theorem stable_ofText (raw : Text) : Stable (ofText raw) where
  lines_ne_nil := splitLines_ne_nil _
  plain := fun _ h => lf_not_mem_of_mem_splitLines h
  returns := by
    intro hbreak l hl
    simp only [ofText, LineBreak.ofText] at hbreak hl
    split at hbreak
    · simp at hbreak
    · rename_i hpair
      rw [if_neg hpair] at hl
      have hplain : ∀ m ∈ splitLines raw, ('\n' : Rune) ∉ m.toList :=
        fun _ hm => lf_not_mem_of_mem_splitLines hm
      have hany := hasCrlf_joinLines hplain
      rw [joinLines_splitLines, Bool.eq_false_iff.mpr hpair] at hany
      exact Bool.eq_false_iff.mpr (List.any_eq_false.mp hany.symm l hl)

theorem lineBreak_ofText_eq_crlf_iff {raw : Text} :
    (ofText raw).lineBreak = .crlf ↔ hasCrlf raw.toList = true := by
  simp only [ofText, LineBreak.ofText]
  split <;> simp_all

theorem lineBreak_ofText_eq_lf_iff {raw : Text} :
    (ofText raw).lineBreak = .lf ↔ hasCrlf raw.toList = false := by
  simp only [ofText, LineBreak.ofText]
  split <;> simp_all

theorem content_ofText (raw : Text) :
    (ofText raw).content = (LineBreak.ofText raw).undo raw := by
  rw [content, ofText, joinLines_splitLines]

theorem lines_ofText (raw : Text) : (ofText raw).lines = mapInit dropReturn (splitLines raw) :=
  splitLines_undo_ofText raw

theorem text_of_lf {s : Source} (h : s.lineBreak = .lf) : s.text = joinLines s.lines := by
  rw [text, h]
  rfl

theorem toList_text_of_crlf {s : Source} (h : s.lineBreak = .crlf) :
    s.text.toList = crlfOfLf (joinLines s.lines).toList := by
  rw [text, h, LineBreak.apply, Text.toList_ofList]
  rfl

theorem splitLines_text {s : Source} (hne : s.lines ≠ [])
    (h : ∀ l ∈ s.lines, ('\n' : Rune) ∉ l.toList) :
    splitLines s.text = mapInit s.lineBreak.mark s.lines :=
  LineBreak.splitLines_apply s.lineBreak hne h

theorem lines_ofText_text {s : Source} (h : Stable s) : (ofText s.text).lines = s.lines := by
  rw [lines_ofText, splitLines_text h.lines_ne_nil h.plain, mapInit_mapInit]
  apply mapInit_eq_self
  intro l hl
  exact LineBreak.reread_eq_self fun hbreak => h.returns hbreak l hl

theorem Stable.of_sublist {s : Source} (h : Stable s) {lines : List Text} (hne : lines ≠ [])
    (hsub : lines.Sublist s.lines) : Stable { s with lines } where
  lines_ne_nil := hne
  plain := fun l hl => h.plain l (hsub.subset hl)
  returns := fun hbreak l hl => h.returns hbreak l ((sublist_dropLast hsub).subset hl)

variable {d : Dialect} {s : Source} {l : Text}

/-- The lines that stay in front of a block. -/
def front (d : Dialect) (s : Source) : List Text := (takeInterpreter (remove d s.lines)).1

/-- The lines that come behind a block, with the one that separates them from it. -/
def rest (d : Dialect) (s : Source) : List Text :=
  separator (takeInterpreter (remove d s.lines)).2 ++ (takeInterpreter (remove d s.lines)).2

theorem mem_front (h : l ∈ s.front d) : ∃ m ∈ remove d s.lines, l = trim m := by
  rw [front] at h
  cases hlines : remove d s.lines with
  | nil => simp [hlines, takeInterpreter] at h
  | cons m r =>
    rw [hlines, takeInterpreter] at h
    split at h
    · exact ⟨m, List.mem_cons_self, List.mem_singleton.mp h⟩
    · simp at h

theorem endsInReturn_of_mem_front (h : l ∈ s.front d) : endsInReturn l = false := by
  obtain ⟨m, -, rfl⟩ := mem_front h
  exact endsInReturn_trim m

theorem rest_ne_nil (d : Dialect) (s : Source) : s.rest d ≠ [] := by
  unfold rest
  cases (takeInterpreter (remove d s.lines)).2 <;> simp [separator]

theorem mem_rest (h : l ∈ s.rest d) : l = "" ∨ l ∈ remove d s.lines := by
  rcases List.mem_append.mp h with h | h
  · rcases separator_cases (takeInterpreter (remove d s.lines)).2 with hs | hs <;> simp_all
  · exact .inr ((takeInterpreter_rest_sublist _).subset h)

theorem mem_dropLast_rest (h : l ∈ (s.rest d).dropLast) :
    l = "" ∨ l ∈ (remove d s.lines).dropLast := by
  rw [rest] at h
  cases hrest : (takeInterpreter (remove d s.lines)).2 with
  | nil => simp [hrest, separator] at h
  | cons m r =>
    rw [List.dropLast_append_of_ne_nil (by simp [hrest])] at h
    rcases List.mem_append.mp h with h | h
    · rcases separator_cases (takeInterpreter (remove d s.lines)).2 with hs | hs <;> simp_all
    · exact .inr ((sublist_dropLast (takeInterpreter_rest_sublist _)).subset h)

theorem endsInReturn_of_mem_dropLast_rest (hd : d.Lawful) (h : Stable s)
    (hbreak : s.lineBreak = .lf) (hl : l ∈ (s.rest d).dropLast) : endsInReturn l = false := by
  rcases mem_dropLast_rest hl with rfl | hl
  · rfl
  · have hsub := sublist_dropLast (remove_sublist d s.lines hd.header_ne_footer)
    exact h.returns hbreak l (hsub.subset hl)

theorem annotate_lines (hd : d.Lawful) (summary : Text) (s : Source) :
    (s.annotate d summary).lines = s.front d ++ (compose d summary ++ s.rest d) := by
  rw [annotate, place_compose hd]
  simp [compose, front, rest]

theorem annotate_lineBreak (d : Dialect) (summary : Text) (s : Source) :
    (s.annotate d summary).lineBreak = s.lineBreak := rfl

theorem cut?_annotate (hd : d.Lawful) (summary : Text) (s : Source) :
    cut? d.header d.footer (s.annotate d summary).lines =
      some ⟨s.front d, (splitLines summary).map (d.indent ++ ·), s.rest d⟩ :=
  cut?_place hd summary _

theorem mem_compose_iff {summary : Text} : l ∈ compose d summary ↔
    l = d.header ∨ l = d.footer ∨ ∃ m ∈ splitLines summary, l = d.indent ++ m := by
  simp only [compose, List.cons_append, List.mem_cons, List.mem_append, List.mem_map,
    List.not_mem_nil, or_false]
  grind

theorem not_mem_of_mem_compose {c : Rune} {summary : Text}
    (hpart : ∀ part ∈ [d.header, d.footer, d.indent], c ∉ part.toList)
    (hsummary : ∀ m ∈ splitLines summary, c ∉ m.toList) (h : l ∈ compose d summary) :
    c ∉ l.toList := by
  rcases mem_compose_iff.mp h with rfl | rfl | ⟨m, hm, rfl⟩
  · exact hpart _ (by simp)
  · exact hpart _ (by simp)
  · rw [Text.toList_append, List.mem_append, not_or]
    exact ⟨hpart _ (by simp), hsummary m hm⟩

/-- A line of a block ends in a return only if the line of the summary does. -/
theorem map_reread_compose (hd : d.Lawful) (b : LineBreak) (summary : Text) :
    (compose d summary).map b.reread = compose d (b.kept summary) := by
  have hplain (part : Text) (hpart : part ∈ [d.header, d.footer, d.indent]) :
      b.reread part = part :=
    LineBreak.reread_eq_self fun _ => endsInReturn_of_not_mem (hd.plain part hpart).2
  have hindent := (hd.plain d.indent (by simp)).2
  simp only [compose, LineBreak.splitLines_kept, List.map_append, List.map_cons, List.map_nil,
    List.map_map, hplain d.header (by simp), hplain d.footer (by simp)]
  congr 2
  apply List.map_congr_left
  intro l _
  exact b.reread_append hindent l

theorem plain_annotate (hd : d.Lawful) (h : Stable s) (summary : Text) :
    ∀ l ∈ (s.annotate d summary).lines, ('\n' : Rune) ∉ l.toList := by
  have hsub := remove_sublist d s.lines hd.header_ne_footer
  intro l hl
  rw [annotate_lines hd, List.mem_append, List.mem_append] at hl
  rcases hl with hl | hl | hl
  · obtain ⟨m, hm, rfl⟩ := mem_front hl
    exact fun hc => h.plain m (hsub.subset hm) (mem_of_mem_trim hc)
  · exact not_mem_of_mem_compose (fun part hpart => (hd.plain part hpart).1)
      (fun m hm => lf_not_mem_of_mem_splitLines hm) hl
  · rcases mem_rest hl with rfl | hl
    · simp
    · exact h.plain l (hsub.subset hl)

theorem lines_ofText_annotate (hd : d.Lawful) (h : Stable s) (summary : Text) :
    (ofText (s.annotate d summary).text).lines =
      (s.annotate d (s.lineBreak.kept summary)).lines := by
  have hne : (s.annotate d summary).lines ≠ [] := by simp [annotate_lines hd, compose]
  have hfront : (s.front d).map s.lineBreak.reread = s.front d := by
    conv_rhs => rw [← List.map_id (s.front d)]
    apply List.map_congr_left
    intro l hl
    exact LineBreak.reread_eq_self fun _ => endsInReturn_of_mem_front hl
  have hrest : mapInit s.lineBreak.reread (s.rest d) = s.rest d := by
    apply mapInit_eq_self
    intro l hl
    exact LineBreak.reread_eq_self fun hbreak => endsInReturn_of_mem_dropLast_rest hd h hbreak hl
  rw [lines_ofText, splitLines_text hne (plain_annotate hd h summary), mapInit_mapInit]
  change mapInit s.lineBreak.reread _ = _
  rw [annotate_lines hd, annotate_lines hd, ← List.append_assoc,
    mapInit_append _ (rest_ne_nil d s), List.map_append, hfront, hrest, map_reread_compose hd,
    List.append_assoc]

theorem stable_annotate (hd : d.Lawful) (h : Stable s) {summary : Text}
    (hr : ('\r' : Rune) ∉ summary.toList) : Stable (s.annotate d summary) where
  lines_ne_nil := by simp [annotate_lines hd, compose]
  plain := plain_annotate hd h summary
  returns := by
    intro hbreak l hl
    rw [annotate_lines hd, List.dropLast_append_of_ne_nil (by simp [compose]),
      List.dropLast_append_of_ne_nil (rest_ne_nil d s), List.mem_append, List.mem_append] at hl
    rcases hl with hl | hl | hl
    · exact endsInReturn_of_mem_front hl
    · exact endsInReturn_of_not_mem (not_mem_of_mem_compose
        (fun part hpart => (hd.plain part hpart).2)
        (fun m hm hc => hr (mem_of_mem_splitLines hm hc)) hl)
    · exact endsInReturn_of_mem_dropLast_rest hd h hbreak hl

theorem extract?_annotate (hd : d.Lawful) (summary : Text) (s : Source) :
    extract? d (s.annotate d summary).lines = some (splitLines summary) :=
  extract?_place hd summary _

theorem summary?_annotate (hd : d.Lawful) {summary : Text} (hb : isBlank summary = false)
    (s : Source) : (s.annotate d summary).summary? d = some summary := by
  simp [summary?, extract?_annotate hd, joinLines_splitLines, hb]

/-- A summary is found by the lines alone. -/
theorem summary?_congr {s s' : Source} (h : s.lines = s'.lines) : s.summary? d = s'.summary? d := by
  simp [summary?, h]

theorem mem_of_mem_outdent {indent line : Text} {c : Rune}
    (h : c ∈ (outdent indent line).toList) : c ∈ line.toList := by
  unfold outdent at h
  split at h
  · rename_i cs hcs
    rw [dropChars?_eq_some_iff.mp hcs]
    exact List.mem_append_right _ (by simpa using h)
  · exact h

/-- A summary that was found is made of the lines between header and footer. -/
theorem extract?_of_summary? {s : Source} (hs : Stable s) (hne : d.header ≠ d.footer)
    {summary : Text} (h : s.summary? d = some summary) :
    extract? d s.lines = some (splitLines summary) ∧ isBlank summary = false := by
  obtain ⟨body, hbody, hsome⟩ := Option.bind_eq_some_iff.mp h
  by_cases hblank : isBlank (joinLines body) = true
  · simp [hblank] at hsome
  rw [if_neg hblank, Option.some.injEq] at hsome
  subst hsome
  refine ⟨?_, Bool.eq_false_iff.mpr hblank⟩
  obtain ⟨c, hc, rfl⟩ := Option.map_eq_some_iff.mp hbody
  have hlines := ((cut?_eq_some_iff hne).mp hc).lines_eq
  rw [hbody, splitLines_joinLines]
  · intro he
    rw [he] at hblank
    exact hblank (by decide)
  · intro l hl hlf
    obtain ⟨m, hm, rfl⟩ := List.mem_map.mp hl
    exact hs.plain m (by simp [hlines, hm]) (mem_of_mem_outdent hlf)

end Source

end Synopsis
