import Synopsis.Proofs.Source

namespace Synopsis

namespace Text

theorem mem_crlfOfLf_iff {c : Rune} {cs : List Rune} :
    c ∈ crlfOfLf cs ↔ c ∈ cs ∨ c = '\r' ∧ ('\n' : Rune) ∈ cs := by
  simp only [crlfOfLf, List.mem_flatMap]
  constructor
  · intro h
    obtain ⟨x, hx, hc⟩ := h
    by_cases hlf : x = '\n'
    · subst hlf
      simp at hc
      grind
    · grind
  · grind

/-- Lines in front of something and lines behind it, as one text. -/
def around (front rest : List Text) : List Rune :=
  front.flatMap (fun l => l.toList ++ [.char '\n']) ++ (joinLines rest).toList

variable {front rest : List Text}

theorem mem_around_iff {c : Rune} (hc : c ≠ '\n') :
    c ∈ around front rest ↔ ∃ l ∈ front ++ rest, c ∈ l.toList := by
  have hrest : c ∈ (joinLines rest).toList ↔ ∃ l ∈ rest, c ∈ l.toList := by
    rw [joinLines, Text.toList_ofList]
    constructor
    · intro h
      obtain ⟨cs, hcs, hmem⟩ := (mem_of_mem_joinChars h).resolve_left hc
      obtain ⟨l, hl, rfl⟩ := List.mem_map.mp hcs
      exact ⟨l, hl, hmem⟩
    · intro h
      obtain ⟨l, hl, hmem⟩ := h
      exact mem_joinChars_of_mem (List.mem_map_of_mem hl) hmem
  simp [around, List.mem_append, List.mem_flatMap, hrest, hc, or_and_right, exists_or]

theorem around_mark_crlf (hplain : ∀ l ∈ front ++ rest, ('\n' : Rune) ∉ l.toList) :
    around (front.map LineBreak.crlf.mark) (mapInit LineBreak.crlf.mark rest) =
      crlfOfLf (around front rest) := by
  have hrest : crlfOfLf (joinLines rest).toList =
      (joinLines (mapInit LineBreak.crlf.mark rest)).toList :=
    crlfOfLf_joinLines fun l hl => hplain l (List.mem_append_right _ hl)
  rw [around, around, crlfOfLf_append, hrest]
  congr 1
  induction front with
  | nil => rfl
  | cons l r ih =>
    have hl := hplain l (by simp)
    have htail := ih fun x hx => hplain x (List.mem_cons_of_mem _ hx)
    rw [List.map_cons, List.flatMap_cons, List.flatMap_cons, crlfOfLf_append, htail,
      crlfOfLf_append, crlfOfLf_of_not_mem hl]
    simp [LineBreak.mark, crlfOfLf]

/-- Lines without returns get them by the line break that they are written with. -/
theorem return_mem_around_iff (b : LineBreak)
    (hplain : ∀ l ∈ front ++ rest, ('\n' : Rune) ∉ l.toList)
    (hfree : ∀ l ∈ front ++ rest, ('\r' : Rune) ∉ l.toList) :
    ('\r' : Rune) ∈ around (front.map b.mark) (mapInit b.mark rest) ↔
      b = .crlf ∧ ('\n' : Rune) ∈ around (front.map b.mark) (mapInit b.mark rest) := by
  have hnone : ('\r' : Rune) ∉ around front rest := by
    rw [mem_around_iff (by decide)]
    intro h
    obtain ⟨l, hl, hmem⟩ := h
    exact hfree l hl hmem
  cases b with
  | lf =>
    have hfront : front.map (LineBreak.mark .lf) = front := List.map_id front
    have hrest : mapInit (LineBreak.mark .lf) rest = rest := mapInit_eq_self fun _ _ => rfl
    simp [hfront, hrest, hnone]
  | crlf =>
    rw [around_mark_crlf hplain, mem_crlfOfLf_iff, mem_crlfOfLf_iff]
    simp [hnone]

end Text

namespace Source

open Text Block

/-- The text of a file in front of its block and behind it, as it is written there. -/
def outside (d : Dialect) (raw : Text) : List Rune :=
  match cut? d.header d.footer (ofText raw).lines with
  | some c => around ((splitLines raw).take c.before.length)
      ((splitLines raw).drop (c.before.length + (c.body.length + 2)))
  | none => raw.toList

example : outside .hash "x\n### AUTO-SUMMARY ###\n#  a\r\n### END-SUMMARY ###\ny\n" =
    ("x\ny\n" : Text).toList := by decide +kernel

variable {d : Dialect} {s : Source} {raw : Text}

theorem mem_of_mem_outside {c : Rune} (hc : c ≠ '\n') (h : c ∈ outside d raw) :
    c ∈ raw.toList := by
  unfold outside at h
  split at h
  · obtain ⟨l, hl, hmem⟩ := (mem_around_iff hc).mp h
    rcases List.mem_append.mp hl with hl | hl
    · exact mem_of_mem_splitLines (List.mem_of_mem_take hl) hmem
    · exact mem_of_mem_splitLines (List.mem_of_mem_drop hl) hmem
  · exact h

theorem drop_block (front body rest : List Text) (header footer : Text) :
    (front ++ header :: (body ++ footer :: rest)).drop (front.length + (body.length + 2)) =
      rest := by
  have hlast : front ++ header :: (body ++ footer :: rest) =
      (front ++ header :: (body ++ [footer])) ++ rest := by simp
  rw [hlast]
  exact List.drop_left' (by simp)

/-- The lines of a block are found in the file where they are found among those that are read. -/
theorem outside_of_cut {f : Text → Text} {header footer : Text} {front body rest : List Text}
    {c : Cut} (hwritten : splitLines raw = mapInit f (front ++ header :: (body ++ footer :: rest)))
    (hcut : cut? d.header d.footer (ofText raw).lines = some c)
    (hfront : c.before.length = front.length) (hbody : c.body.length = body.length) :
    outside d raw = around (front.map f) (mapInit f rest) := by
  rw [outside, hcut]
  simp only [hfront, hbody, hwritten, drop_mapInit, drop_block]
  rw [take_mapInit (by simp), List.take_left]

/-- A line that is read outside the block has nothing in it that is not there in the file. -/
theorem return_not_mem_remove (hne : d.header ≠ d.footer) (h : ('\r' : Rune) ∉ outside d raw) :
    ∀ l ∈ remove d (ofText raw).lines, ('\r' : Rune) ∉ l.toList := by
  intro l hl hreturn
  apply h
  rw [outside]
  cases hcut : cut? d.header d.footer (ofText raw).lines with
  | none =>
    simp only [remove, hcut] at hl
    rw [lines_ofText] at hl
    obtain ⟨m, hm, rfl | rfl⟩ := mem_of_mem_mapInit hl
    · exact mem_of_mem_splitLines hm hreturn
    · exact mem_of_mem_splitLines hm (mem_of_mem_dropReturn hreturn)
  | some c =>
    simp only [remove, hcut] at hl
    have hlines := ((cut?_eq_some_iff hne).mp hcut).lines_eq
    rw [lines_ofText] at hlines
    have hshort : c.before.length < (splitLines raw).length := by
      have hlength := length_mapInit dropReturn (splitLines raw)
      rw [hlines, List.length_append, List.length_cons] at hlength
      omega
    apply (mem_around_iff (by decide)).mpr
    rcases List.mem_append.mp hl with hl | hl
    · have hbefore := take_mapInit (f := dropReturn) hshort
      rw [hlines, List.take_left] at hbefore
      rw [hbefore] at hl
      obtain ⟨m, hm, rfl⟩ := List.mem_map.mp hl
      exact ⟨m, List.mem_append_left _ hm, mem_of_mem_dropReturn hreturn⟩
    · have hafter := drop_mapInit (f := dropReturn) (splitLines raw)
        (c.before.length + (c.body.length + 2))
      rw [hlines, drop_block] at hafter
      rw [hafter] at hl
      obtain ⟨m, hm, rfl | rfl⟩ := mem_of_mem_mapInit hl
      · exact ⟨l, List.mem_append_right _ hm, hreturn⟩
      · exact ⟨m, List.mem_append_right _ hm, mem_of_mem_dropReturn hreturn⟩

theorem outside_annotate (hd : d.Lawful) (hs : s.Stable) (summary : Text) :
    outside d (s.annotate d summary).text =
      around ((s.front d).map s.lineBreak.mark) (mapInit s.lineBreak.mark (s.rest d)) := by
  have hne : (s.annotate d summary).lines ≠ [] := by simp [annotate_lines hd, compose]
  have hlines : (s.annotate d summary).lines = s.front d ++ d.header ::
      ((splitLines summary).map (d.indent ++ ·) ++ d.footer :: s.rest d) :=
    place_compose hd summary _
  have hwritten := splitLines_text hne (plain_annotate hd hs summary)
  rw [hlines] at hwritten
  have hcut := cut?_annotate hd (s.lineBreak.kept summary) s
  rw [← lines_ofText_annotate hd hs] at hcut
  exact outside_of_cut hwritten hcut rfl (by simp [LineBreak.splitLines_kept])

theorem return_mem_outside_annotate_iff (hd : d.Lawful) (h : ('\r' : Rune) ∉ outside d raw)
    (summary : Text) : ('\r' : Rune) ∈ outside d ((ofText raw).annotate d summary).text ↔
      (ofText raw).lineBreak = .crlf ∧
        ('\n' : Rune) ∈ outside d ((ofText raw).annotate d summary).text := by
  have hs := stable_ofText raw
  have hremove := return_not_mem_remove hd.header_ne_footer h
  have hplain : ∀ l ∈ remove d (ofText raw).lines, ('\n' : Rune) ∉ l.toList := fun l hl =>
    hs.plain l ((remove_sublist d _ hd.header_ne_footer).subset hl)
  -- outside the block there are trimmed lines, lines that were there and an empty one
  have hfree (c : Rune) (hc : ∀ l ∈ remove d (ofText raw).lines, c ∉ l.toList) :
      ∀ l ∈ (ofText raw).front d ++ (ofText raw).rest d, c ∉ l.toList := by
    intro l hl
    rcases List.mem_append.mp hl with hl | hl
    · obtain ⟨m, hm, rfl⟩ := mem_front hl
      exact fun hmem => hc m hm (mem_of_mem_trim hmem)
    · rcases mem_rest hl with rfl | hl
      · simp
      · exact hc l hl
  rw [outside_annotate hd hs]
  exact return_mem_around_iff _ (hfree _ hplain) (hfree _ hremove)

/-- Lines that are read again as they were written. -/
theorem return_mem_outside_text_iff (hne : d.header ≠ d.footer) (hs : s.Stable)
    (hfree : ∀ l ∈ remove d s.lines, ('\r' : Rune) ∉ l.toList) :
    ('\r' : Rune) ∈ outside d s.text ↔ s.lineBreak = .crlf ∧ ('\n' : Rune) ∈ outside d s.text := by
  have hwritten := splitLines_text hs.lines_ne_nil hs.plain
  have hread := lines_ofText_text hs
  cases hcut : cut? d.header d.footer s.lines with
  | none =>
    have hall : outside d s.text =
        around (([] : List Text).map s.lineBreak.mark) (mapInit s.lineBreak.mark s.lines) := by
      rw [outside, hread, hcut, ← hwritten]
      simp [around, joinLines_splitLines]
    simp only [remove, hcut] at hfree
    rw [hall]
    exact return_mem_around_iff _ (by simpa using hs.plain) (by simpa using hfree)
  | some c =>
    have hlines := ((cut?_eq_some_iff hne).mp hcut).lines_eq
    have hplain : ∀ l ∈ c.before ++ c.after, ('\n' : Rune) ∉ l.toList := by
      intro l hl
      apply hs.plain
      rw [hlines]
      rcases List.mem_append.mp hl with hl | hl
      · simp [hl]
      · simp [hl]
    simp only [remove, hcut] at hfree
    rw [hlines] at hwritten
    rw [← hread] at hcut
    rw [outside_of_cut hwritten hcut rfl rfl]
    exact return_mem_around_iff _ hplain hfree

theorem return_mem_outside_strip_iff (hne : d.header ≠ d.footer) (h : ('\r' : Rune) ∉ outside d raw)
    {stripped : Source} (hstrip : (ofText raw).strip? d = some stripped) :
    ('\r' : Rune) ∈ outside d stripped.text ↔
      (ofText raw).lineBreak = .crlf ∧ ('\n' : Rune) ∈ outside d stripped.text := by
  obtain ⟨lines, hlines, rfl⟩ := Option.map_eq_some_iff.mp hstrip
  have hfree : ∀ l ∈ lines, ('\r' : Rune) ∉ l.toList := fun l hl =>
    return_not_mem_remove hne h l ((strip?_sublist_remove hlines).subset hl)
  by_cases hnil : lines = []
  · -- no lines are written like an empty one
    subst hnil
    let empty : Source := ⟨[""], (ofText raw).lineBreak⟩
    have hs : empty.Stable := ⟨by simp [empty], by simp [empty], by simp [empty]⟩
    have hnone : ∀ l ∈ remove d empty.lines, ('\r' : Rune) ∉ l.toList := by
      intro l hl
      simp [List.mem_singleton.mp ((remove_sublist d _ hne).subset hl)]
    have htext : ({ ofText raw with lines := [] } : Source).text = empty.text := by
      simp [empty, text, content, joinLines, joinChars]
    rw [htext]
    exact return_mem_outside_text_iff hne hs hnone
  · have hs := (stable_ofText raw).of_sublist hnil (strip?_sublist hne hlines)
    exact return_mem_outside_text_iff hne hs fun l hl =>
      hfree l ((remove_sublist d _ hne).subset hl)

theorem hasCrlf_text (hs : s.Stable) (hbreak : s.lineBreak = .lf) :
    hasCrlf s.text.toList = false := by
  have hany := hasCrlf_joinLines hs.plain
  have hnone : s.lines.dropLast.any endsInReturn = false := by
    apply List.any_eq_false.mpr
    intro l hl
    simp [hs.returns hbreak l hl]
  rw [hnone] at hany
  rwa [text_of_lf hbreak]

theorem hasCrlf_strip (hne : d.header ≠ d.footer) (hs : s.Stable) (hbreak : s.lineBreak = .lf)
    {stripped : Source} (hstrip : s.strip? d = some stripped) :
    hasCrlf stripped.text.toList = false := by
  obtain ⟨lines, hlines, rfl⟩ := Option.map_eq_some_iff.mp hstrip
  by_cases hnil : lines = []
  · rw [text, hbreak, hnil]
    rfl
  · exact hasCrlf_text (hs.of_sublist hnil (strip?_sublist hne hlines)) hbreak

theorem any_endsInReturn_compose (hd : d.Lawful) (summary : Text) :
    (compose d summary).any endsInReturn = (splitLines summary).any endsInReturn := by
  have hpart (part : Text) (hpart : part ∈ [d.header, d.footer, d.indent]) :
      endsInReturn part = false := endsInReturn_of_not_mem (hd.plain part hpart).2
  have hindent : (endsInReturn ∘ fun l => d.indent ++ l) = endsInReturn := by
    funext l
    exact endsInReturn_append (hd.plain d.indent (by simp)).2 l
  simp [compose, hpart d.header (by simp), hpart d.footer (by simp), List.any_map, hindent]

theorem hasCrlf_annotate (hd : d.Lawful) (hs : s.Stable) (hbreak : s.lineBreak = .lf)
    (summary : Text) : hasCrlf (s.annotate d summary).text.toList =
      (splitLines summary).any endsInReturn := by
  have hany := hasCrlf_joinLines (plain_annotate hd hs summary)
  have hfront : (s.front d).any endsInReturn = false := by
    apply List.any_eq_false.mpr
    intro l hl
    simp [endsInReturn_of_mem_front hl]
  have hrest : (s.rest d).dropLast.any endsInReturn = false := by
    apply List.any_eq_false.mpr
    intro l hl
    simp [endsInReturn_of_mem_dropLast_rest hd hs hbreak hl]
  have hlast : (s.annotate d summary).lines.dropLast.any endsInReturn =
      (splitLines summary).any endsInReturn := by
    rw [annotate_lines hd, List.dropLast_append_of_ne_nil (by simp [compose]),
      List.dropLast_append_of_ne_nil (rest_ne_nil d s), List.any_append, List.any_append, hfront,
      hrest, any_endsInReturn_compose hd, Bool.false_or, Bool.or_false]
  change hasCrlf (s.lineBreak.apply (joinLines (s.annotate d summary).lines)).toList = _
  rw [hbreak, ← hlast]
  exact hany

end Source

end Synopsis
