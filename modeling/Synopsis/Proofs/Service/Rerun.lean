import Synopsis.Proofs.Service.Naming

namespace Synopsis.Service

variable {α σ : Type} {sv : Service α σ} {known index : Index} {path other summary : Text}
  {paths : List Text} {t t' : Tree} {report : Report} {s s' : Session α σ}

/-- Paths that lead to one file agree on the dialect of its summary. -/
theorem dialect_eq_of_destination? {d d' : Dialect} {loc : Location}
    (hloc : sv.destination? t path = some loc) (hloc' : sv.destination? t other = some loc)
    (hin : sv.embedding? path = some d) (hin' : sv.embedding? other = some d') : d = d' := by
  have hd := ofExtension?_of_embedding? hin
  have hd' := ofExtension?_of_embedding? hin'
  obtain ⟨file, hplace, rfl⟩ := place_of_destination? hloc
  obtain ⟨file', hplace', hsame⟩ := place_of_destination? hloc'
  have hname := getLast?_destination (t := t) hplace hd
  rw [← hsame, getLast?_destination hplace' hd', Option.some.injEq] at hname
  rw [← extension_of_name hname, hd', Option.some.injEq] at hd
  exact hd.symm

/-- A file in which a summary is found. -/
def Settled (sv : Service α σ) (t : Tree) (path summary : Text) : Prop :=
  ∃ d file source, sv.embedding? path = some d ∧ sv.read t path = .ok (file, source) ∧
    source.summary? d = some summary

/-- What lies at one location is read in one way. -/
theorem read_of_destination_eq {p q : Path} {source source' : Source}
    (hp : sv.read t path = .ok (p, source)) (hq : sv.read t other = .ok (q, source'))
    (h : t.destination p = t.destination q) : source = source' := by
  obtain ⟨-, raw, hexact, rfl⟩ := read_eq_ok_iff.mp hp
  obtain ⟨-, raw', hexact', rfl⟩ := read_eq_ok_iff.mp hq
  obtain ⟨loc, content, mode, hloc, hitem, -, hdec⟩ := Tree.readExact_eq_ok_iff.mp hexact
  obtain ⟨loc', content', mode', hloc', hitem', -, hdec'⟩ := Tree.readExact_eq_ok_iff.mp hexact'
  rw [Tree.locate_eq_destination hloc, h, ← Tree.locate_eq_destination hloc', hitem'] at hitem
  simp only [Option.some.injEq, Item.file.injEq] at hitem
  rw [← hitem.1, hdec', Except.ok.injEq] at hdec
  rw [hdec]

theorem Settled.spares {changed : Location → Prop} (h : Settled sv t path summary)
    (hs : Tree.Spares changed t t')
    (hpath : ∀ loc, sv.destination? t path = some loc → ¬ changed loc) :
    Settled sv t' path summary := by
  obtain ⟨d, file, source, hin, hread, hfound⟩ := h
  exact ⟨d, file, source, hin, read_spares hs hpath hread, hfound⟩

/-- A file that is written had no summary, so it is not one of those in which one is found. -/
theorem Settled.annotates {result : Except Failure Annotation} (h : Settled sv t path summary)
    (hforce : sv.settings.force = false) (hone : Annotates sv known other t result t') :
    Settled sv t' path summary := by
  have hspares := hone.spares
  cases hone with
  | written hyes file source hread hnone text hreply d hin _ hwrite =>
    refine h.spares hspares ?_
    intro loc hloc hotherloc
    obtain ⟨d', file', source', hin', hread', hfound⟩ := h
    obtain rfl : d' = d := dialect_eq_of_destination? hloc hotherloc.2 hin' hin
    rw [destination?_of_read hread', Option.some.injEq] at hloc
    rw [Touches, destination?_of_read hread, Option.some.injEq] at hotherloc
    have hsame : t.destination file' = t.destination file := hloc.trans hotherloc.2.symm
    obtain rfl : source' = source := read_of_destination_eq hread' hread hsame
    rw [embedded?_eq hforce hin, hfound] at hnone
    simp at hnone
  | _ => exact h

/-- A result whose summary can be found again: there is one unless the type is not supported, and if
it belongs into the file it is there. -/
structure Left (sv : Service α σ) (t : Tree) (a : Annotation) : Prop where
  skipped : sv.isSupported a.path = false → a.outcome = .skipped
  found : sv.isSupported a.path = true → a.outcome.summary?.isSome
  full (text : Text) : a.outcome.summary? = some text → text ≠ ""
  settled (text : Text) : a.outcome.summary? = some text → sv.embedding? a.path ≠ none →
    Settled sv t a.path text

theorem Left.of_summary {outcome : Outcome} {text : Text} (hyes : sv.isSupported path = true)
    (hsome : outcome.summary? = some text) (hne : text ≠ "")
    (hsettled : sv.embedding? path ≠ none → Settled sv t path text) :
    Left sv t ⟨path, outcome⟩ where
  skipped hno := by simp [hyes] at hno
  found _ := by rw [hsome]; rfl
  full other hother := by
    rw [hsome, Option.some.injEq] at hother
    exact hother ▸ hne
  settled other hother hin := by
    rw [hsome, Option.some.injEq] at hother
    exact hother ▸ hsettled hin

theorem ne_empty_of_not_blank {text : Text} (h : Text.isBlank text = false) : text ≠ "" := by
  rintro rfl
  exact absurd h (by decide)

theorem ne_empty_of_summary? {text : Text} (h : Index.summary? index path = some text) :
    text ≠ "" := by
  unfold Index.summary? at h
  split at h
  · split at h
    · simp at h
    · simp only [Option.some.injEq] at h
      rwa [← h]
  · simp at h

theorem Annotates.left {a : Annotation} (h : Annotates sv known path t (.ok a) t')
    (hforce : sv.settings.force = false)
    (hreply : ∀ text, sv.Replies text → Text.isBlank text = false ∧ ('\r' : Rune) ∉ text.toList) :
    Left sv t' a := by
  cases h with
  | skipped hno =>
    exact ⟨fun _ => rfl, fun hyes => by simp [hno] at hyes,
      fun text hsome => by simp [Outcome.summary?] at hsome,
      fun text hsome => by simp [Outcome.summary?] at hsome⟩
  | cached hyes text hknown =>
    have hout : sv.isExcluded path = true ∧ text ≠ "" := by
      unfold reusable? at hknown
      split at hknown
      · rename_i hexcluded
        exact ⟨hexcluded, ne_empty_of_summary? hknown⟩
      · simp at hknown
    exact .of_summary hyes rfl hout.2 fun hin => absurd (by simp [embedding?, hout.1]) hin
  | embedded hyes file source hread text hfound =>
    have hblank : Text.isBlank text = false := by
      unfold embedded? at hfound
      split at hfound
      · simp at hfound
      · obtain ⟨d, hd, hsummary⟩ := Option.bind_eq_some_iff.mp hfound
        exact (Source.extract?_of_summary? (stable_read hread)
          (Dialect.lawful_of_ofExtension? hd).header_ne_footer hsummary).2
    apply Left.of_summary hyes rfl (ne_empty_of_not_blank hblank)
    intro hin
    obtain ⟨d, hd⟩ := Option.ne_none_iff_exists'.mp hin
    rw [embedded?_eq hforce hd] at hfound
    exact ⟨d, file, source, hd, hread, hfound⟩
  | indexed hyes file source hread text htext hout =>
    exact .of_summary hyes rfl (ne_empty_of_not_blank (hreply text htext).1)
      fun hin => absurd hout hin
  | written hyes file source hread hnone text htext d hin _ hwrite =>
    have hd := Dialect.lawful_of_ofExtension? (ofExtension?_of_embedding? hin)
    have hstable := Source.stable_annotate hd (stable_read hread) (hreply text htext).2
    have hfound : (Source.ofText (source.annotate d text).text).summary? d = some text := by
      rw [Source.summary?_congr (Source.lines_ofText_text hstable)]
      exact Source.summary?_annotate hd (hreply text htext).1 source
    have hback := read_of_write hread hwrite
    exact .of_summary hyes rfl (ne_empty_of_not_blank (hreply text htext).1) fun _ =>
      ⟨d, file, _, hin, hback, hfound⟩

/-- A batch without failures: all results can be found again, and so can what was found before. -/
theorem AnnotatesAll.left (h : AnnotatesAll sv known paths t report t')
    (hclean : report.failures = []) (hforce : sv.settings.force = false)
    (hreply : ∀ text, sv.Replies text → Text.isBlank text = false ∧ ('\r' : Rune) ∉ text.toList) :
    (∀ p text, Settled sv t p text → Settled sv t' p text) ∧
      report.results.map Annotation.path = paths ∧ ∀ a ∈ report.results, Left sv t' a := by
  induction h with
  | nil t => exact ⟨fun _ _ h => h, rfl, by simp⟩
  | @result head r t t₁ t₂ a report hone hrest ih =>
    obtain ⟨hkept, hpaths, hrest'⟩ := ih hclean
    have ha := hone.left hforce hreply
    refine ⟨fun p text h => hkept p text (h.annotates hforce hone), ?_, ?_⟩
    · rw [List.map_cons, hpaths, hone.path_eq]
    · intro b hb
      rcases List.mem_cons.mp hb with rfl | hb
      · exact ⟨ha.skipped, ha.found, ha.full,
          fun text hsome hin => hkept _ text (ha.settled text hsome hin)⟩
      · exact hrest' b hb
  | failure => simp at hclean

end Synopsis.Service
