import Mathlib.Data.List.Pairwise
import Synopsis.Proofs.Service.Batch

namespace Synopsis.Service

variable {α σ : Type} {sv : Service α σ} {known : Index} {path : Text} {paths : List Text}
  {t t' : Tree} {report : Report} {s s' : Session α σ}

/-- The lines of a summary are what the block in its file holds. -/
def InFile (sv : Service α σ) (t : Tree) (d : Dialect) (path summary : Text) : Prop :=
  ∃ file source, sv.read t path = .ok (file, source) ∧
    Block.extract? d source.lines = some (Text.splitLines summary)

/-- A summary that was generated or found in a file. -/
def Reported (a : Annotation) (summary : Text) : Prop :=
  a.outcome = .generated summary ∨ a.outcome = .embedded summary

theorem Reported.summary? {a : Annotation} {summary : Text} (h : Reported a summary) :
    a.outcome.summary? = some summary := by
  rcases h with h | h <;> rw [h] <;> rfl

theorem InFile.spares {changed : Location → Prop} {d : Dialect} {summary : Text}
    (h : InFile sv t d path summary) (hs : Tree.Spares changed t t')
    (hpath : ∀ loc, sv.destination? t path = some loc → ¬ changed loc) :
    InFile sv t' d path summary := by
  obtain ⟨file, source, hread, hlines⟩ := h
  exact ⟨file, source, read_spares hs hpath hread, hlines⟩

theorem InFile.place {d : Dialect} {summary : Text} (h : InFile sv t d path summary) :
    ∃ loc, sv.destination? t path = some loc := by
  obtain ⟨file, source, hread, -⟩ := h
  exact ⟨_, destination?_of_read hread⟩

/-- One file, at the time when it was annotated. -/
theorem Annotates.inFile {a : Annotation} {summary : Text} {d : Dialect}
    (h : Annotates sv known path t (.ok a) t')
    (hreply : ∀ summary, sv.Replies summary → ('\r' : Rune) ∉ summary.toList)
    (hsummary : Reported a summary) (hin : sv.embedding? path = some d) :
    InFile sv t' d path summary := by
  have hd := Dialect.lawful_of_ofExtension? (ofExtension?_of_embedding? hin)
  cases h with
  | skipped hno => simp [Reported] at hsummary
  | cached hyes summary' hknown => simp [Reported] at hsummary
  | embedded hyes file source hread summary' hfound =>
    obtain rfl : summary' = summary := by simpa [Reported] using hsummary
    refine ⟨file, source, hread, ?_⟩
    unfold embedded? at hfound
    split at hfound
    · simp at hfound
    · rw [ofExtension?_of_embedding? hin, Option.bind_some] at hfound
      exact (Source.extract?_of_summary? (stable_read hread) hd.header_ne_footer hfound).1
  | indexed hyes file source hread summary' hsummary' hout => simp [hin] at hout
  | written hyes file source hread hnone summary' hsummary' d' hin' _ hwrite =>
    obtain rfl : summary' = summary := by simpa [Reported] using hsummary
    obtain rfl : d' = d := by
      rw [hin, Option.some.injEq] at hin'
      exact hin'.symm
    have hstable := Source.stable_annotate hd (stable_read hread) (hreply _ hsummary')
    refine ⟨file, _, read_of_write hread hwrite, ?_⟩
    rw [Source.lines_ofText_text hstable]
    exact Source.extract?_annotate hd summary' source

/-- What lies at the place of another path is not touched. -/
theorem Annotates.item?_of_apart {head : Text} {result : Except Failure Annotation}
    {loc : Location} (h : Annotates sv known head t result t') (hapart : sv.Apart t head path)
    (hloc : sv.destination? t path = some loc) (content : List UInt8) (mode : Nat) :
    t'.top.item? loc = some (.file content mode) ↔
      t.top.item? loc = some (.file content mode) :=
  h.spares.file loc (fun ht => hapart loc ht.2 hloc) content mode

namespace AnnotatesAll

/-- Every file, after all of them. -/
theorem inFile (h : AnnotatesAll sv known paths t report t')
    (hreply : ∀ summary, sv.Replies summary → ('\r' : Rune) ∉ summary.toList)
    (hapart : paths.Pairwise (sv.Apart t)) {a : Annotation} {summary : Text} {d : Dialect}
    (ha : a ∈ report.results) (hsummary : Reported a summary)
    (hin : sv.embedding? a.path = some d) : InFile sv t' d a.path summary := by
  induction h with
  | nil => simp at ha
  | @result path r t t₁ t₂ b report hone hrest ih =>
    have hhere := hone.spares.here
    rw [List.pairwise_cons] at hapart
    rcases List.mem_cons.mp ha with rfl | ha
    · have hpath := hone.path_eq
      rw [hpath] at hin ⊢
      refine (hone.inFile hreply hsummary hin).spares hrest.spares ?_
      rintro loc hloc ⟨q, hq, -, hother⟩
      rw [destination?_of_here hhere] at hloc hother
      exact hapart.1 q hq loc hloc hother
    · exact ih (hapart.2.imp fun hpq => hpq.of_here hhere) ha
  | failure hone _ _ ih =>
    rw [List.pairwise_cons] at hapart
    exact ih (hapart.2.imp fun hpq => hpq.of_here hone.spares.here) ha

/-- A file that failed has a place, and what lies there is not touched. -/
theorem untouched (h : AnnotatesAll sv known paths t report t')
    (hapart : paths.Pairwise (sv.Apart t)) {f : Failure} (hf : (path, f) ∈ report.failures) :
    path ∈ paths ∧ (∀ a ∈ report.results, a.path ≠ path) ∧
      ∃ loc, sv.destination? t path = some loc ∧ ∀ content mode,
        t'.top.item? loc = some (.file content mode) ↔
          t.top.item? loc = some (.file content mode) := by
  induction h with
  | nil => simp at hf
  | @result head r t t₁ t₂ a report hone hrest ih =>
    rw [List.pairwise_cons] at hapart
    obtain ⟨hmem, hnot, loc, hloc, hitem⟩ :=
      ih (hapart.2.imp fun hpq => hpq.of_here hone.spares.here) hf
    rw [destination?_of_here hone.spares.here] at hloc
    have hhead := hapart.1 path hmem
    refine ⟨List.mem_cons_of_mem _ hmem, ?_, loc, hloc, fun content mode =>
      (hitem content mode).trans (hone.item?_of_apart hhead hloc content mode)⟩
    intro b hb hpath
    rcases List.mem_cons.mp hb with rfl | hb
    · rw [hone.path_eq] at hpath
      exact hhead loc (hpath ▸ hloc) hloc
    · exact hnot b hb hpath
  | @failure head r t t₁ t₂ e report hone hpath hrest ih =>
    rw [List.pairwise_cons] at hapart
    rcases List.mem_cons.mp hf with heq | hf
    · -- the failure itself leaves the tree as it is, and the others are apart
      simp only [Prod.mk.injEq] at heq
      obtain ⟨rfl, rfl⟩ := heq
      cases hone with
      | failed _ hplace =>
        obtain ⟨file, hfile⟩ := hplace hpath
        have hloc := destination?_of_place (t := t) hfile
        refine ⟨List.mem_cons_self, ?_, _, hloc, ?_⟩
        · intro b hb hbpath
          have hmem : b.path ∈ r := hrest.map_path_sublist.subset (List.mem_map_of_mem hb)
          exact hapart.1 _ hmem _ hloc (hbpath ▸ hloc)
        · exact hrest.spares.file _ fun ⟨q, hq, _, hother⟩ => hapart.1 q hq _ hloc hother
    · obtain ⟨hmem, hnot, loc, hloc, hitem⟩ :=
        ih (hapart.2.imp fun hpq => hpq.of_here hone.spares.here) hf
      rw [destination?_of_here hone.spares.here] at hloc
      exact ⟨List.mem_cons_of_mem _ hmem, hnot, loc, hloc, fun content mode =>
        (hitem content mode).trans
          (hone.item?_of_apart (hapart.1 path hmem) hloc content mode)⟩

/-- No other result is about a file that has a place. -/
theorem eq_of_path_eq (h : AnnotatesAll sv known paths t report t')
    (hapart : paths.Pairwise (sv.Apart t)) {a b : Annotation} {loc : Location}
    (ha : a ∈ report.results) (hb : b ∈ report.results) (hpath : b.path = a.path)
    (hloc : sv.destination? t a.path = some loc) : b = a := by
  by_contra hne
  have hresults : report.results.Pairwise fun a b => sv.Apart t a.path b.path :=
    List.pairwise_map.mp (hapart.sublist h.map_path_sublist)
  have : Std.Symm fun a b : Annotation => sv.Apart t a.path b.path := ⟨fun _ _ hxy => hxy.symm⟩
  have hboth := hresults.forall hb ha hne
  exact hboth loc (hpath ▸ hloc) hloc

end AnnotatesAll

/-- After a run, the index and the files agree wherever a summary is kept in both, and neither has
changed for a file that failed. The file of the index has to be one that may be read, also where the
way to it is made by the run. -/
theorem consistent_of_run (hrun : sv.run paths s = (.ok report, s'))
    (hreply : ∀ summary, sv.Replies summary → ('\r' : Rune) ∉ summary.toList)
    (hapart : paths.Pairwise (sv.Apart s.tree))
    (hindex : ∀ p ∈ paths, sv.destination? s.tree p ≠ some (s.tree.destination sv.index))
    (hread : ∀ empty, Index.load s.tree sv.index = .ok (empty, false) →
      Index.MayLoad s.tree sv.index) :
    ∃ (former index : Index) (found : Bool), Index.load s.tree sv.index = .ok (former, found) ∧
      Index.load s'.tree sv.index = .ok (index, true) ∧
      (∀ a ∈ report.results, ∀ summary d, Reported a summary → sv.embedding? a.path = some d →
        Keyed.get? index a.path = some ⟨a.path, summary⟩ ∧
          InFile sv s'.tree d a.path summary) ∧
      ∀ path f, (path, f) ∈ report.failures →
        (∃ loc, sv.destination? s.tree path = some loc ∧ ∀ content mode,
          s'.tree.top.item? loc = some (.file content mode) ↔
            s.tree.top.item? loc = some (.file content mode)) ∧
        (sv.settings.prune = false → Keyed.get? index path = Keyed.get? former path) := by
  obtain ⟨former, found, mid, hformer, hsteps, -, hstored, hloaded⟩ :=
    run_loads hrun (fun p hp ht => hindex p hp ht.2) hread
  have hspares := hsteps.spares
  refine ⟨former, _, found, hformer, hloaded, ?_, ?_⟩
  · intro a ha summary d hsummary hin
    have hmid := hsteps.inFile hreply hapart ha hsummary hin
    obtain ⟨loc, hloc⟩ := hmid.place
    have hmem : a.path ∈ paths := hsteps.map_path_sublist.subset (List.mem_map_of_mem ha)
    rw [destination?_of_here hspares.here] at hloc
    refine ⟨Index.get?_compile ha hsummary.summary?
      (fun b hb hpath => hsteps.eq_of_path_eq hapart ha hb hpath hloc), hmid.spares hstored ?_⟩
    rintro loc' hloc' rfl
    rw [destination?_of_here hspares.here] at hloc'
    exact hindex _ hmem hloc'
  · intro path f hf
    obtain ⟨hmem, hnot, loc, hloc, hitem⟩ := hsteps.untouched hapart hf
    have hother : loc ≠ s.tree.destination sv.index := by
      rintro rfl
      exact hindex path hmem hloc
    refine ⟨⟨loc, hloc, ?_⟩, ?_⟩
    · intro content mode
      exact (hstored.file loc hother content mode).trans (hitem content mode)
    · intro hprune
      rw [hprune]
      exact Index.get?_compile_of_not_mem hnot

theorem consistent_of_run_lone : ∃ (report : Report) (s' : Session Unit Unit) (index : Index),
    (always "s").run ["b.ts", "a.ts"] (lone "a.ts" "x") = (.ok report, s') ∧
    report.results = [⟨"a.ts", .generated "s"⟩] ∧
    Index.load s'.tree (always "s").index = .ok (index, true) ∧
    Keyed.get? index "a.ts" = some ⟨"a.ts", "s"⟩ ∧
    InFile (always "s") s'.tree .script "a.ts" "s" := by
  have hruns : ((always "s").run ["b.ts", "a.ts"] (lone "a.ts" "x")).1.toOption.map
      (fun report => report.results) = some [⟨"a.ts", .generated "s"⟩] := by decide +kernel
  obtain ⟨report, s', hrun, hresults⟩ := exists_run_of_map hruns
  have hmay : Index.MayLoad (lone "a.ts" "x").tree (always "s").index := by
    unfold Index.MayLoad
    decide +kernel
  have hdestinations : (always "s").destination? (lone "a.ts" "x").tree "b.ts" =
      some (["b.ts"] : List Text) ∧
      (always "s").destination? (lone "a.ts" "x").tree "a.ts" = some (["a.ts"] : List Text) := by
    decide +kernel
  have hreply : ∀ summary, (always "s").Replies summary → ('\r' : Rune) ∉ summary.toList := by
    intro summary hsummary
    rw [replies_always_iff.mp hsummary]
    decide
  have hapart : (["b.ts", "a.ts"] : List Text).Pairwise
      ((always "s").Apart (lone "a.ts" "x").tree) := by
    simp [Apart, hdestinations.1, hdestinations.2]
  obtain ⟨former, index, found, -, hindex, hconsistent, -⟩ := consistent_of_run hrun hreply
    hapart (by decide +kernel) fun _ _ => hmay
  have hboth := hconsistent ⟨"a.ts", .generated "s"⟩ (by simp [hresults]) "s" .script
    (.inl rfl) (by decide +kernel)
  exact ⟨report, s', index, hrun, hresults, hindex, hboth⟩

/-- An index that comes to light once the way to it is made, and that may not be read, is written
and cannot be loaded. -/
theorem not_consistent_of_run :
    Index.load secluded.tree roundabout.index = .ok ([], false) ∧
    (roundabout.run ["a.ts"] secluded).1.toOption.map (fun report => report.results) =
      some [⟨"a.ts", .generated "s"⟩] ∧
    Index.load (roundabout.run ["a.ts"] secluded).2.tree roundabout.index =
      .error (.unreadable roundabout.index (.file (.of .denied roundabout.index.text))) := by
  refine ⟨?_, ?_, ?_⟩ <;> decide +kernel

end Synopsis.Service
