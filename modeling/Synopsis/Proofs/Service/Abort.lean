import Synopsis.Proofs.Service.Batch

namespace Synopsis.Service

variable {α σ : Type} {sv : Service α σ} {known : Index} {path : Text}
  {paths front r : List Text} {f : Failure} {report : Report} {s mid s' : Session α σ}

/-- A batch stops at its first path, or it goes on with the others and adds to their report. -/
theorem annotateAll_cons (sv : Service α σ) (known : Index) (path : Text) (s : Session α σ) :
    (∃ f, (sv.annotate known path s).1 = .error f ∧ sv.isCollected f = false ∧
      ∀ r, sv.annotateAll known (path :: r) s = (.error f, (sv.annotate known path s).2)) ∨
    ∃ (next : Session α σ) (add : Report → Report),
      next.tree = (sv.annotate known path s).2.tree ∧
      ∀ r, sv.annotateAll known (path :: r) s =
        ((sv.annotateAll known r next).1.map add, (sv.annotateAll known r next).2) := by
  cases hcall : sv.annotate known path s with
  | mk result next =>
    cases result with
    | ok a => exact .inr ⟨next, _, rfl, fun r => annotateAll_ok hcall⟩
    | error f =>
      cases hcollected : sv.isCollected f with
      | true =>
        exact .inr ⟨next.note (.failed path f.message), _, rfl,
          fun r => annotateAll_collected hcall hcollected⟩
      | false => exact .inl ⟨f, rfl, hcollected, fun r => annotateAll_stopped hcall hcollected⟩

/-- After a batch that ends well, a longer one goes on with the other paths. -/
theorem annotateAll_append (h : sv.annotateAll known front s = (.ok report, mid)) :
    ∃ add : Report → Report, ∀ r, sv.annotateAll known (front ++ r) s =
      ((sv.annotateAll known r mid).1.map add, (sv.annotateAll known r mid).2) := by
  induction front generalizing s report with
  | nil =>
    rw [annotateAll, Prod.mk.injEq] at h
    refine ⟨id, fun r => ?_⟩
    rw [List.nil_append, ← h.2, Except.map_id]
    rfl
  | cons path front ih =>
    rcases annotateAll_cons sv known path s with ⟨f, -, -, hstop⟩ | ⟨next, add, -, hgo⟩
    · simp [hstop] at h
    · rw [hgo] at h
      obtain ⟨made, hfront, -⟩ := ok_of_map h
      obtain ⟨add', hadd⟩ := ih hfront
      refine ⟨add ∘ add', fun r => ?_⟩
      rw [List.cons_append, hgo, hadd]
      cases (sv.annotateAll known r mid).1 <;> rfl

/-- A batch that fails has gone well up to a path whose annotation fails. -/
theorem annotateAll_error (h : sv.annotateAll known paths s = (.error f, s')) :
    ∃ (front : List Text) (path : Text) (r : List Text) (report : Report)
      (mid : Session α σ), paths = front ++ path :: r ∧
      sv.annotateAll known front s = (.ok report, mid) ∧
      sv.annotate known path mid = (.error f, s') ∧ sv.isCollected f = false := by
  induction paths generalizing s with
  | nil => simp [annotateAll] at h
  | cons path r ih =>
    rcases annotateAll_cons sv known path s with ⟨e, he, hnot, hstop⟩ | ⟨next, add, -, hgo⟩
    · rw [hstop, Prod.mk.injEq, Except.error.injEq] at h
      obtain ⟨rfl, hlast⟩ := h
      exact ⟨[], path, r, ⟨[], []⟩, s, rfl, rfl, Prod.ext he hlast, hnot⟩
    · rw [hgo] at h
      obtain ⟨front, p, r', report, mid, rfl, hfront, hcall, hnot⟩ := ih (error_of_map h)
      refine ⟨path :: front, p, r', add report, mid, rfl, ?_, hcall, hnot⟩
      rw [hgo, hfront]
      rfl

/-- Where a batch stops does not depend on the paths that follow. -/
theorem annotateAll_stops (hfront : sv.annotateAll known front s = (.ok report, mid))
    (hcall : sv.annotate known path mid = (.error f, s')) (hnot : sv.isCollected f = false)
    (r : List Text) : sv.annotateAll known (front ++ path :: r) s = (.error f, s') := by
  obtain ⟨add, hadd⟩ := annotateAll_append hfront
  rw [hadd, annotateAll_stopped hcall hnot]
  rfl

/-- A batch that ends well has ended well at each of its paths. -/
theorem annotateAll_split (h : sv.annotateAll known (front ++ r) s = (.ok report, s')) :
    ∃ (made rest : Report) (mid : Session α σ), sv.annotateAll known front s = (.ok made, mid) ∧
      sv.annotateAll known r mid = (.ok rest, s') := by
  cases hfront : sv.annotateAll known front s with
  | mk result mid =>
    cases result with
    | error f =>
      obtain ⟨front, path, r', made, mid, rfl, hfront, hcall, hnot⟩ := annotateAll_error hfront
      rw [List.append_assoc, List.cons_append, annotateAll_stops hfront hcall hnot] at h
      simp at h
    | ok made =>
      obtain ⟨add, hadd⟩ := annotateAll_append hfront
      rw [hadd] at h
      obtain ⟨rest, hrest, -⟩ := ok_of_map h
      exact ⟨made, rest, mid, rfl, hrest⟩

theorem annotateAll_untouched (h : sv.annotateAll known front s = (.ok report, mid))
    {q : Text} (hapart : ∀ p ∈ front, sv.Apart s.tree p q) {loc : Location}
    (hloc : sv.destination? s.tree q = some loc) :
    mid.tree.top.item? loc = s.tree.top.item? loc := by
  apply (annotateAll_spec h).alike.item
  rintro ⟨p, hp, -, hdest⟩
  exact hapart p hp loc hdest hloc

/-- What has become of the paths of a batch that stops: those before it stopped are as their own
annotation has left them, and the others are as they were. -/
structure Halted (sv : Service α σ) (known : Index) (front rest : List Text)
    (start : Session α σ) (t' : Tree) : Prop where
  done (before after : List Text) (q : Text) (h : front = before ++ q :: after) :
    ∃ (report : Report) (here : Session α σ),
      sv.annotateAll known before start = (.ok report, here) ∧
      ∀ loc, sv.destination? start.tree q = some loc →
        t'.top.item? loc = (sv.annotate known q here).2.tree.top.item? loc
  left (q : Text) (hq : q ∈ rest) (loc : Location)
    (hloc : sv.destination? start.tree q = some loc) : t'.top.item? loc = start.tree.top.item? loc

theorem halted_of_annotateAll {rest : List Text} {start : Session α σ}
    (hfront : sv.annotateAll known front start = (.ok report, mid))
    (hapart : (front ++ rest).Pairwise (sv.Apart start.tree)) :
    Halted sv known front rest start mid.tree where
  done before after q h := by
    subst h
    obtain ⟨made, later, here, hbefore, hlater⟩ := annotateAll_split hfront
    refine ⟨made, here, hbefore, fun loc hloc => ?_⟩
    have hhere : here.tree.here = start.tree.here := (annotateAll_spec hbefore).alike.here
    rcases annotateAll_cons sv known q here with ⟨f, -, -, hstop⟩ | ⟨next, add, htree, hgo⟩
    · simp [hstop] at hlater
    · rw [hgo] at hlater
      obtain ⟨others, hafter, -⟩ := ok_of_map hlater
      -- the paths after `q` are apart from it, so they leave its file as it is from here on
      have hnext : next.tree.here = start.tree.here := by
        rw [htree, (annotate_spec sv known q here).alike.here, hhere]
      have hothers : ∀ p ∈ after, sv.Apart next.tree p q := by
        intro p hp
        have htail := (List.pairwise_append.mp (List.pairwise_append.mp hapart).1).2.1
        exact ((List.pairwise_cons.mp htail).1 p hp).symm.of_here hnext
      rw [← destination?_of_here hnext] at hloc
      rw [← htree]
      exact annotateAll_untouched hafter hothers hloc
  left q hq loc hloc := by
    refine annotateAll_untouched hfront (fun p hp => ?_) hloc
    exact (List.pairwise_append.mp hapart).2.2 p hp q hq

/-- Where a run fails, and in what state. -/
inductive Fails (sv : Service α σ) (paths : List Text) (s : Session α σ) :
    Failure → Session α σ → Prop where
  | loading (why : IndexFault) (hload : Index.load s.tree sv.index = .error why) :
    Fails sv paths s (.index why) s
  | annotating (known : Index) (start : Session α σ) (hload : sv.load s = (.ok known, start))
    (hstart : start.tree = s.tree) (front : List Text) (path : Text) (r : List Text)
    (hpaths : paths = front ++ path :: r) (report : Report) (mid : Session α σ)
    (hfront : sv.annotateAll known front start = (.ok report, mid)) (f : Failure)
    (s' : Session α σ) (hcall : sv.annotate known path mid = (.error f, s'))
    (hnot : sv.isCollected f = false)
    (hblind : ∀ others, sv.run (front ++ path :: others) s = (.error f, s'))
    (hfiles : paths.Pairwise (sv.Apart s.tree) →
      Halted sv known front (path :: r) start s'.tree) : Fails sv paths s f s'
  | storing (known : Index) (start : Session α σ) (hload : sv.load s = (.ok known, start))
    (hstart : start.tree = s.tree) (report : Report) (mid : Session α σ)
    (hall : sv.annotateAll known paths start = (.ok report, mid)) (why : WriteFault)
    (s' : Session α σ) (hstore : Index.store mid.tree sv.index
      ((Index.compile sv.settings.prune report.results known).map Prod.snd) = (.error why, s'.tree))
    (hgrows : Tree.Grows mid.tree s'.tree) : Fails sv paths s (.unstored why) s'

theorem load_error (h : sv.load s = (.error f, s')) :
    ∃ why, Index.load s.tree sv.index = .error why ∧ f = .index why ∧ s' = s := by
  unfold load at h
  cases hload : Index.load s.tree sv.index with
  | error why =>
    simp only [hload, Prod.mk.injEq, Except.error.injEq] at h
    exact ⟨why, rfl, h.1.symm, h.2.symm⟩
  | ok loaded =>
    obtain ⟨index, found⟩ := loaded
    cases found <;> simp [hload] at h

theorem compile_error {results : List Annotation} {former : Index}
    (h : sv.compile results former s = (.error f, s')) :
    ∃ why, f = .unstored why ∧ Index.store s.tree sv.index
      ((Index.compile sv.settings.prune results former).map Prod.snd) = (.error why, s'.tree) := by
  unfold compile store at h
  cases hstore : Index.store s.tree sv.index
      ((Index.compile sv.settings.prune results former).map Prod.snd) with
  | mk done tree =>
    cases done with
    | ok _ => simp [hstore] at h
    | error why =>
      simp only [hstore, Prod.mk.injEq, Except.error.injEq] at h
      exact ⟨why, h.1.symm, by rw [← h.2]⟩

/-- An annotation that fails leaves the tree. -/
theorem annotate_error (h : sv.annotate known path s = (.error f, s')) : s'.tree = s.tree := by
  have hspec := annotate_spec sv known path s
  rw [h] at hspec
  generalize s'.tree = t' at hspec
  cases hspec
  rfl

theorem fails_of_run (h : sv.run paths s = (.error f, s')) : Fails sv paths s f s' := by
  cases hload : sv.load s with
  | mk loaded start =>
    cases loaded with
    | error e =>
      obtain ⟨why, hwhy, rfl, rfl⟩ := load_error hload
      simp only [run, hload, Prod.mk.injEq, Except.error.injEq] at h
      obtain ⟨rfl, rfl⟩ := h
      exact .loading why hwhy
    | ok known =>
      have hstart := (load_spec hload).1
      cases hall : sv.annotateAll known paths start with
      | mk result mid =>
        cases result with
        | error e =>
          rw [run_stopped hload hall, Prod.mk.injEq, Except.error.injEq] at h
          obtain ⟨rfl, rfl⟩ := h
          obtain ⟨front, path, r, report, before, rfl, hfront, hcall, hnot⟩ :=
            annotateAll_error hall
          refine .annotating known start hload hstart front path r rfl report before hfront _ _
            hcall hnot ?_ ?_
          · exact fun others => run_stopped hload (annotateAll_stops hfront hcall hnot others)
          · intro hapart
            rw [← hstart] at hapart
            rw [annotate_error hcall]
            exact halted_of_annotateAll hfront hapart
        | ok report =>
          rw [run_compiled hload hall] at h
          obtain ⟨why, rfl, hstore⟩ := compile_error (error_of_map h)
          exact .storing known start hload hstart report mid hall why _ hstore
            (Index.store_error hstore)

/-- A run that fails leaves the file of the index, or leaves it absent, and stops where it fails. -/
theorem spared_of_run_error (hrun : sv.run paths s = (.error f, s'))
    (hindex : ∀ p ∈ paths, ¬ sv.Touches s.tree p (s.tree.destination sv.index)) :
    (∀ content mode, s'.tree.top.item? (s.tree.destination sv.index) = some (.file content mode) ↔
      s.tree.top.item? (s.tree.destination sv.index) = some (.file content mode)) ∧
    Fails sv paths s f s' := by
  have hfails := fails_of_run hrun
  refine ⟨?_, hfails⟩
  have hbatch {known : Index} {start mid : Session α σ} {front : List Text} {report : Report}
      (hstart : start.tree = s.tree) (hsub : ∀ p ∈ front, p ∈ paths)
      (hfront : sv.annotateAll known front start = (.ok report, mid)) :
      mid.tree.top.item? (s.tree.destination sv.index) =
        s.tree.top.item? (s.tree.destination sv.index) := by
    have halike := (annotateAll_spec hfront).alike
    rw [hstart] at halike
    apply halike.item
    rintro ⟨p, hp, ht⟩
    exact hindex p (hsub p hp) ht
  intro content mode
  cases hfails with
  | loading why hload => exact Iff.rfl
  | annotating known start hload hstart front path r hpaths report mid hfront _ _ hcall _ _ _ =>
    have hsub : ∀ p ∈ front, p ∈ paths := fun p hp => hpaths ▸ List.mem_append_left _ hp
    rw [annotate_error hcall, hbatch hstart hsub hfront]
  | storing known start hload hstart report mid hall why _ _ hgrows =>
    rw [hgrows.file _ id, hbatch hstart (fun p hp => hp) hall]

/-- The service whose run stops at the first file that fails. -/
def eager (reply : Text) : Service Unit Unit :=
  { always reply with settings := { Settings.standard with failFast := true } }

/-- A file that is not there stops the run, and no index comes to be. -/
theorem spared_of_run_error_missing : ∃ (f : Failure) (s' : Session Unit Unit),
    (eager "s").run ["a.ts", "b.ts", "c.ts"] (folder [("a.ts", "x"), ("c.ts", "y")]) =
      (.error f, s') ∧
    (∀ content mode, s'.tree.top.item? ["i.json"] = some (.file content mode) ↔
      (folder [("a.ts", "x"), ("c.ts", "y")]).tree.top.item? ["i.json"] =
        some (.file content mode)) ∧
    Fails (eager "s") ["a.ts", "b.ts", "c.ts"] (folder [("a.ts", "x"), ("c.ts", "y")]) f s' := by
  let s := folder [("a.ts", "x"), ("c.ts", "y")]
  have hindex : ∀ p ∈ (["a.ts", "b.ts", "c.ts"] : List Text),
      ¬ (eager "s").Touches s.tree p (s.tree.destination (eager "s").index) := by
    have hdest (p : Text) (hp : p ∈ (["a.ts", "b.ts", "c.ts"] : List Text)) :
        (eager "s").destination? s.tree p ≠ some (["i.json"] : List Text) := by
      simp only [List.mem_cons, List.not_mem_nil, or_false] at hp
      rcases hp with rfl | rfl | rfl <;> decide +kernel
    exact fun p hp ht => hdest p hp ht.2
  have hfails : ((eager "s").run ["a.ts", "b.ts", "c.ts"] s).1.toOption.isNone = true := by
    decide +kernel
  cases hrun : (eager "s").run ["a.ts", "b.ts", "c.ts"] s with
  | mk result s' =>
    cases result with
    | ok report => simp [hrun, Except.toOption] at hfails
    | error f => exact ⟨f, s', rfl, spared_of_run_error hrun hindex⟩

end Synopsis.Service
