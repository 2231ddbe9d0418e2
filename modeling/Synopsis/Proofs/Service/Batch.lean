import Synopsis.Proofs.Index.Compile
import Synopsis.Proofs.Service.Annotate
import Synopsis.Proofs.Tree.Alike
import Synopsis.Service.Batch

namespace Synopsis.Service

variable {α σ : Type} {sv : Service α σ} {known : Index} {path : Text} {paths : List Text}
  {t t' : Tree} {report : Report} {s s' : Session α σ}

/-- The location that a path stands for, if it stands for one. -/
def destination? (sv : Service α σ) (t : Tree) (path : Text) : Option Location :=
  (sv.place path).toOption.map t.destination

theorem destination?_of_place {file : Path} (h : sv.place path = .ok file) :
    sv.destination? t path = some (t.destination file) := by
  simp [destination?, h, Except.toOption]

theorem place_of_destination? {loc : Location} (h : sv.destination? t path = some loc) :
    ∃ file, sv.place path = .ok file ∧ t.destination file = loc := by
  unfold destination? at h
  cases hplace : sv.place path with
  | error f => simp [hplace, Except.toOption] at h
  | ok file =>
    rw [hplace] at h
    exact ⟨file, rfl, Option.some.inj h⟩

theorem destination?_of_read {file : Path} {source : Source}
    (h : sv.read t path = .ok (file, source)) :
    sv.destination? t path = some (t.destination file) :=
  destination?_of_place (read_eq_ok_iff.mp h).1

theorem destination?_of_here (h : t'.here = t.here) (path : Text) :
    sv.destination? t' path = sv.destination? t path := by
  have hsame : t'.destination = t.destination := funext fun p => Tree.destination_of_here h p
  rw [destination?, hsame, destination?]

/-- Paths that do not stand for the same location. -/
def Apart (sv : Service α σ) (t : Tree) (p q : Text) : Prop :=
  ∀ loc, sv.destination? t p = some loc → sv.destination? t q ≠ some loc

theorem Apart.symm {p q : Text} (h : sv.Apart t p q) : sv.Apart t q p :=
  fun loc hq hp => h loc hp hq

theorem Apart.of_here {p q : Text} (h : t'.here = t.here) (ha : sv.Apart t p q) :
    sv.Apart t' p q := by
  intro loc hp hq
  rw [destination?_of_here h] at hp hq
  exact ha loc hp hq

theorem read_spares {changed : Location → Prop} {file : Path} {source : Source}
    (h : Tree.Spares changed t t')
    (hpath : ∀ loc, sv.destination? t path = some loc → ¬ changed loc)
    (hread : sv.read t path = .ok (file, source)) : sv.read t' path = .ok (file, source) := by
  have hfile := hpath _ (destination?_of_read hread)
  obtain ⟨hplace, raw, hexact, rfl⟩ := read_eq_ok_iff.mp hread
  exact read_eq_ok_iff.mpr ⟨hplace, raw, h.readExact hfile hexact, rfl⟩

/-- The location of a file of a supported type. -/
def Touches (sv : Service α σ) (t : Tree) (path : Text) (loc : Location) : Prop :=
  sv.isSupported path = true ∧ sv.destination? t path = some loc

theorem Annotates.alike {result : Except Failure Annotation}
    (h : Annotates sv known path t result t') : Tree.Alike (sv.Touches t path) t t' := by
  cases h with
  | written hyes file source hread hnone summary hreply d hin _ hwrite =>
    have hplace := destination?_of_read hread
    obtain ⟨-, raw, hexact, -⟩ := read_eq_ok_iff.mp hread
    exact (Tree.replaceText_alike hexact hwrite).mono fun loc hloc => ⟨hyes, hloc ▸ hplace⟩
  | _ => exact .refl _ _

theorem Annotates.spares {result : Except Failure Annotation}
    (h : Annotates sv known path t result t') : Tree.Spares (sv.Touches t path) t t' :=
  h.alike.spares

theorem Annotates.path_eq {a : Annotation} (h : Annotates sv known path t (.ok a) t') :
    a.path = path := by
  cases h <;> rfl

section

variable {r : List Text} {next : Session α σ}

theorem annotateAll_ok {a : Annotation} (h : sv.annotate known path s = (.ok a, next)) :
    sv.annotateAll known (path :: r) s =
      ((sv.annotateAll known r next).1.map fun report =>
        { report with results := a :: report.results }, (sv.annotateAll known r next).2) := by
  rw [annotateAll, h]
  simp only
  rcases sv.annotateAll known r next with ⟨_ | _, last⟩ <;> rfl

theorem annotateAll_collected {f : Failure} (h : sv.annotate known path s = (.error f, next))
    (hf : sv.isCollected f = true) : sv.annotateAll known (path :: r) s =
      ((sv.annotateAll known r (next.note (.failed path f.message))).1.map fun report =>
        { report with failures := (path, f) :: report.failures },
        (sv.annotateAll known r (next.note (.failed path f.message))).2) := by
  rw [annotateAll, h]
  simp only [hf, if_true]
  rcases sv.annotateAll known r (next.note (.failed path f.message)) with ⟨_ | _, last⟩ <;> rfl

theorem annotateAll_stopped {f : Failure} (h : sv.annotate known path s = (.error f, next))
    (hf : sv.isCollected f = false) : sv.annotateAll known (path :: r) s = (.error f, next) := by
  rw [annotateAll, h]
  simp [hf]

end

/-- What holds on while one file is annotated, and while something is noted, holds on through a
batch, however it ends. -/
theorem annotateAll_induction (holds : Session α σ → Prop)
    (hnote : ∀ s n, holds s → holds (s.note n)) (paths : List Text)
    (hannotate : ∀ path ∈ paths, ∀ s, holds s → holds (sv.annotate known path s).2)
    (h : holds s) : holds (sv.annotateAll known paths s).2 := by
  induction paths generalizing s with
  | nil => exact h
  | cons path r ih =>
    have hone := hannotate path List.mem_cons_self s h
    have hrest := fun other hother => hannotate other (List.mem_cons_of_mem _ hother)
    cases hcall : sv.annotate known path s with
    | mk result next =>
      rw [hcall] at hone
      cases result with
      | ok a =>
        rw [annotateAll_ok hcall]
        exact ih hrest hone
      | error f =>
        cases hcollected : sv.isCollected f with
        | true =>
          rw [annotateAll_collected hcall hcollected]
          exact ih hrest (hnote next _ hone)
        | false =>
          rw [annotateAll_stopped hcall hcollected]
          exact hone

/-- A result that something was made of is there. -/
theorem ok_of_map {β γ : Type} {x : Except Failure β × Session α σ} {add : β → γ} {made : γ}
    (h : (x.1.map add, x.2) = (.ok made, s')) : ∃ b, x = (.ok b, s') ∧ add b = made := by
  obtain ⟨_ | b, last⟩ := x
  · simp [Except.map] at h
  · obtain rfl : last = s' := (Prod.mk.inj h).2
    exact ⟨b, rfl, Except.ok.inj (Prod.mk.inj h).1⟩

/-- A failure does not come of what is made of a result. -/
theorem error_of_map {β γ : Type} {x : Except Failure β × Session α σ} {add : β → γ} {f : Failure}
    (h : (x.1.map add, x.2) = (.error f, s')) : x = (.error f, s') := by
  obtain ⟨_ | b, last⟩ := x
  · obtain rfl : last = s' := (Prod.mk.inj h).2
    rw [Except.error.inj (Prod.mk.inj h).1]
  · simp [Except.map] at h

/-- What a batch comes to, and the tree that it leaves. -/
inductive AnnotatesAll (sv : Service α σ) (known : Index) :
    List Text → Tree → Report → Tree → Prop where
  | nil (t : Tree) : AnnotatesAll sv known [] t ⟨[], []⟩ t
  | result {path : Text} {r : List Text} {t t₁ t₂ : Tree} {a : Annotation} {report : Report}
    (hone : Annotates sv known path t (.ok a) t₁) (hrest : AnnotatesAll sv known r t₁ report t₂) :
    AnnotatesAll sv known (path :: r) t ⟨a :: report.results, report.failures⟩ t₂
  | failure {path : Text} {r : List Text} {t t₁ t₂ : Tree} {f : Failure} {report : Report}
    (hone : Annotates sv known path t (.error f) t₁) (hpath : f.path?.isSome)
    (hrest : AnnotatesAll sv known r t₁ report t₂) :
    AnnotatesAll sv known (path :: r) t ⟨report.results, (path, f) :: report.failures⟩ t₂

theorem annotateAll_spec (h : sv.annotateAll known paths s = (.ok report, s')) :
    AnnotatesAll sv known paths s.tree report s'.tree := by
  induction paths generalizing s s' report with
  | nil =>
    simp only [annotateAll, Prod.mk.injEq, Except.ok.injEq] at h
    rw [← h.1, ← h.2]
    exact .nil _
  | cons path r ih =>
    have hone := annotate_spec sv known path s
    cases hcall : sv.annotate known path s with
    | mk result next =>
      rw [hcall] at hone
      cases result with
      | ok a =>
        rw [annotateAll_ok hcall] at h
        obtain ⟨rest, hrest, rfl⟩ := ok_of_map h
        exact .result hone (ih hrest)
      | error f =>
        cases hcollected : sv.isCollected f with
        | true =>
          have hpath : f.path?.isSome := by
            simp only [isCollected, Bool.and_eq_true] at hcollected
            exact hcollected.1
          rw [annotateAll_collected hcall hcollected] at h
          obtain ⟨rest, hrest, rfl⟩ := ok_of_map h
          have htail := ih hrest
          exact .failure hone hpath htail
        | false =>
          rw [annotateAll_stopped hcall hcollected] at h
          simp at h

namespace AnnotatesAll

theorem alike (h : AnnotatesAll sv known paths t report t') :
    Tree.Alike (fun loc => ∃ p ∈ paths, sv.Touches t p loc) t t' := by
  have hjoin {path : Text} {r : List Text} {t t₁ t₂ : Tree}
      (hone : Tree.Alike (sv.Touches t path) t t₁)
      (hrest : Tree.Alike (fun loc => ∃ p ∈ r, sv.Touches t₁ p loc) t₁ t₂) :
      Tree.Alike (fun loc => ∃ p ∈ path :: r, sv.Touches t p loc) t t₂ := by
    refine (hone.mono fun loc hloc => ⟨path, List.mem_cons_self, hloc⟩).trans
      (hrest.mono fun loc ⟨p, hp, hyes, hloc⟩ => ⟨p, List.mem_cons_of_mem _ hp, hyes, ?_⟩)
    rwa [destination?_of_here hone.here] at hloc
  induction h with
  | nil t => exact .refl _ t
  | result hone _ ih => exact hjoin hone.alike ih
  | failure hone _ _ ih => exact hjoin hone.alike ih

theorem spares (h : AnnotatesAll sv known paths t report t') :
    Tree.Spares (fun loc => ∃ p ∈ paths, sv.Touches t p loc) t t' :=
  h.alike.spares

theorem map_path_sublist (h : AnnotatesAll sv known paths t report t') :
    (report.results.map Annotation.path).Sublist paths := by
  induction h with
  | nil => exact List.Sublist.refl _
  | result hone _ ih =>
    rw [List.map_cons, hone.path_eq]
    exact ih.cons_cons _
  | failure _ _ _ ih => exact ih.cons _

end AnnotatesAll

theorem load_spec {former : Index} (h : sv.load s = (.ok former, s')) :
    s'.tree = s.tree ∧ ∃ found, Index.load s.tree sv.index = .ok (former, found) := by
  unfold load at h
  cases hload : Index.load s.tree sv.index with
  | error f => simp [hload] at h
  | ok loaded =>
    obtain ⟨index, found⟩ := loaded
    cases found with
    | true =>
      simp only [hload, Prod.mk.injEq, Except.ok.injEq] at h
      exact ⟨by rw [← h.2], true, by rw [← h.1]⟩
    | false =>
      simp only [hload, Prod.mk.injEq, Except.ok.injEq] at h
      exact ⟨by rw [← h.2]; rfl, false, by rw [← h.1]⟩

theorem compile_spec {results : List Annotation} {former index : Index}
    (h : sv.compile results former s = (.ok index, s')) :
    Index.store s.tree sv.index
      ((Index.compile sv.settings.prune results former).map Prod.snd) = (.ok (), s'.tree) := by
  unfold compile store at h
  cases hstore : Index.store s.tree sv.index
      ((Index.compile sv.settings.prune results former).map Prod.snd) with
  | mk done tree =>
    cases done with
    | error f => simp [hstore] at h
    | ok _ =>
      simp only [hstore, Prod.mk.injEq] at h
      rw [← h.2]
      rfl

theorem run_stopped {start : Session α σ} {f : Failure} (hload : sv.load s = (.ok known, start))
    (hall : sv.annotateAll known paths start = (.error f, s')) :
    sv.run paths s = (.error f, s') := by
  simp only [run, hload, hall]

theorem run_compiled {start mid : Session α σ} (hload : sv.load s = (.ok known, start))
    (hall : sv.annotateAll known paths start = (.ok report, mid)) :
    sv.run paths s = ((sv.compile report.results known mid).1.map fun _ => report,
      (sv.compile report.results known mid).2) := by
  simp only [run, hload, hall]
  rcases sv.compile report.results known mid with ⟨_ | _, last⟩ <;> rfl

theorem run_spec (h : sv.run paths s = (.ok report, s')) :
    ∃ (former : Index) (found : Bool) (mid : Tree),
      Index.load s.tree sv.index = .ok (former, found) ∧
      AnnotatesAll sv former paths s.tree report mid ∧
      Index.store mid sv.index ((Index.compile sv.settings.prune report.results former).map
        Prod.snd) = (.ok (), s'.tree) := by
  cases hload : sv.load s with
  | mk loaded start =>
    cases loaded with
    | error f => simp [run, hload] at h
    | ok former =>
      obtain ⟨hstart, found, hformer⟩ := load_spec hload
      cases hall : sv.annotateAll former paths start with
      | mk result middle =>
        cases result with
        | error f => simp [run_stopped hload hall] at h
        | ok made =>
          have hsteps := annotateAll_spec hall
          rw [hstart] at hsteps
          rw [run_compiled hload hall] at h
          obtain ⟨index, hcompile, rfl⟩ := ok_of_map h
          exact ⟨former, found, middle.tree, hformer, hsteps, compile_spec hcompile⟩

/-- The index that a run leaves is the one that is loaded from then on. -/
theorem run_loads (hrun : sv.run paths s = (.ok report, s'))
    (hindex : ∀ p ∈ paths, ¬ sv.Touches s.tree p (s.tree.destination sv.index))
    (hread : ∀ empty, Index.load s.tree sv.index = .ok (empty, false) →
      Index.MayLoad s.tree sv.index) :
    ∃ (former : Index) (found : Bool) (mid : Tree),
      Index.load s.tree sv.index = .ok (former, found) ∧
      AnnotatesAll sv former paths s.tree report mid ∧
      Index.store mid sv.index ((Index.compile sv.settings.prune report.results former).map
        Prod.snd) = (.ok (), s'.tree) ∧
      Tree.Spares (· = s.tree.destination sv.index) mid s'.tree ∧
      Index.load s'.tree sv.index =
        .ok (Index.compile sv.settings.prune report.results former, true) := by
  obtain ⟨former, found, mid, hformer, hsteps, hstore⟩ := run_spec hrun
  have hspares := hsteps.spares
  have hstored := Index.store_spares hstore
  rw [Tree.destination_of_here hspares.here] at hstored
  have hmay : Index.MayLoad mid sv.index :=
    (Index.mayLoad_of_load hformer hread).spares hspares fun ⟨p, hp, ht⟩ => hindex p hp ht
  have hkeyed : Index.WellKeyed (Index.compile sv.settings.prune report.results former) :=
    Index.wellKeyed_compile (Index.wellKeyed_load hformer)
  exact ⟨former, found, mid, hformer, hsteps, hstore, hstored,
    Index.load_store_index hkeyed (Index.nodup_keys_compile _ _ _) hstore hmay⟩

theorem exists_run_of_map {β : Type} {view : Report → β} {b : β}
    (h : (sv.run paths s).1.toOption.map view = some b) :
    ∃ report s', sv.run paths s = (.ok report, s') ∧ view report = b := by
  cases hrun : sv.run paths s with
  | mk result s' =>
    rw [hrun] at h
    cases result with
    | error f => simp [Except.toOption] at h
    | ok report => exact ⟨report, s', rfl, by simpa [Except.toOption] using h⟩

/-- A tree with some files in it, side by side. -/
def folder (files : List (Text × Text)) : Session Unit Unit :=
  ⟨⟨.dir (files.map fun (name, text) => (name, .file (Utf8.encode text) 0o644)), [], 0o022⟩,
    .none, (), []⟩

/-- A service whose index lies behind a directory and back. -/
def roundabout : Service Unit Unit :=
  { always "s" with index := ⟨.root, ["d", "..", "c.json"]⟩ }

/-- A file, and an index that may not be read. As long as there is no directory `d`, it does not
show from the path of `roundabout`. -/
def secluded : Session Unit Unit :=
  ⟨⟨.dir [("a.ts", .file (Utf8.encode "x") 0o644),
      ("c.json", .file (Utf8.encode "\x7b\x7d") 0o200)], [], 0o022⟩, .none, (), []⟩

end Synopsis.Service
