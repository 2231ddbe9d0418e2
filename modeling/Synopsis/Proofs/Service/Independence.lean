import Synopsis.Proofs.Service.Batch

namespace Synopsis

/-- The summarizer in hand, lent or not. -/
def Holding.summarizer? {α : Type} : Holding α → Option α
  | .none => Option.none
  | .lent a => some a
  | .own a => some a

namespace Service

variable {α σ : Type} {sv : Service α σ} {known : Index} {path : Text} {paths : List Text}
  {s c : Session α σ} {a : α} {reply : Text → Text → Except OracleFault Text}
  {changed : Location → Prop}

/-- A session that asks a given summarizer: it has it in hand, or can still build it like another
session. -/
def Equipped (a : α) (s c : Session α σ) : Prop :=
  c.holding.summarizer? = some a ∨
    c.holding = s.holding ∧ c.tree = s.tree ∧ c.outside = s.outside

theorem Equipped.refl (a : α) (s : Session α σ) : Equipped a s s := .inr ⟨rfl, rfl, rfl⟩

/-- The answers of a summarizer that depend on nothing but the path and the content of a file. -/
def Answers (sv : Service α σ) (a : α) (reply : Text → Text → Except OracleFault Text) : Prop :=
  ∀ path content outside, (sv.supply.ask a path content outside).1.outcome = reply path content

theorem summon_of_equipped (hbuild : (sv.summon s).1 = .ok a) (h : Equipped a s c) :
    ∃ c', sv.summon c = (.ok a, c') ∧ c'.holding.summarizer? = some a ∧ c'.tree = c.tree := by
  have hhand (hgives : c.holding.summarizer? = some a) :
      ∃ c', sv.summon c = (.ok a, c') ∧ c'.holding.summarizer? = some a ∧ c'.tree = c.tree := by
    refine ⟨c, ?_, hgives, rfl⟩
    unfold summon
    cases hc : c.holding <;> simp [hc, Holding.summarizer?] at hgives <;> simp [hgives]
  rcases h with hgives | ⟨hhold, htree, houtside⟩
  · exact hhand hgives
  · unfold summon at hbuild
    cases hs : s.holding with
    | lent b =>
      obtain rfl : b = a := by simpa [hs] using hbuild
      exact hhand (by rw [hhold, hs]; rfl)
    | own b =>
      obtain rfl : b = a := by simpa [hs] using hbuild
      exact hhand (by rw [hhold, hs]; rfl)
    | none =>
      rw [hs] at hbuild hhold
      unfold summon
      rw [hhold, htree, houtside]
      rcases hmade : sv.supply.build sv.settings s.tree s.outside with ⟨f | b, outside⟩
      · simp [hmade] at hbuild
      · obtain rfl : b = a := by simpa [hmade] using hbuild
        exact ⟨_, rfl, rfl, htree⟩

theorem generate_of_equipped (hbuild : (sv.summon s).1 = .ok a) (hreply : sv.Answers a reply)
    (h : Equipped a s c) (path : Text) (source : Source) :
    ∃ c', sv.generate path source c = (told path (reply path source.content), c') ∧
      c'.holding.summarizer? = some a ∧ c'.tree = c.tree := by
  obtain ⟨c', hsummon, hgives, htree⟩ := summon_of_equipped hbuild h
  rw [generate_of_summon hsummon, hreply path source.content c'.outside]
  exact ⟨_, rfl, hgives, htree⟩

theorem write_eq (path : Text) (file : Path) (source : Source) (s : Session α σ) :
    write path file source s = ((s.tree.replaceText file source.text).1.mapError fun
      | .file f => .unwritable path f
      | .encoding f => .unencodable f,
      { s with tree := (s.tree.replaceText file source.text).2 }) := by
  unfold write
  rcases s.tree.replaceText file source.text with ⟨(f | f) | _, tree⟩ <;> rfl

/-- The writing of a file fails in a way that is not collected only for a text that cannot be
encoded. -/
theorem write_fails {file : Path} {source : Source} {f : Failure}
    (h : (write path file source s).1 = .error f) : f.path? = some path ∨
      ∃ e, f = .unencodable e ∧ Text.Encoding.utf8.fault? source.text = some e := by
  rw [write_eq] at h
  cases hreplace : (s.tree.replaceText file source.text).1 with
  | ok _ =>
    rw [hreplace] at h
    cases h
  | error w =>
    rw [hreplace] at h
    cases w with
    | file e =>
      rw [← Except.error.inj h]
      exact .inl rfl
    | encoding e =>
      exact .inr ⟨e, (Except.error.inj h).symm, Tree.fault?_of_replaceText hreplace⟩

theorem write_alike {file : Path} (ht : Tree.Alike changed s.tree c.tree)
    (hfile : ¬ changed (s.tree.destination file)) (path : Text) (source : Source) :
    (write path file source c).1 = (write path file source s).1 ∧
      (write path file source c).2.tree.top.item? (s.tree.destination file) =
        (write path file source s).2.tree.top.item? (s.tree.destination file) ∧
      (write path file source c).2.holding = c.holding := by
  rw [write_eq, write_eq, ht.replaceText]
  exact ⟨rfl, ht.item?_replaceText hfile source.text, rfl⟩

theorem read_alike {t t' : Tree} (h : Tree.Alike changed t t')
    (hpath : ∀ loc, sv.destination? t path = some loc → ¬ changed loc) :
    sv.read t' path = sv.read t path := by
  unfold read
  cases hplace : sv.place path with
  | error f => rfl
  | ok file =>
    have hfile := hpath _ (destination?_of_place hplace)
    simp only [h.readExact hfile]

theorem path?_of_read_error {t : Tree} {file : Path} (hplace : sv.place path = .ok file)
    (hnamed : ∀ part ∈ file.parts, Nameable part) {f : Failure}
    (h : sv.read t path = .error f) : f.path? = some path := by
  unfold read at h
  simp only [hplace] at h
  cases hread : t.readExact file with
  | ok raw => simp [hread] at h
  | error e =>
    rw [hread] at h
    split at h
    · rename_i why text heq
      obtain rfl := Except.error.inj heq
      exact absurd (Tree.obstacle?_of_readExact hread) (Tree.nameable_parts_iff.mp hnamed why)
    · rw [← Except.error.inj h]
      rfl
    · simp at h

theorem finish_alike {file : Path} (ht : Tree.Alike changed s.tree c.tree)
    (hfile : ¬ changed (s.tree.destination file)) (path : Text) (source : Source)
    (answer : Except Failure Text) :
    (sv.finish path file source (answer, c)).1 = (sv.finish path file source (answer, s)).1 ∧
      (sv.finish path file source (answer, c)).2.tree.top.item? (s.tree.destination file) =
        (sv.finish path file source (answer, s)).2.tree.top.item? (s.tree.destination file) ∧
      (sv.finish path file source (answer, c)).2.holding = c.holding := by
  have hitem := ht.item _ hfile
  cases answer with
  | error f => exact ⟨rfl, hitem, rfl⟩
  | ok summary =>
    unfold finish
    cases hin : sv.embedding? path with
    | none => exact ⟨rfl, hitem, rfl⟩
    | some d =>
      obtain ⟨hdone, hafter, hhold⟩ := write_alike ht hfile path (source.annotate d summary)
      simp only
      cases hold : write path file (source.annotate d summary) s with
      | mk done last =>
        cases hnew : write path file (source.annotate d summary) c with
        | mk done' last' =>
          rw [hold, hnew] at hdone hafter
          rw [hnew] at hhold
          obtain rfl : done' = done := hdone
          cases done' with
          | error f => exact ⟨rfl, hafter, hhold⟩
          | ok _ => exact ⟨rfl, hafter, hhold⟩

/-- A file is annotated alike in both sessions, if it is the same in both. -/
theorem annotate_alike (known : Index) (hbuild : (sv.summon s).1 = .ok a)
    (hreply : sv.Answers a reply) (h : Equipped a s c) (ht : Tree.Alike changed s.tree c.tree)
    (hpath : ∀ loc, sv.destination? s.tree path = some loc → ¬ changed loc) :
    (sv.annotate known path c).1 = (sv.annotate known path s).1 ∧
      (∀ loc, sv.destination? s.tree path = some loc →
        (sv.annotate known path c).2.tree.top.item? loc =
          (sv.annotate known path s).2.tree.top.item? loc) ∧
      Equipped a s (sv.annotate known path c).2 := by
  have hprepared := prepare_congr (read_alike ht hpath) known
  cases hprep : sv.prepare known path s.tree with
  | inl early =>
    rw [annotate_of_inl hprep, annotate_of_inl (hprepared.trans hprep)]
    exact ⟨rfl, fun loc hloc => ht.item loc (hpath loc hloc), h⟩
  | inr found =>
    obtain ⟨file, source⟩ := found
    obtain ⟨-, -, hread, -⟩ := prepare_eq_inr_iff.mp hprep
    obtain ⟨c', hgen, hgives, htree⟩ := generate_of_equipped hbuild hreply h path source
    obtain ⟨s', hgen', -, htree'⟩ := generate_of_equipped hbuild hreply (.refl a s) path source
    have ht' : Tree.Alike changed s'.tree c'.tree := by
      rw [htree, htree']
      exact ht
    have hplace : sv.destination? s.tree path = some (s'.tree.destination file) := by
      rw [htree']
      exact destination?_of_read hread
    obtain ⟨hdone, hafter, hhold⟩ := finish_alike ht' (hpath _ hplace) path source
      (told path (reply path source.content))
    rw [annotate_of_inr hprep, annotate_of_inr (hprepared.trans hprep), hgen, hgen']
    refine ⟨hdone, ?_, .inl (hhold ▸ hgives)⟩
    intro loc hloc
    rw [hplace, Option.some.injEq] at hloc
    rw [← hloc]
    exact hafter

/-- What a failure is, if it is one. -/
def failure? {β : Type} : Except Failure β → Option Failure
  | .ok _ => none
  | .error f => some f

/-- The report on some outcomes, each with its path: the first failure that is not collected is that
of the whole batch. -/
def gather (collected : Failure → Bool) :
    List (Text × Except Failure Annotation) → Except Failure Report
  | [] => .ok ⟨[], []⟩
  | (_, .ok a) :: r =>
    (gather collected r).map fun report => { report with results := a :: report.results }
  | (path, .error f) :: r =>
    if collected f then
      (gather collected r).map fun report =>
        { report with failures := (path, f) :: report.failures }
    else .error f

/-- The report on outcomes all of whose failures are collected. -/
def reportOf (outcomes : List (Text × Except Failure Annotation)) : Report where
  results := outcomes.filterMap fun o => o.2.toOption
  failures := outcomes.filterMap fun o => (failure? o.2).map (o.1, ·)

section

variable {collected : Failure → Bool} {outcomes : List (Text × Except Failure Annotation)}

theorem gather_of_collected (h : ∀ o ∈ outcomes, ∀ f, o.2 = .error f → collected f = true) :
    gather collected outcomes = .ok (reportOf outcomes) := by
  induction outcomes with
  | nil => rfl
  | cons o r ih =>
    have htail := ih fun o ho => h o (List.mem_cons_of_mem _ ho)
    obtain ⟨path, _ | a⟩ := o
    · rename_i f
      have hf : collected f = true := h _ List.mem_cons_self f rfl
      rw [gather, if_pos hf, htail]
      rfl
    · rw [gather, htail]
      rfl

theorem gather_of_not_collected {o : Text × Except Failure Annotation} {f : Failure}
    (ho : o ∈ outcomes) (hf : o.2 = .error f) (hnot : collected f = false) :
    ∃ f', gather collected outcomes = .error f' := by
  induction outcomes with
  | nil => simp at ho
  | cons first r ih =>
    obtain ⟨path, _ | a⟩ := first
    · rename_i e
      by_cases he : collected e = true
      · rw [gather, if_pos he]
        rcases List.mem_cons.mp ho with rfl | hr
        · obtain rfl : e = f := Except.error.inj hf
          simp [hnot] at he
        · obtain ⟨f', hf'⟩ := ih hr
          exact ⟨f', by rw [hf']; rfl⟩
      · rw [gather, if_neg he]
        exact ⟨e, rfl⟩
    · rw [gather]
      rcases List.mem_cons.mp ho with rfl | hr
      · simp at hf
      · obtain ⟨f', hf'⟩ := ih hr
        exact ⟨f', by rw [hf']; rfl⟩

theorem gather_eq_ok_iff {report : Report} : gather collected outcomes = .ok report ↔
    (∀ o ∈ outcomes, ∀ f, o.2 = .error f → collected f = true) ∧ report = reportOf outcomes := by
  constructor
  · intro h
    have hall : ∀ o ∈ outcomes, ∀ f, o.2 = .error f → collected f = true := by
      intro o ho f hf
      cases hc : collected f with
      | true => rfl
      | false =>
        obtain ⟨f', hf'⟩ := gather_of_not_collected ho hf hc
        simp [h] at hf'
    rw [gather_of_collected hall, Except.ok.injEq] at h
    exact ⟨hall, h.symm⟩
  · rintro ⟨hall, rfl⟩
    exact gather_of_collected hall

end

theorem exists_ok_of_map {β γ : Type} {x : Except Failure β} {g : β → γ} {y : γ}
    (h : x.map g = .ok y) : ∃ b, x = .ok b := by
  cases x with
  | error f => cases h
  | ok b => exact ⟨b, rfl⟩

/-- What each path of a batch comes to alone. -/
def outcomes (sv : Service α σ) (known : Index) (s : Session α σ) (paths : List Text) :
    List (Text × Except Failure Annotation) :=
  paths.map fun p => (p, (sv.annotate known p s).1)

/-- The files of a batch are as they are left when each of them is annotated alone, and no other
file has changed. -/
structure Separate (sv : Service α σ) (known : Index) (s : Session α σ) (paths : List Text)
    (t t' : Tree) : Prop where
  file (p : Text) (hp : p ∈ paths) (loc : Location) (hloc : sv.destination? s.tree p = some loc) :
    t'.top.item? loc = (sv.annotate known p s).2.tree.top.item? loc
  other (loc : Location) (hloc : ∀ p ∈ paths, sv.destination? s.tree p ≠ some loc) :
    t'.top.item? loc = t.top.item? loc

theorem Separate.cons {r : List Text} {t t₁ t' : Tree}
    (hapart : ∀ q ∈ r, sv.Apart s.tree path q)
    (hone : Tree.Alike (fun loc => sv.destination? s.tree path = some loc) t t₁)
    (hitem : ∀ loc, sv.destination? s.tree path = some loc →
      t₁.top.item? loc = (sv.annotate known path s).2.tree.top.item? loc)
    (h : Separate sv known s r t₁ t') : Separate sv known s (path :: r) t t' where
  file p hp loc hloc := by
    rcases List.mem_cons.mp hp with rfl | hr
    · rw [h.other loc fun q hq => hapart q hq loc hloc]
      exact hitem loc hloc
    · exact h.file p hr loc hloc
  other loc hloc := by
    rw [h.other loc fun q hq => hloc q (List.mem_cons_of_mem _ hq)]
    exact hone.item loc (hloc path List.mem_cons_self)

/-- A batch in a session that has come further than another one, in the contents of other files. -/
theorem annotateAll_alike (known : Index) (hbuild : (sv.summon s).1 = .ok a)
    (hreply : sv.Answers a reply) (hapart : paths.Pairwise (sv.Apart s.tree))
    (h : Equipped a s c) (ht : Tree.Alike changed s.tree c.tree)
    (hpaths : ∀ p ∈ paths, ∀ loc, sv.destination? s.tree p = some loc → ¬ changed loc) :
    (sv.annotateAll known paths c).1 = gather sv.isCollected (sv.outcomes known s paths) ∧
      ∀ report, (sv.annotateAll known paths c).1 = .ok report →
        Separate sv known s paths c.tree (sv.annotateAll known paths c).2.tree := by
  induction paths generalizing c changed with
  | nil => exact ⟨rfl, fun _ _ => ⟨by simp, fun _ _ => rfl⟩⟩
  | cons path r ih =>
    obtain ⟨hhead, htail⟩ := List.pairwise_cons.mp hapart
    obtain ⟨hsame, hitem, hequipped⟩ := annotate_alike known hbuild hreply h ht
      (hpaths path List.mem_cons_self)
    have hone := (annotate_spec sv known path c).alike.mono fun _ => And.right
    have hdest : sv.destination? c.tree path = sv.destination? s.tree path :=
      destination?_of_here ht.here path
    rw [hdest] at hone
    rw [outcomes, List.map_cons, ← outcomes, ← hsame]
    cases hcall : sv.annotate known path c with
    | mk result next =>
      rw [hcall] at hitem hequipped hone
      -- the locations that may have changed grow by that of the path; those of the others stay out
      let changed' (loc : Location) : Prop :=
        changed loc ∨ sv.destination? s.tree path = some loc
      have ht' : Tree.Alike changed' s.tree next.tree :=
        (ht.mono fun _ => .inl).trans (hone.mono fun _ => .inr)
      have hpaths' : ∀ q ∈ r, ∀ loc, sv.destination? s.tree q = some loc → ¬ changed' loc := by
        intro q hq loc hloc hc
        rcases hc with hc | hc
        · exact hpaths q (List.mem_cons_of_mem _ hq) loc hloc hc
        · exact hhead q hq loc hc hloc
      cases result with
      | ok x =>
        obtain ⟨hrest, hfiles⟩ := ih htail hequipped ht' hpaths'
        rw [annotateAll_ok hcall, gather, ← hrest]
        refine ⟨rfl, ?_⟩
        intro report hdone
        obtain ⟨rest, hall⟩ := exists_ok_of_map hdone
        exact .cons hhead hone hitem (hfiles rest hall)
      | error f =>
        have hequipped' : Equipped a s (next.note (.failed path f.message)) := hequipped
        obtain ⟨hrest, hfiles⟩ := ih htail hequipped' ht' hpaths'
        cases hcollected : sv.isCollected f with
        | true =>
          rw [annotateAll_collected hcall hcollected, gather, if_pos hcollected, ← hrest]
          refine ⟨rfl, ?_⟩
          intro report hdone
          obtain ⟨rest, hall⟩ := exists_ok_of_map hdone
          exact .cons hhead hone hitem (hfiles rest hall)
        | false =>
          rw [annotateAll_stopped hcall hcollected, gather, if_neg (by simp [hcollected])]
          exact ⟨rfl, fun _ hdone => by simp at hdone⟩

/-- What fails once a summary is there is the writing of the file, and it fails in a way that is not
collected only for a text that cannot be encoded. -/
theorem path?_of_finish_error {file : Path} {source : Source} {answer : Except OracleFault Text}
    (haccident : ∀ f, answer ≠ .error (.accident f)) {f : Failure}
    (hcall : (sv.finish path file source (told path answer, s)).1 = .error f) :
    f.path? = some path ∨ ∃ d summary e, f = .unencodable e ∧ sv.embedding? path = some d ∧
      answer = .ok summary ∧
      Text.Encoding.utf8.fault? (source.annotate d summary).text = some e := by
  cases answer with
  | error e =>
    cases e with
    | accident w => exact absurd rfl (haccident w)
    | _ =>
      rw [← Except.error.inj hcall]
      exact .inl rfl
  | ok summary =>
    unfold finish told at hcall
    cases hin : sv.embedding? path with
    | none => simp [hin] at hcall
    | some d =>
      simp only [hin] at hcall
      cases hwrite : write path file (source.annotate d summary) s with
      | mk done last =>
        cases done with
        | ok _ => simp [hwrite] at hcall
        | error g =>
          simp only [hwrite, Except.error.injEq] at hcall
          subst hcall
          rcases write_fails (congrArg Prod.fst hwrite) with hpath | ⟨e, hunencodable, hfault⟩
          · exact .inl hpath
          · exact .inr ⟨d, summary, e, hunencodable, rfl, rfl, hfault⟩

/-- Only a text that holds a half of a character makes an annotation fail in a way that is not
collected: the path has a place that can be named, and the summarizer answers or says why not. -/
theorem path?_of_error (known : Index) (hbuild : (sv.summon s).1 = .ok a)
    (hreply : sv.Answers a reply)
    (haccident : ∀ p content f, reply p content ≠ .error (.accident f))
    {file : Path} (hplace : sv.place path = .ok file)
    (hnamed : ∀ part ∈ file.parts, Nameable part) {f : Failure}
    (hcall : (sv.annotate known path s).1 = .error f) : f.path? = some path ∨
      ∃ d source summary e, f = .unencodable e ∧ sv.embedding? path = some d ∧
        sv.read s.tree path = .ok (file, source) ∧ reply path source.content = .ok summary ∧
        Text.Encoding.utf8.fault? (source.annotate d summary).text = some e := by
  cases hprep : sv.prepare known path s.tree with
  | inl early =>
    obtain ⟨result, notes⟩ := early
    rw [annotate_of_inl hprep] at hcall
    obtain rfl : result = .error f := hcall
    exact .inl (path?_of_read_error hplace hnamed (read_of_prepare hprep))
  | inr found =>
    obtain ⟨file', source⟩ := found
    obtain ⟨-, -, hread, -⟩ := prepare_eq_inr_iff.mp hprep
    obtain rfl := eq_of_read hplace hread
    obtain ⟨s', hgen, -, -⟩ := generate_of_equipped hbuild hreply (.refl a s) path source
    rw [annotate_of_inr hprep, hgen] at hcall
    obtain hpath | ⟨d, summary, e, hf, hin, hr, he⟩ :=
      path?_of_finish_error (haccident path source.content) hcall
    · exact .inl hpath
    · exact .inr ⟨d, source, summary, e, hf, hin, hread, hr, he⟩

theorem mem_outcomes_iff {o : Text × Except Failure Annotation} :
    o ∈ sv.outcomes known s paths ↔ ∃ p ∈ paths, (p, (sv.annotate known p s).1) = o := by
  rw [outcomes, List.mem_map]

theorem isCollected_eq (hfast : sv.settings.failFast = false) (f : Failure) :
    sv.isCollected f = f.path?.isSome := by
  simp [isCollected, hfast]

/-- What is the same in two batches of which one has all paths of the other. -/
theorem Separate.item?_eq {others : List Text} {t t₁ t₂ : Tree}
    (h : Separate sv known s paths t t₁) (h' : Separate sv known s others t t₂)
    (hsub : ∀ p ∈ others, p ∈ paths) (loc : Location)
    (hloc : (∃ p ∈ others, sv.destination? s.tree p = some loc) ∨
      ∀ p ∈ paths, sv.destination? s.tree p ≠ some loc) :
    t₂.top.item? loc = t₁.top.item? loc := by
  rcases hloc with ⟨p, hp, hdest⟩ | hnone
  · rw [h'.file p hp loc hdest, h.file p (hsub p hp) loc hdest]
  · rw [h.other loc hnone, h'.other loc fun p hp => hnone p (hsub p hp)]

/-- A batch comes to what its files come to alone, and so does every batch of the same files, or of
some of them. -/
structure Independent (sv : Service α σ) (known : Index) (s : Session α σ) (paths : List Text)
    (report : Report) (t : Tree) : Prop where
  alone : report = reportOf (sv.outcomes known s paths)
  files : Separate sv known s paths s.tree t
  permuted (others : List Text) (h : others.Perm paths) : ∃ (report' : Report) (s' : Session α σ),
    sv.annotateAll known others s = (.ok report', s') ∧ report'.results.Perm report.results ∧
      report'.failures.Perm report.failures ∧ ∀ loc, s'.tree.top.item? loc = t.top.item? loc
  thinned (others : List Text) (h : others.Sublist paths) :
    ∃ (report' : Report) (s' : Session α σ),
      sv.annotateAll known others s = (.ok report', s') ∧
        report'.results.Sublist report.results ∧ report'.failures.Sublist report.failures ∧
        ∀ p ∈ others, ∀ loc, sv.destination? s.tree p = some loc →
          s'.tree.top.item? loc = t.top.item? loc

section

variable (hbuild : (sv.summon s).1 = .ok a) (hreply : sv.Answers a reply)

include hbuild hreply

theorem annotateAll_of_collected (known : Index) (hapart : paths.Pairwise (sv.Apart s.tree))
    (hall : ∀ p ∈ paths, ∀ f, (sv.annotate known p s).1 = .error f → sv.isCollected f = true) :
    ∃ s', sv.annotateAll known paths s = (.ok (reportOf (sv.outcomes known s paths)), s') ∧
      Separate sv known s paths s.tree s'.tree := by
  obtain ⟨hresult, hfiles⟩ := annotateAll_alike known hbuild hreply hapart (.refl a s)
    (.refl (fun _ => False) s.tree) fun _ _ _ _ h => h
  have hgather : gather sv.isCollected (sv.outcomes known s paths) =
      .ok (reportOf (sv.outcomes known s paths)) := by
    apply gather_of_collected
    intro o ho f hf
    obtain ⟨p, hp, rfl⟩ := mem_outcomes_iff.mp ho
    exact hall p hp f hf
  rw [hgather] at hresult
  exact ⟨_, Prod.fst_eq_iff.mp hresult, hfiles _ hresult⟩

theorem collected_of_annotateAll (hapart : paths.Pairwise (sv.Apart s.tree)) {report : Report}
    {s' : Session α σ} (h : sv.annotateAll known paths s = (.ok report, s')) :
    (∀ p ∈ paths, ∀ f, (sv.annotate known p s).1 = .error f → sv.isCollected f = true) ∧
      report = reportOf (sv.outcomes known s paths) ∧
      Separate sv known s paths s.tree s'.tree := by
  obtain ⟨hresult, hfiles⟩ := annotateAll_alike known hbuild hreply hapart (.refl a s)
    (.refl (fun _ => False) s.tree) fun _ _ _ _ h => h
  rw [h] at hresult hfiles
  obtain ⟨hall, hreport⟩ := gather_eq_ok_iff.mp hresult.symm
  refine ⟨?_, hreport, hfiles report rfl⟩
  intro p hp f hf
  exact hall _ (mem_outcomes_iff.mpr ⟨p, hp, rfl⟩) f hf

/-- Different files of a batch do not influence each other. The batch returns unless one of them
fails alone in a way that is not collected, which takes a summary with a half of a character. -/
theorem independent_of_annotateAll (known : Index)
    (haccident : ∀ p content f, reply p content ≠ .error (.accident f))
    (hfast : sv.settings.failFast = false) (hapart : paths.Pairwise (sv.Apart s.tree)) :
    ((∃ report s', sv.annotateAll known paths s = (.ok report, s')) ↔
      ∀ p ∈ paths, ∀ f, (sv.annotate known p s).1 = .error f → f.path?.isSome) ∧
    (∀ report s', sv.annotateAll known paths s = (.ok report, s') →
      Independent sv known s paths report s'.tree) ∧
    ∀ p ∈ paths, ∀ file f, sv.place p = .ok file → (∀ part ∈ file.parts, Nameable part) →
      (sv.annotate known p s).1 = .error f → f.path? = some p ∨
        ∃ d source summary e, f = .unencodable e ∧ sv.embedding? p = some d ∧
          sv.read s.tree p = .ok (file, source) ∧ reply p source.content = .ok summary ∧
          Text.Encoding.utf8.fault? (source.annotate d summary).text = some e := by
  refine ⟨⟨?_, ?_⟩, ?_, ?_⟩
  · rintro ⟨report, s', hcall⟩ p hp f hf
    rw [← isCollected_eq hfast]
    exact (collected_of_annotateAll hbuild hreply hapart hcall).1 p hp f hf
  · intro hall
    have hcollected : ∀ p ∈ paths, ∀ f, (sv.annotate known p s).1 = .error f →
        sv.isCollected f = true := by
      intro p hp f hf
      rw [isCollected_eq hfast]
      exact hall p hp f hf
    obtain ⟨s', hcall, -⟩ := annotateAll_of_collected hbuild hreply known hapart hcollected
    exact ⟨_, s', hcall⟩
  · intro report s' hcall
    obtain ⟨hall, hreport, hfiles⟩ := collected_of_annotateAll hbuild hreply hapart hcall
    refine ⟨hreport, hfiles, ?_, ?_⟩
    · intro others hperm
      have hsub : ∀ p ∈ others, p ∈ paths := fun p hp => hperm.mem_iff.mp hp
      have hapart' : others.Pairwise (sv.Apart s.tree) :=
        (hperm.pairwise_iff fun h => h.symm).mpr hapart
      obtain ⟨s'', hcall', hfiles'⟩ := annotateAll_of_collected hbuild hreply known hapart'
        fun p hp => hall p (hsub p hp)
      have houtcomes : (sv.outcomes known s others).Perm (sv.outcomes known s paths) :=
        hperm.map _
      rw [hreport]
      refine ⟨_, s'', hcall', houtcomes.filterMap _, houtcomes.filterMap _, ?_⟩
      intro loc
      apply hfiles.item?_eq hfiles' hsub loc
      by_cases hthere : ∃ p ∈ others, sv.destination? s.tree p = some loc
      · exact .inl hthere
      · refine .inr fun p hp hloc => hthere ⟨p, hperm.mem_iff.mpr hp, hloc⟩
    · intro others hsublist
      have hsub : ∀ p ∈ others, p ∈ paths := fun p hp => hsublist.subset hp
      obtain ⟨s'', hcall', hfiles'⟩ := annotateAll_of_collected hbuild hreply known
        (hapart.sublist hsublist) fun p hp => hall p (hsub p hp)
      have houtcomes : (sv.outcomes known s others).Sublist (sv.outcomes known s paths) :=
        hsublist.map _
      rw [hreport]
      refine ⟨_, s'', hcall', houtcomes.filterMap _, houtcomes.filterMap _, ?_⟩
      intro p hp loc hloc
      exact hfiles.item?_eq hfiles' hsub loc (.inl ⟨p, hp, hloc⟩)
  · intro p _ file f hplace hnamed hf
    exact path?_of_error known hbuild hreply haccident hplace hnamed hf

end

theorem answers_always (reply : Text) :
    (always reply).Answers () fun _ _ => .ok reply := fun _ _ _ => rfl

/-- A file that is not there fails, and the other ones are annotated as if it had not been asked
for. -/
theorem independent_of_annotateAll_folder : ∃ (report : Report) (s' : Session Unit Unit),
    (always "s").annotateAll [] ["a.ts", "b.ts", "c.ts"] (folder [("a.ts", "x"), ("c.ts", "y")]) =
      (.ok report, s') ∧
    Independent (always "s") [] (folder [("a.ts", "x"), ("c.ts", "y")]) ["a.ts", "b.ts", "c.ts"]
      report s'.tree := by
  let s := folder [("a.ts", "x"), ("c.ts", "y")]
  have hapart : (["a.ts", "b.ts", "c.ts"] : List Text).Pairwise ((always "s").Apart s.tree) := by
    have hdest (p : Text) (hp : p ∈ (["a.ts", "b.ts", "c.ts"] : List Text)) :
        (always "s").destination? s.tree p = some [p] := by
      simp only [List.mem_cons, List.not_mem_nil, or_false] at hp
      rcases hp with rfl | rfl | rfl <;> decide +kernel
    have hne : (["a.ts", "b.ts", "c.ts"] : List Text).Pairwise (· ≠ ·) := by decide
    refine hne.imp_of_mem fun {p q} hp hq hpq loc hloc hloc' => hpq ?_
    rw [hdest p hp] at hloc
    rw [hdest q hq, ← hloc] at hloc'
    simpa using hloc'.symm
  have hfirst : ((always "s").annotate [] "a.ts" s).1 = .ok ⟨"a.ts", .generated "s"⟩ := by
    decide +kernel
  have hsecond : ((always "s").annotate [] "b.ts" s).1 =
      .error (.unreadable "b.ts" (.file (.of .missing "b.ts"))) := by decide +kernel
  have hthird : ((always "s").annotate [] "c.ts" s).1 = .ok ⟨"c.ts", .generated "s"⟩ := by
    decide +kernel
  have hbuild : ((always "s").summon s).1 = .ok () := rfl
  obtain ⟨hreturns, hindependent, -⟩ := independent_of_annotateAll hbuild (answers_always "s") []
    (by simp) rfl hapart
  obtain ⟨report, s', hcall⟩ := hreturns.mpr (by simp [hfirst, hsecond, hthird, Failure.path?])
  exact ⟨report, s', hcall, hindependent report s' hcall⟩

/-- A summary with a half of a character stops the batch, and the other file gets no result. -/
theorem not_returned_annotateAll :
    let sv := always (.ofList [.half 0x3D])
    let s := folder [("a.ts", "x"), ("b.ts", "y")]
    sv.settings.failFast = false ∧ sv.place "a.ts" = .ok ⟨.relative, ["a.ts"]⟩ ∧
      sv.place "b.ts" = .ok ⟨.relative, ["b.ts"]⟩ ∧
      ∃ e, (sv.annotateAll [] ["a.ts", "b.ts"] s).1 = .error (.unencodable e) := by
  refine ⟨rfl, by decide +kernel, by decide +kernel, ⟨.utf8, 23, 1, .half 0x3D⟩, ?_⟩
  rfl

end Service

end Synopsis
