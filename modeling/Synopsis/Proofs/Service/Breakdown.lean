import Synopsis.Proofs.Prompt
import Synopsis.Proofs.Service.Online
import Synopsis.Proofs.Service.Ownership

namespace Synopsis

open Command

/-- A failure that no command expects, so that the program ends without an exit code. -/
structure Failure.Unforeseen (f : Failure) : Prop where
  path : f.path? = none
  rejection : isRejection f = false
  spoiled : isSpoiledIndex f = false

section

variable {h : Host} {t : Tree} {dirs : List Path} {name : Text}

/-- Why the text of a prompt cannot be had. -/
inductive Prompt.Unavailable (h : Host) (t : Tree) (dirs : List Path) (name : Text) : Prop where
  | home (f : HomeFault) (hexpand : h.expand (.ofText name) = .error f)
  | place (asPath : Path) (hexpand : h.expand (.ofText name) = .ok asPath) (f : Fault)
    (hfirst : firstFile t (asPath :: dirs.flatMap fun d => variants d name) = .error f)
  | content (path : Path) (hfound : resolve h t dirs name = .ok path) (f : ReadFault)
    (hread : t.readText path = .error f)

/-- What is wrong with the text of a prompt is told to whoever has called the program. -/
theorem Prompt.isRejection_of_check {path : Path} {content : Text} {f : PromptFault}
    (hcheck : check path content = .error f) : isRejection (.unbuilt (.prompt f)) = true := by
  simp only [check] at hcheck
  split at hcheck
  · obtain rfl := Except.error.inj hcheck
    rfl
  · split at hcheck
    · obtain rfl := Except.error.inj hcheck
      rfl
    · split at hcheck
      · obtain rfl := Except.error.inj hcheck
        rfl
      · cases hcheck

theorem Prompt.unavailable_iff :
    (∃ f, load h t dirs name = .error f ∧ isRejection (.unbuilt (.prompt f)) = false) ↔
      Unavailable h t dirs name := by
  constructor
  · rintro ⟨f, hload, hno⟩
    unfold load at hload
    cases hfound : resolve h t dirs name with
    | error e =>
      rw [hfound] at hload
      obtain rfl : e = f := Except.error.inj hload
      unfold resolve at hfound
      cases hexpand : h.expand (.ofText name) with
      | error e => exact .home e hexpand
      | ok asPath =>
        simp only [hexpand] at hfound
        split at hfound
        · rename_i e hfirst
          exact .place asPath hexpand e hfirst
        · cases hfound
        · obtain rfl := Except.error.inj hfound
          cases hno
    | ok path =>
      simp only [hfound] at hload
      cases hread : t.readText path with
      | error e => exact .content path hfound e hread
      | ok content =>
        simp only [hread] at hload
        split at hload
        · rename_i e hcheck
          obtain rfl := Except.error.inj hload
          rw [isRejection_of_check hcheck] at hno
          cases hno
        · cases hload
  · intro hun
    cases hun with
    | home f hexpand => exact ⟨.home f, by simp [load, resolve, hexpand], rfl⟩
    | place asPath hexpand f hfirst =>
      exact ⟨.file f, by simp [load, resolve, hexpand, hfirst], rfl⟩
    | content path hfound f hread => exact ⟨.unreadable f, by simp [load, hfound, hread], rfl⟩

/-- A client is refused for a key that is empty, or else for an address or a header. -/
theorem Client.create_error {key base : Text} {referer title : Option Text} {maxRetries : Int}
    {e : CompletionError} (hcreate : create key base referer title maxRetries = .error e) :
    e = .keyEmpty ∨ ∃ f, e = .accident f := by
  unfold create at hcreate
  split at hcreate
  · exact .inl (Except.error.inj hcreate).symm
  · simp only at hcreate
    split at hcreate
    · exact .inr ⟨_, (Except.error.inj hcreate).symm⟩
    · split at hcreate
      · exact .inr ⟨_, (Except.error.inj hcreate).symm⟩
      · cases hcreate

/-- Why the environment describes no client, apart from a key that is missing. -/
inductive Client.Unmade (h : Host) (t : Tree) : Prop where
  | key (f : KeyFault) (hkey : lookUpKey h t = .error f)
  | client (key : Text) (hkey : lookUpKey h t = .ok (some key)) (f : WireFault)
    (hcreate : create key (h.apiBase.getD standardUrl) none
      (some (h.apiTitle.getD "autosummary")) 3 = .error (.accident f))

theorem Client.unmade_iff :
    (∃ f, ofHost h t = .error f ∧ isRejection (.unbuilt (.setup f)) = false) ↔ Unmade h t := by
  constructor
  · rintro ⟨f, hmade, hno⟩
    unfold ofHost at hmade
    split at hmade
    · rename_i e hkey
      exact .key e hkey
    · obtain rfl := Except.error.inj hmade
      cases hno
    · rename_i key hkey
      cases hcreate : create key (h.apiBase.getD standardUrl) none
          (some (h.apiTitle.getD "autosummary")) 3 with
      | ok c =>
        rw [hcreate] at hmade
        cases hmade
      | error e =>
        rw [hcreate] at hmade
        obtain rfl := Except.error.inj hmade
        rcases create_error hcreate with rfl | ⟨f, rfl⟩
        · cases hno
        · exact .client key hkey f hcreate
  · intro hun
    cases hun with
    | key f hkey => exact ⟨.key f, by simp [ofHost, hkey], rfl⟩
    | client key hkey f hcreate =>
      refine ⟨.completion (.accident f), ?_, rfl⟩
      rw [ofHost, hkey]
      simp only [hcreate]
      rfl

/-- Why no summarizer can be built where no command expects it. -/
inductive Unbuildable (h : Host) (settings : Settings) (t : Tree) : Prop where
  | directory (f : HomeFault)
    (hown : Prompt.directories h (some (Prompt.projectDirectory settings.root)) [] = .error f)
  | prompt (dirs : List Path)
    (hown : Prompt.directories h (some (Prompt.projectDirectory settings.root)) [] = .ok dirs)
    (hprompt : Prompt.Unavailable h t dirs settings.prompt)
  | client (dirs : List Path)
    (hown : Prompt.directories h (some (Prompt.projectDirectory settings.root)) [] = .ok dirs)
    (prompt : Prompt) (hload : Prompt.load h t dirs settings.prompt = .ok prompt)
    (hclient : Client.Unmade h t)

theorem unbuildable_iff {settings : Settings} {w : Wire} :
    (∃ f, ((Supply.online h).build settings t w).1 = .error f ∧ (Failure.unbuilt f).Unforeseen) ↔
      Unbuildable h settings t := by
  have hunforeseen {f : BuildFault} (hno : isRejection (.unbuilt f) = false) :
      (Failure.unbuilt f).Unforeseen := ⟨rfl, hno, rfl⟩
  constructor
  · rintro ⟨f, hbuild, hfails⟩
    have hno := hfails.rejection
    simp only [Supply.online] at hbuild
    cases hown : Prompt.directories h
        (some (settings.root / Path.mk .relative [".autosummary", "prompts"])) [] with
    | error e => exact .directory e hown
    | ok dirs =>
      simp only [hown] at hbuild
      cases hload : Prompt.load h t dirs settings.prompt with
      | error e =>
        simp only [hload] at hbuild
        obtain rfl := Except.error.inj hbuild
        exact .prompt dirs hown (Prompt.unavailable_iff.mp ⟨e, hload, hno⟩)
      | ok prompt =>
        simp only [hload] at hbuild
        cases hmade : Client.ofHost h t with
        | error e =>
          simp only [hmade] at hbuild
          obtain rfl := Except.error.inj hbuild
          exact .client dirs hown prompt hload (Client.unmade_iff.mp ⟨e, hmade, hno⟩)
        | ok client => simp [hmade] at hbuild
  · intro hun
    unfold Supply.online
    cases hun with
    | directory f hown =>
      unfold Prompt.projectDirectory at hown
      exact ⟨.prompt (.home f), by simp only [hown], hunforeseen rfl⟩
    | prompt dirs hown hprompt =>
      obtain ⟨f, hload, hno⟩ := Prompt.unavailable_iff.mpr hprompt
      unfold Prompt.projectDirectory at hown
      exact ⟨.prompt f, by simp only [hown, hload], hunforeseen hno⟩
    | client dirs hown prompt hload hclient =>
      obtain ⟨f, hmade, hno⟩ := Client.unmade_iff.mpr hclient
      unfold Prompt.projectDirectory at hown
      exact ⟨.setup f, by simp only [hown, hload, hmade], hunforeseen hno⟩

end

namespace Service

/-- A step that fails as no command expects. -/
def Founders {β : Type} (x : Except Failure β) : Prop := ∃ f, x = .error f ∧ f.Unforeseen

section

variable {α σ : Type} {sv : Service α σ} {known : Index} {path : Text} {file : Path}
  {source : Source} {t : Tree} {f : Failure} {s : Session α σ}

/-- It is not the tree that matters to reading in this way, but the path alone. -/
theorem founders_read_iff : Founders (sv.read t path) ↔ (∃ f, sv.place path = .error f) ∨
    ∃ file why, sv.place path = .ok file ∧ Tree.obstacle? file = some (.unnameable why) := by
  constructor
  · rintro ⟨f, hread, hunforeseen⟩
    have hpathless := hunforeseen.path
    cases hplace : sv.place path with
    | error e => exact .inl ⟨e, rfl⟩
    | ok file =>
      by_cases hnamed : ∀ part ∈ file.parts, Nameable part
      · rw [path?_of_read_error hplace hnamed hread] at hpathless
        cases hpathless
      · obtain ⟨why, hobstacle⟩ := Tree.exists_obstacle?_of_not_nameable hnamed
        exact .inr ⟨file, why, rfl, hobstacle⟩
  · rintro (⟨f, hplace⟩ | ⟨file, why, hplace, hobstacle⟩)
    · exact ⟨.home f, by simp [read, hplace], rfl, rfl, rfl⟩
    · exact ⟨.unnameable why, by simp [read, hplace, Tree.readExact, Tree.readBytes, Tree.look,
        Tree.locate, hobstacle], rfl, rfl, rfl⟩

theorem founders_write_iff : Founders (write path file source s).1 ↔
    ∃ f, (s.tree.replaceText file source.text).1 = .error (.encoding f) := by
  rw [write_eq]
  constructor
  · rintro ⟨f, hwrite, hunforeseen⟩
    cases hreplace : (s.tree.replaceText file source.text).1 with
    | ok _ =>
      rw [hreplace] at hwrite
      cases hwrite
    | error why =>
      rw [hreplace] at hwrite
      cases why with
      | encoding e => exact ⟨e, rfl⟩
      | file e =>
        obtain rfl := Except.error.inj hwrite
        cases hunforeseen.path
  · rintro ⟨f, hreplace⟩
    rw [hreplace]
    exact ⟨.unencodable f, rfl, rfl, rfl, rfl⟩

theorem founders_generate_iff : Founders (sv.generate path source s).1 ↔
    s.holding = .none ∧ (∃ f, (sv.supply.build sv.settings s.tree s.outside).1 = .error f ∧
      (Failure.unbuilt f).Unforeseen) ∨
    ∃ f, (sv.generate path source s).1 = .error (.accident f) := by
  constructor
  · rintro ⟨f, hgen, hunforeseen⟩
    rcases generate_error hgen with hpath | ⟨hnone, why, hbuild, rfl⟩ | ⟨why, rfl⟩
    · rw [hunforeseen.path] at hpath
      cases hpath
    · exact .inl ⟨hnone, why, hbuild, hunforeseen⟩
    · exact .inr ⟨why, hgen⟩
  · rintro (⟨hnone, f, hbuild, hunforeseen⟩ | ⟨f, hgen⟩)
    · rcases hmade : sv.supply.build sv.settings s.tree s.outside with ⟨e | a, outside⟩
      · rw [hmade] at hbuild
        obtain rfl := Except.error.inj hbuild
        have hsummon : sv.summon s = (.error (.unbuilt e), { s with outside }) := by
          simp only [summon, hnone, hmade]
        exact ⟨_, congrArg Prod.fst (generate_of_unbuilt hsummon path source), hunforeseen⟩
      · simp [hmade] at hbuild
    · exact ⟨_, hgen, rfl, rfl, rfl⟩

theorem founders_finish_iff {x : Except Failure Text × Session α σ} :
    Founders (sv.finish path file source x).1 ↔ Founders x.1 ∨ ∃ summary d, x.1 = .ok summary ∧
      sv.embedding? path = some d ∧
        Founders (write path file (source.annotate d summary) x.2).1 := by
  obtain ⟨e | summary, asked⟩ := x
  · simp [finish, Founders]
  · unfold finish
    cases sv.embedding? path with
    | none => simp [Founders]
    | some d =>
      simp only [Option.some.injEq, Except.ok.injEq, exists_and_left, exists_eq_left']
      cases write path file (source.annotate d summary) asked with
      | mk done last => cases done <;> simp [Founders]

/-- A file is read if its type is wanted and no summary of it is known. -/
theorem prepare_eq_error_iff : (∃ notes, sv.prepare known path t = .inl (.error f, notes)) ↔
    sv.isSupported path = true ∧ sv.reusable? known path = none ∧ sv.read t path = .error f := by
  unfold prepare
  cases sv.isSupported path with
  | false => simp
  | true =>
    cases sv.reusable? known path with
    | some summary => simp
    | none =>
      cases sv.read t path with
      | error e => simp
      | ok found =>
        obtain ⟨file, source⟩ := found
        simp only [Bool.not_true, Bool.false_eq_true, if_false]
        cases sv.embedded? path source <;> simp

theorem founders_annotate_iff : Founders (sv.annotate known path s).1 ↔
    sv.isSupported path = true ∧ sv.reusable? known path = none ∧ Founders (sv.read s.tree path) ∨
    ∃ file source, sv.prepare known path s.tree = .inr (file, source) ∧
      Founders (sv.finish path file source (sv.generate path source s)).1 := by
  constructor
  · rintro ⟨f, hcall, hunforeseen⟩
    cases hprep : sv.prepare known path s.tree with
    | inl early =>
      obtain ⟨result, notes⟩ := early
      rw [annotate_of_inl hprep] at hcall
      obtain rfl : result = .error f := hcall
      obtain ⟨hyes, hknown, hread⟩ := prepare_eq_error_iff.mp ⟨notes, hprep⟩
      exact .inl ⟨hyes, hknown, f, hread, hunforeseen⟩
    | inr found =>
      obtain ⟨file, source⟩ := found
      rw [annotate_of_inr hprep] at hcall
      exact .inr ⟨file, source, rfl, f, hcall, hunforeseen⟩
  · rintro (⟨hyes, hknown, f, hread, hunforeseen⟩ | ⟨file, source, hprep, hfinish⟩)
    · obtain ⟨notes, hprep⟩ := prepare_eq_error_iff.mpr ⟨hyes, hknown, hread⟩
      exact ⟨f, congrArg Prod.fst (annotate_of_inl hprep), hunforeseen⟩
    · rwa [annotate_of_inr hprep]

end

section

variable {sv : Service (Summarizer × Client) Wire} {known : Index} {path : Text} {t : Tree}
  {here : Session (Summarizer × Client) Wire}

/-- What there is about a path that no command expects. `t` is the tree before anything was written.
-/
inductive Trips (sv : Service (Summarizer × Client) Wire) (t : Tree) (known : Index) (path : Text)
    (here : Session (Summarizer × Client) Wire) : Prop where
  | homeless (hyes : sv.isSupported path = true) (hknown : sv.reusable? known path = none)
    (f : HomeFault) (hplace : sv.place path = .error f)
  | unnameable (hyes : sv.isSupported path = true) (hknown : sv.reusable? known path = none)
    (file : Path) (hplace : sv.place path = .ok file) (why : NameFault)
    (hobstacle : Tree.obstacle? file = some (.unnameable why))
  | unbuildable (file : Path) (source : Source)
    (hasks : sv.prepare known path here.tree = .inr (file, source)) (hnone : here.holding = .none)
    (hbuild : Unbuildable sv.host sv.settings t)
  | accident (file : Path) (source : Source)
    (hasks : sv.prepare known path here.tree = .inr (file, source)) (f : WireFault)
    (hanswer : (sv.generate path source here).1 = .error (.accident f))
  | unencodable (file : Path) (source : Source)
    (hasks : sv.prepare known path here.tree = .inr (file, source)) (summary : Text)
    (hanswer : (sv.generate path source here).1 = .ok summary) (d : Dialect)
    (hin : sv.embedding? path = some d) (f : Text.EncodingFault)
    (hwrite : (here.tree.replaceText file (source.annotate d summary).text).1 =
      .error (.encoding f))

theorem trips_iff (hsupply : sv.supply = Supply.online sv.host)
    (hsame : here.holding = .none → here.tree = t) :
    Founders (sv.annotate known path here).1 ↔ Trips sv t known path here := by
  have hbuild_iff (hnone : here.holding = .none) :
      (∃ f, (sv.supply.build sv.settings here.tree here.outside).1 = .error f ∧
        (Failure.unbuilt f).Unforeseen) ↔ Unbuildable sv.host sv.settings t := by
    rw [hsupply, hsame hnone]
    exact unbuildable_iff
  have htree (source : Source) := generate_tree sv path source here
  rw [founders_annotate_iff]
  constructor
  · rintro (⟨hyes, hknown, hread⟩ | ⟨file, source, hasks, hfinish⟩)
    · rcases founders_read_iff.mp hread with ⟨f, hplace⟩ | ⟨file, why, hplace, hobstacle⟩
      · exact .homeless hyes hknown f hplace
      · exact .unnameable hyes hknown file hplace why hobstacle
    · rcases founders_finish_iff.mp hfinish with hgen | ⟨summary, d, hanswer, hin, hwrite⟩
      · rcases founders_generate_iff.mp hgen with ⟨hnone, hbuild⟩ | ⟨f, hanswer⟩
        · exact .unbuildable file source hasks hnone ((hbuild_iff hnone).mp hbuild)
        · exact .accident file source hasks f hanswer
      · obtain ⟨f, hreplace⟩ := founders_write_iff.mp hwrite
        rw [htree source] at hreplace
        exact .unencodable file source hasks summary hanswer d hin f hreplace
  · intro htrips
    cases htrips with
    | homeless hyes hknown f hplace =>
      exact .inl ⟨hyes, hknown, founders_read_iff.mpr (.inl ⟨f, hplace⟩)⟩
    | unnameable hyes hknown file hplace why hobstacle =>
      exact .inl ⟨hyes, hknown, founders_read_iff.mpr (.inr ⟨file, why, hplace, hobstacle⟩)⟩
    | unbuildable file source hasks hnone hbuild =>
      have hgen : Founders (sv.generate path source here).1 :=
        founders_generate_iff.mpr (.inl ⟨hnone, (hbuild_iff hnone).mpr hbuild⟩)
      exact .inr ⟨file, source, hasks, founders_finish_iff.mpr (.inl hgen)⟩
    | accident file source hasks f hanswer =>
      have hgen := founders_generate_iff.mpr (.inr ⟨f, hanswer⟩)
      exact .inr ⟨file, source, hasks, founders_finish_iff.mpr (.inl hgen)⟩
    | unencodable file source hasks summary hanswer d hin f hreplace =>
      rw [← htree source] at hreplace
      exact .inr ⟨file, source, hasks, founders_finish_iff.mpr
        (.inr ⟨summary, d, hanswer, hin, founders_write_iff.mpr ⟨f, hreplace⟩⟩)⟩

end

section

variable {α σ : Type} {sv : Service α σ} {known : Index} {path : Text} {front : List Text}
  {report : Report} {f : Failure} {s s' start mid : Session α σ}

/-- Without a summarizer nothing is written. -/
theorem annotate_unequipped (hnone : (sv.annotate known path s).2.holding = .none) :
    s.holding = .none ∧ (sv.annotate known path s).2.tree = s.tree := by
  cases hprep : sv.prepare known path s.tree with
  | inl early =>
    rw [annotate_of_inl hprep] at hnone ⊢
    exact ⟨hnone, rfl⟩
  | inr found =>
    obtain ⟨file, source⟩ := found
    rw [annotate_of_inr hprep] at hnone ⊢
    rw [(finish_keeps sv path file source _).holding] at hnone
    have hsummon := summon_tree sv s
    cases hs : sv.summon s with
    | mk found next =>
      rw [hs] at hsummon
      cases found with
      | error f =>
        rw [generate_of_unbuilt hs]
        exact ⟨(summon_error hs).1, hsummon⟩
      | ok a =>
        rw [generate_of_summon hs] at hnone
        have hnext : next.holding = .none := hnone
        exact absurd hnext (holding_of_summon hs)

/-- As long as a batch has no summarizer, the tree is the one that it started with. -/
theorem annotateAll_unequipped (hfront : sv.annotateAll known front start = (.ok report, mid))
    (hnone : mid.holding = .none) : mid.tree = start.tree := by
  have hholds : (sv.annotateAll known front start).2.holding = .none →
      (sv.annotateAll known front start).2.tree = start.tree := by
    apply annotateAll_induction (fun now => now.holding = .none → now.tree = start.tree)
    · exact fun now n h => h
    · intro path _ now h hlast
      obtain ⟨hnow, htree⟩ := annotate_unequipped hlast
      exact htree.trans (h hnow)
    · exact fun _ => rfl
  rw [hfront] at hholds
  exact hholds hnone

end

/-- An index that cannot be looked at, or that holds more than can be read. -/
theorem unforeseen_load_iff {t : Tree} {p : Path} :
    (∃ why, Index.load t p = .error why ∧ isSpoiledIndex (.index why) = false) ↔
      (∃ f, t.isFile p = .error f) ∨ t.isFile p = .ok true ∧ ∃ text, t.readText p = .ok text ∧
        ∃ f, Json.read text = .error f ∧ f ≠ .malformed := by
  unfold Index.load
  cases t.isFile p with
  | error f => simp [isSpoiledIndex]
  | ok found =>
    cases found with
    | false => simp
    | true =>
      cases t.readText p with
      | error f => simp [isSpoiledIndex]
      | ok text =>
        cases hjson : Json.read text with
        | error f => cases f <;> simp [hjson, isSpoiledIndex]
        | ok v => cases hindex : Index.ofJson v <;> simp [hjson, hindex, isSpoiledIndex]

variable {sv : Service (Summarizer × Client) Wire} {paths : List Text}
  {s : Session (Summarizer × Client) Wire}

/-- What breaks a run. -/
inductive Breaks (sv : Service (Summarizer × Client) Wire) (paths : List Text)
    (s : Session (Summarizer × Client) Wire) : Prop where
  | unlookable (f : Fault) (hfile : s.tree.isFile sv.index = .error f)
  | excessive (hfile : s.tree.isFile sv.index = .ok true) (text : Text)
    (hread : s.tree.readText sv.index = .ok text) (f : Json.Fault)
    (hjson : Json.read text = .error f) (hmany : f ≠ .malformed)
  | tripped (known : Index) (start : Session (Summarizer × Client) Wire)
    (hload : sv.load s = (.ok known, start)) (front : List Text) (path : Text)
    (rest : List Text) (hpaths : paths = front ++ path :: rest) (report : Report)
    (mid : Session (Summarizer × Client) Wire)
    (hfront : sv.annotateAll known front start = (.ok report, mid))
    (htrips : Trips sv s.tree known path mid)
  | unstored (known : Index) (start : Session (Summarizer × Client) Wire)
    (hload : sv.load s = (.ok known, start)) (report : Report)
    (mid : Session (Summarizer × Client) Wire)
    (hall : sv.annotateAll known paths start = (.ok report, mid)) (why : WriteFault)
    (hstore : (Index.store mid.tree sv.index
      ((Index.compile sv.settings.prune report.results known).map Prod.snd)).1 = .error why)
    (hnot : ∀ f, why = .file f → f.refusal ≠ .missing)

/-- A run fails as no command expects just for these causes. -/
theorem breaks_iff (hsupply : sv.supply = Supply.online sv.host) :
    Founders (sv.run paths s).1 ↔ Breaks sv paths s := by
  have hsame {known : Index} {start mid : Session (Summarizer × Client) Wire} {front : List Text}
      {report : Report} (hload : sv.load s = (.ok known, start))
      (hfront : sv.annotateAll known front start = (.ok report, mid))
      (hnone : mid.holding = .none) : mid.tree = s.tree :=
    (annotateAll_unequipped hfront hnone).trans (load_spec hload).1
  constructor
  · rintro ⟨f, hrun, hunforeseen⟩
    cases hresult : sv.run paths s with
    | mk result last =>
      rw [hresult] at hrun
      obtain rfl : result = .error f := hrun
      cases fails_of_run hresult with
      | loading why hwhy =>
        rcases unforeseen_load_iff.mp ⟨why, hwhy, hunforeseen.spoiled⟩ with
          ⟨f, hfile⟩ | ⟨hfile, text, hread, f, hjson, hmany⟩
        · exact .unlookable f hfile
        · exact .excessive hfile text hread f hjson hmany
      | annotating known start hload _ front path rest hpaths report mid hfront _ _ hcall =>
        exact .tripped known start hload front path rest hpaths report mid hfront
          ((trips_iff hsupply (hsame hload hfront)).mp ⟨f, congrArg Prod.fst hcall, hunforeseen⟩)
      | storing known start hload _ report mid hall why _ hstore =>
        refine .unstored known start hload report mid hall why (congrArg Prod.fst hstore) ?_
        rintro g rfl hmissing
        have hno := hunforeseen.rejection
        simp [isRejection, hmissing] at hno
  · have hloading (hindex : ∃ why, Index.load s.tree sv.index = .error why ∧
        isSpoiledIndex (.index why) = false) :
        Founders (sv.run paths s).1 := by
      obtain ⟨why, hwhy, hspoiled⟩ := hindex
      exact ⟨.index why, by simp only [run, load, hwhy], rfl, rfl, hspoiled⟩
    intro hbreaks
    cases hbreaks with
    | unlookable f hfile => exact hloading (unforeseen_load_iff.mpr (.inl ⟨f, hfile⟩))
    | excessive hfile text hread f hjson hmany =>
      exact hloading (unforeseen_load_iff.mpr (.inr ⟨hfile, text, hread, f, hjson, hmany⟩))
    | tripped known start hload front path rest hpaths report mid hfront htrips =>
      obtain ⟨f, hcall, hunforeseen⟩ := (trips_iff hsupply (hsame hload hfront)).mpr htrips
      have hnot : sv.isCollected f = false := by simp [isCollected, hunforeseen.path]
      have hstop := annotateAll_stops hfront (Prod.ext hcall rfl) hnot rest
      rw [← hpaths] at hstop
      exact ⟨f, by rw [run_stopped hload hstop], hunforeseen⟩
    | unstored known start hload report mid hall why hstore hnot =>
      refine ⟨.unstored why, ?_, rfl, ?_, rfl⟩
      · rw [run_compiled hload hall]
        cases hstored : Index.store mid.tree sv.index
            ((Index.compile sv.settings.prune report.results known).map Prod.snd) with
        | mk done tree =>
          rw [hstored] at hstore
          obtain rfl : done = .error why := hstore
          simp only [compile, store, hstored]
          rfl
      · cases why with
        | encoding f => rfl
        | file f => simpa [isRejection] using hnot f rfl

end Service

end Synopsis
