import Synopsis.Proofs.Completion.Client
import Synopsis.Proofs.Service.Abort
import Synopsis.Proofs.Service.Discovered

namespace Synopsis

namespace Summarizer

variable {z : Summarizer} {c : Client} {reply : Except CompletionError Completion} {text : Text}

theorem isFinite_payload (h : z.temperature.toJson.isFinite = true) (content : Text) :
    (z.request content).payload.isFinite = true := by
  cases htokens : z.maxTokens <;> cases hseed : z.seed <;>
    simp [ChatRequest.payload, request, chatMessage, htokens, hseed, Json.isFinite,
      Json.fieldsAreFinite, Json.fieldIsFinite, Json.areFinite, h]

theorem summaryOf_eq_ok_iff : summaryOf reply = .ok text ↔
    ∃ done, reply = .ok done ∧ text = Text.trim done.content ∧ text ≠ "" := by
  unfold summaryOf
  cases reply with
  | error e => cases e <;> simp
  | ok done =>
    by_cases hempty : Text.trim done.content = ""
    · simp only [hempty, if_true]
      simp [hempty]
    · simp only [hempty, if_false, Except.ok.injEq, exists_eq_left']
      constructor
      · rintro rfl
        exact ⟨rfl, hempty⟩
      · rintro ⟨rfl, -⟩
        rfl

theorem summaryOf_eq_accident_iff {why : WireFault} :
    summaryOf reply = .error (.accident why) ↔ reply = .error (.accident why) := by
  unfold summaryOf
  cases reply with
  | error e => cases e <;> simp
  | ok done =>
    simp only
    split <;> simp

end Summarizer

namespace Service

section

variable {α σ : Type} {sv : Service α σ} {known : Index} {path : Text} {paths : List Text}
  {s s' : Session α σ} {f : Failure} {report : Report}

/-- A path that cannot be read whatever the tree holds. -/
def Nowhere (sv : Service α σ) (path : Text) (f : Failure) : Prop :=
  ∀ t, sv.read t path = .error f

theorem read_fails {t : Tree} (h : sv.read t path = .error f) :
    f.path? = some path ∨ f.path? = none ∧ sv.Nowhere path f := by
  cases hplace : sv.place path with
  | error why =>
    have hread (t : Tree) : sv.read t path = .error (.home why) := by rw [read, hplace]
    obtain rfl : Failure.home why = f := Except.error.inj ((hread t).symm.trans h)
    exact .inr ⟨rfl, hread⟩
  | ok file =>
    by_cases hnamed : ∀ part ∈ file.parts, Nameable part
    · exact .inl (path?_of_read_error hplace hnamed h)
    · obtain ⟨why, hobstacle⟩ := Tree.exists_obstacle?_of_not_nameable hnamed
      have hread (t : Tree) : sv.read t path = .error (.unnameable why) := by
        simp only [read, hplace, Tree.readExact, Tree.readBytes, Tree.look, Tree.locate, hobstacle]
      obtain rfl : Failure.unnameable why = f := Except.error.inj ((hread t).symm.trans h)
      exact .inr ⟨rfl, hread⟩

theorem OfSummarizer.path? (h : sv.OfSummarizer f) : f.path? = none := by
  cases h <;> rfl

/-- A failure of annotating a file names this file, or none. -/
theorem path?_of_annotate (h : (sv.annotate known path s).1 = .error f) (hsome : f.path?.isSome) :
    f.path? = some path := by
  refine Classical.byContradiction fun hother => ?_
  suffices hnone : f.path? = none by simp [hnone] at hsome
  cases hprep : sv.prepare known path s.tree with
  | inl early =>
    obtain ⟨result, notes⟩ := early
    rw [annotate_of_inl hprep] at h
    obtain rfl : result = .error f := h
    exact ((read_fails (read_of_prepare hprep)).resolve_left hother).1
  | inr found =>
    obtain ⟨file, source⟩ := found
    rw [annotate_of_inr hprep] at h
    cases hgen : sv.generate path source s with
    | mk answer asked =>
      rw [hgen] at h
      cases answer with
      | error e =>
        obtain rfl : e = f := Except.error.inj h
        exact ((generate_fails (congrArg Prod.fst hgen)).resolve_left hother).path?
      | ok summary =>
        have hfinish : (sv.finish path file source (told path (.ok summary), asked)).1 =
          .error f := h
        obtain ⟨d, summary, e, rfl, -⟩ :=
          (path?_of_finish_error (by simp) hfinish).resolve_left hother
        rfl

/-- Every failure in a report is told under the path that failed. -/
theorem path?_of_annotateAll (h : sv.annotateAll known paths s = (.ok report, s')) :
    ∀ o ∈ report.failures, o.1 ∈ paths ∧ o.2.path? = some o.1 := by
  induction paths generalizing s report with
  | nil =>
    simp only [annotateAll, Prod.mk.injEq, Except.ok.injEq] at h
    simp [← h.1]
  | cons path r ih =>
    cases hcall : sv.annotate known path s with
    | mk result next =>
      cases result with
      | ok a =>
        rw [annotateAll_ok hcall] at h
        obtain ⟨rest, hrest, rfl⟩ := ok_of_map h
        intro o ho
        exact ⟨List.mem_cons_of_mem _ (ih hrest o ho).1, (ih hrest o ho).2⟩
      | error f =>
        cases hcollected : sv.isCollected f with
        | true =>
          rw [annotateAll_collected hcall hcollected] at h
          obtain ⟨rest, hrest, rfl⟩ := ok_of_map h
          intro o ho
          rcases List.mem_cons.mp ho with rfl | ho
          · simp only [isCollected, Bool.and_eq_true] at hcollected
            exact ⟨List.mem_cons_self,
              path?_of_annotate (congrArg Prod.fst hcall) hcollected.1⟩
          · exact ⟨List.mem_cons_of_mem _ (ih hrest o ho).1, (ih hrest o ho).2⟩
        | false =>
          rw [annotateAll_stopped hcall hcollected] at h
          simp at h

end

section

variable {path : Text} {answer : Except OracleFault Text}

theorem told_eq_accident_iff {why : WireFault} :
    told path answer = .error (.accident why) ↔ answer = .error (.accident why) := by
  cases answer with
  | ok text => simp [told]
  | error f => cases f <;> simp [told]

/-- What asking for the summary of a file comes to, given the exchange that settles it. -/
structure Summarizes (path : Text) (settling : Exchange) (result : Except Failure Text) :
    Prop where
  summary (text : Text) : result = .ok text → text ≠ "" ∧ Text.trim text = text ∧
    ∃ done, settling.completion = .ok done ∧ text = Text.trim done.content
  failed (f : Failure) : settling.Legible → result = .error f → ∃ why, f = .unanswered path why
  lost : (∃ why, result = .error (.accident why)) ↔ ¬ settling.Legible

theorem summarizes_completion (path : Text) (e : Exchange) :
    Summarizes path e (told path (Summarizer.summaryOf e.completion)) where
  summary text h := by
    obtain ⟨done, hdone, rfl, hne⟩ := Summarizer.summaryOf_eq_ok_iff.mp (told_eq_ok_iff.mp h)
    exact ⟨hne, Text.trim_trim _, done, hdone, rfl⟩
  failed f hlegible h := by
    rcases told_cases h with hwhy | ⟨why, hwhy⟩
    · exact hwhy
    · exact absurd hlegible
        (e.accident_iff.mp ⟨why, Summarizer.summaryOf_eq_accident_iff.mp hwhy⟩)
  lost := by
    rw [← e.accident_iff]
    simp only [told_eq_accident_iff, Summarizer.summaryOf_eq_accident_iff]

end

variable {sv : Service (Summarizer × Client) Wire} {host : Host} {known : Index} {path : Text}
  {paths : List Text} {file : Path} {source : Source}
  {s now : Session (Summarizer × Client) Wire} {z : Summarizer} {c : Client}
  {key base : Text} {referer title : Option Text} {maxRetries : Int} {x : Float}

/-- A client that is built from the environment is created like any other. -/
theorem create_of_build {settings : Settings} {t : Tree} {w w' : Wire}
    (h : (Supply.online host).build settings t w = (.ok (z, c), w')) :
    z.temperature = settings.temperature ∧ w' = w ∧
      ∃ key base title, Client.create key base none title 3 = .ok c := by
  simp only [Supply.online] at h
  split at h
  · simp at h
  · split at h
    · simp at h
    · rename_i prompt _
      cases hclient : Client.ofHost host t with
      | error f => simp [hclient] at h
      | ok made =>
        simp only [hclient, Prod.mk.injEq, Except.ok.injEq] at h
        obtain ⟨⟨rfl, rfl⟩, rfl⟩ := h
        refine ⟨rfl, rfl, ?_⟩
        unfold Client.ofHost at hclient
        split at hclient
        · simp at hclient
        · simp at hclient
        · exact ⟨_, _, _, Tree.mapError_eq_ok_iff.mp hclient⟩

theorem summon_outside (hsupply : sv.supply = Supply.online host)
    (now : Session (Summarizer × Client) Wire) : (sv.summon now).2.outside = now.outside := by
  unfold summon
  cases now.holding with
  | lent a => rfl
  | own a => rfl
  | none =>
    have hbuild :
        ((Supply.online host).build sv.settings now.tree now.outside).2 = now.outside := by
      simp only [Supply.online]
      split
      · rfl
      · split
        · rfl
        · split <;> rfl
    rw [hsupply]
    rcases hmade : (Supply.online host).build sv.settings now.tree now.outside with
      ⟨f | a, outside⟩ <;> rw [hmade] at hbuild <;> exact hbuild

/-- Asking takes as many exchanges as the client does, and changes nothing else. -/
theorem asking_spec (hsupply : sv.supply = Supply.online host)
    (hcreate : Client.create key base referer title maxRetries = .ok c)
    (hfinite : z.temperature.toJson.isFinite = true) (hjitter : now.outside.jitter = .real x)
    (path : Text) (source : Source) : ∃ k pauses,
      c.Completes (z.request source.content) now.outside k pauses ∧
      Summarizes path (c.outcome now.outside k)
        (told path (sv.supply.ask (z, c) path source.content now.outside).1.outcome) ∧
      (sv.asking (z, c) path source now).tree = now.tree ∧
      (sv.asking (z, c) path source now).holding = now.holding ∧
      (sv.asking (z, c) path source now).outside =
        { now.outside with sent := now.outside.sent + (k + 1) } := by
  obtain ⟨-, k, pauses, hcompletes⟩ := Client.complete_spec hcreate
    (Summarizer.isFinite_payload hfinite source.content) hjitter
  refine ⟨k, pauses, hcompletes, ?_, rfl, rfl, ?_⟩
  · have hanswer : (sv.supply.ask (z, c) path source.content now.outside).1.outcome =
        Summarizer.summaryOf (c.outcome now.outside k).completion := by
      rw [hsupply, ← hcompletes.alone]
      rfl
    rw [hanswer]
    exact summarizes_completion path _
  · rw [← hcompletes.wire, asking, hsupply]
    rfl

/-- A service all of whose answers can be made out, and hold no halves of characters. -/
structure Clear (c : Client) (exchange : Nat → Exchange) : Prop where
  legible (n : Nat) : (c.receive (exchange n)).Legible
  whole (n : Nat) (done : Completion) : (c.receive (exchange n)).completion = .ok done →
    Text.Encoding.utf8.fault? done.content = none

/-- What does not change in the course of a batch. -/
structure Steady (a : Summarizer × Client) (s now : Session (Summarizer × Client) Wire) : Prop where
  equipped : Equipped a s now
  exchange : now.outside.exchange = s.outside.exchange
  jitter : now.outside.jitter = s.outside.jitter

theorem Steady.record {a : Summarizer × Client} (h : Steady a s now) (events : List Event) :
    Steady a s (now.record events) :=
  ⟨h.equipped, h.exchange, h.jitter⟩

/-- A clear service gives a summary that can be written, or a failure of the file that was asked
about. -/
theorem asking_steady (hsupply : sv.supply = Supply.online host)
    (hcreate : Client.create key base referer title maxRetries = .ok c)
    (hfinite : z.temperature.toJson.isFinite = true) (hjitter : s.outside.jitter = .real x)
    (hclear : Clear c s.outside.exchange) (h : Steady (z, c) s now)
    (hgives : now.holding.summarizer? = some (z, c)) (path : Text) (source : Source) :
    let answer := told path (sv.supply.ask (z, c) path source.content now.outside).1.outcome
    let asked := sv.asking (z, c) path source now
    Steady (z, c) s asked ∧ asked.holding.summarizer? = some (z, c) ∧ asked.tree = now.tree ∧
      (∀ f, answer = .error f → f.path? = some path) ∧
      ∀ summary, answer = .ok summary → Text.Encoding.utf8.fault? summary = none := by
  obtain ⟨k, pauses, -, hsummarizes, htree, hholding, houtside⟩ :=
    asking_spec hsupply hcreate hfinite (h.jitter.trans hjitter) path source
  have houtcome : c.outcome now.outside k =
      c.receive (s.outside.exchange (now.outside.sent + k)) := by
    rw [Client.outcome, h.exchange]
  refine ⟨⟨.inl (hholding ▸ hgives), ?_, ?_⟩, hholding ▸ hgives, htree,
    fun f hf => ?_, fun summary hsummary => ?_⟩
  · rw [houtside]
    exact h.exchange
  · rw [houtside]
    exact h.jitter
  · obtain ⟨why, rfl⟩ := hsummarizes.failed f (houtcome ▸ hclear.legible _) hf
    rfl
  · obtain ⟨-, -, done, hdone, rfl⟩ := hsummarizes.summary summary hsummary
    rw [houtcome] at hdone
    rw [Text.Encoding.fault?_eq_none_iff]
    intro ch hch
    exact Text.Encoding.fault?_eq_none_iff.mp (hclear.whole _ done hdone) ch
      (Text.mem_of_mem_trim hch)

/-- Nor does the writing of such a summary fail from anything but the file. -/
theorem finish_steady {a : Summarizer × Client} {answer : Except Failure Text} {raw : Text}
    (h : Steady a s now) (hgives : now.holding.summarizer? = some a)
    (hraw : now.tree.readExact file = .ok raw)
    (hpath : ∀ f, answer = .error f → f.path? = some path)
    (hholds : ∀ summary, answer = .ok summary → Text.Encoding.utf8.fault? summary = none) :
    Steady a s (sv.finish path file (.ofText raw) (answer, now)).2 ∧
      ∀ f, (sv.finish path file (.ofText raw) (answer, now)).1 = .error f →
        f.path? = some path := by
  cases answer with
  | error f =>
    refine ⟨h, fun f' hf' => ?_⟩
    obtain rfl : f = f' := Except.error.inj hf'
    exact hpath f rfl
  | ok summary =>
    simp only [finish]
    cases hin : sv.embedding? path with
    | none =>
      refine ⟨h.record _, fun f hf => ?_⟩
      cases hf
    | some d =>
      have htext := Source.fault?_text_of_annotate (ofExtension?_of_embedding? hin)
        (Tree.fault?_of_readExact hraw) (hholds summary rfl)
      have hwritten : Steady a s
          (write path file ((Source.ofText raw).annotate d summary) now).2 := by
        rw [write_eq]
        exact ⟨.inl hgives, h.exchange, h.jitter⟩
      simp only
      cases hwrite : write path file ((Source.ofText raw).annotate d summary) now with
      | mk result last =>
        rw [hwrite] at hwritten
        cases result with
        | ok _ =>
          refine ⟨hwritten.record _, fun f hf => ?_⟩
          cases hf
        | error f =>
          refine ⟨hwritten, fun f' hf' => ?_⟩
          obtain rfl : f = f' := Except.error.inj hf'
          rcases write_fails (congrArg Prod.fst hwrite) with hown | ⟨e, -, hfault⟩
          · exact hown
          · rw [htext] at hfault
            cases hfault

theorem annotate_steady (hsupply : sv.supply = Supply.online host)
    (hbuild : (sv.summon s).1 = .ok (z, c))
    (hcreate : Client.create key base referer title maxRetries = .ok c)
    (hfinite : z.temperature.toJson.isFinite = true) (hjitter : s.outside.jitter = .real x)
    (hclear : Clear c s.outside.exchange) (h : Steady (z, c) s now) (known : Index)
    (path : Text) : Steady (z, c) s (sv.annotate known path now).2 ∧
      ∀ f, (sv.annotate known path now).1 = .error f →
        f.path? = some path ∨ f.path? = none ∧ sv.Nowhere path f := by
  cases hprep : sv.prepare known path now.tree with
  | inl early =>
    obtain ⟨result, notes⟩ := early
    rw [annotate_of_inl hprep]
    refine ⟨h.record _, fun f hf => ?_⟩
    obtain rfl : result = .error f := hf
    exact read_fails (read_of_prepare hprep)
  | inr found =>
    obtain ⟨file, source⟩ := found
    obtain ⟨-, -, hread, -⟩ := prepare_eq_inr_iff.mp hprep
    obtain ⟨-, raw, hraw, rfl⟩ := read_eq_ok_iff.mp hread
    obtain ⟨here, hsummon, hgives, htree⟩ := summon_of_equipped hbuild h.equipped
    have houtside : here.outside = now.outside := by
      rw [← summon_outside hsupply now, hsummon]
    have hhere : Steady (z, c) s here :=
      ⟨.inl hgives, houtside ▸ h.exchange, houtside ▸ h.jitter⟩
    obtain ⟨hasked, hgives', htree', hpath, hholds⟩ :=
      asking_steady hsupply hcreate hfinite hjitter hclear hhere hgives path (.ofText raw)
    rw [annotate_of_inr hprep, generate_of_summon hsummon]
    have hraw' : (sv.asking (z, c) path (.ofText raw) here).tree.readExact file = .ok raw := by
      rw [htree', htree]
      exact hraw
    obtain ⟨hlast, hfails⟩ := finish_steady hasked hgives' hraw' hpath hholds
    exact ⟨hlast, fun f hf => .inl (hfails f hf)⟩

theorem annotateAll_steady (hsupply : sv.supply = Supply.online host)
    (hbuild : (sv.summon s).1 = .ok (z, c))
    (hcreate : Client.create key base referer title maxRetries = .ok c)
    (hfinite : z.temperature.toJson.isFinite = true) (hjitter : s.outside.jitter = .real x)
    (hclear : Clear c s.outside.exchange) (hfast : sv.settings.failFast = false) {f : Failure}
    {s' : Session (Summarizer × Client) Wire}
    (h : sv.annotateAll known paths s = (.error f, s')) : ∃ p ∈ paths, sv.Nowhere p f := by
  have hstep {now : Session (Summarizer × Client) Wire} (hnow : Steady (z, c) s now)
      (path : Text) := annotate_steady hsupply hbuild hcreate hfinite hjitter hclear hnow known path
  obtain ⟨front, path, r, report, mid, rfl, hfront, hcall, hstopped⟩ := annotateAll_error h
  have hmid : Steady (z, c) s (sv.annotateAll known front s).2 := by
    apply annotateAll_induction (Steady (z, c) s) (fun now n hnow => hnow.record [.noted n]) _
      (fun path _ now hnow => (hstep hnow path).1)
    exact ⟨.refl _ s, rfl, rfl⟩
  rw [hfront] at hmid
  rw [isCollected_eq hfast] at hstopped
  refine ⟨path, by simp, ?_⟩
  rcases (hstep hmid path).2 f (congrArg Prod.fst hcall) with hpath | ⟨-, hnowhere⟩
  · simp [hpath] at hstopped
  · exact hnowhere

/-- What a summarizer over a completion service answers is a summary, or a failure of the file that
it was asked about, and such answers do not stop a batch. -/
theorem online_spec (hsupply : sv.supply = Supply.online host)
    (hbuild : (sv.summon s).1 = .ok (z, c))
    (hcreate : Client.create key base referer title maxRetries = .ok c)
    (hfinite : z.temperature.toJson.isFinite = true) (hjitter : s.outside.jitter = .real x) :
    (∀ path source, ∃ k pauses, c.Completes (z.request source.content) s.outside k pauses ∧
      Summarizes path (c.outcome s.outside k) (sv.generate path source s).1) ∧
    (Clear c s.outside.exchange → sv.settings.failFast = false →
      ∀ known paths, (∀ f s', sv.annotateAll known paths s = (.error f, s') →
        ∃ p ∈ paths, sv.Nowhere p f) ∧
      ∀ report s', sv.annotateAll known paths s = (.ok report, s') →
        ∀ o ∈ report.failures, o.1 ∈ paths ∧ o.2.path? = some o.1) := by
  constructor
  · intro path source
    cases hs : sv.summon s with
    | mk found here =>
      rw [hs] at hbuild
      obtain rfl : found = .ok (z, c) := hbuild
      have houtside : here.outside = s.outside := by rw [← summon_outside hsupply s, hs]
      obtain ⟨k, pauses, hcompletes, hsummarizes, -⟩ :=
        asking_spec hsupply hcreate hfinite (houtside ▸ hjitter) path source
      rw [houtside] at hcompletes hsummarizes
      refine ⟨k, pauses, hcompletes, ?_⟩
      rw [generate_of_summon hs, houtside]
      exact hsummarizes
  · intro hclear hfast known paths
    exact ⟨fun f s' h => annotateAll_steady hsupply hbuild hcreate hfinite hjitter hclear hfast h,
      fun report s' => path?_of_annotateAll⟩

/-- A service whose key is in the environment. -/
def online : Service (Summarizer × Client) Wire where
  host := { (always "").host with apiKey := some "k" }
  settings := .standard
  index := ⟨.root, ["i.json"]⟩
  supply := Supply.online { (always "").host with apiKey := some "k" }

/-- A folder with one file and a prompt, and a service that always answers alike. -/
def served (e : Exchange) : Session (Summarizer × Client) Wire :=
  ⟨(folder [("a.ts", "x"),
      ("default.md", Text.intercalate ", " Prompt.requiredSections)]).tree, .none,
    Client.answering e, []⟩

/-- A service that is never reached: its failure to answer is that of the file, and stops no batch.
-/
theorem online_spec_unreachable :
    let s := served (.fault false)
    ∃ z c key base title, (online.summon s).1 = .ok (z, c) ∧
      Client.create key base none title 3 = .ok c ∧ z.temperature.toJson.isFinite = true ∧
      Clear c s.outside.exchange ∧ online.settings.failFast = false ∧
      (∃ k, Summarizes "a.ts" (c.outcome s.outside k)
        (online.generate "a.ts" (.ofText "x") s).1) ∧
      ∀ f s', online.annotateAll [] ["a.ts"] s = (.error f, s') →
        ∃ p ∈ (["a.ts"] : List Text), online.Nowhere p f := by
  intro s
  have hmade : ((online.supply.build online.settings s.tree s.outside).1.toOption).isSome =
      true := by decide +kernel
  have hzero : online.settings.temperature.toJson.isFinite = true := by decide +kernel
  rcases hbuild : online.supply.build online.settings s.tree s.outside with ⟨f | ⟨z, c⟩, w⟩
  · simp [hbuild, Except.toOption] at hmade
  · have hsummon : (online.summon s).1 = .ok (z, c) := by
      have hnone : s.holding = .none := rfl
      simp only [summon, hnone, hbuild]
    have hsupply : online.supply = Supply.online online.host := by simp only [online]
    rw [hsupply] at hbuild
    obtain ⟨htemperature, -, key, base, title, hcreate⟩ := create_of_build hbuild
    have hfinite : z.temperature.toJson.isFinite = true := htemperature ▸ hzero
    have hclear : Clear c s.outside.exchange := ⟨fun _ => trivial, fun _ done h => by cases h⟩
    have hjitter : s.outside.jitter = .real 1.0 := rfl
    obtain ⟨hask, hbatch⟩ := online_spec hsupply hsummon hcreate hfinite hjitter
    obtain ⟨k, pauses, -, hsummarizes⟩ := hask "a.ts" (.ofText "x")
    exact ⟨z, c, key, base, title, hsummon, hcreate, hfinite, hclear, rfl,
      ⟨k, hsummarizes⟩, (hbatch hclear rfl [] ["a.ts"]).1⟩

/-- A service whose words cannot be made out. It stops the batch, and no path is named. -/
theorem stopped_of_online : online.settings.failFast = false ∧
    failure? (online.annotateAll [] ["a.ts", "b.txt"] (served (.response Client.unmarked))).1 =
      some (.accident (.charset (.noMark 16))) :=
  ⟨rfl, by decide +kernel⟩

end Service

end Synopsis
