import Synopsis.Proofs.Service.Abort
import Synopsis.Proofs.Service.Session

namespace Synopsis

/-- What happens to a summarizer. -/
inductive Turn where
  | built
  | closed
  deriving DecidableEq

def Event.turn? : Event → Option Turn
  | .built => some .built
  | .closed => some .closed
  | _ => none

def turnsOf (events : List Event) : List Turn := events.filterMap Event.turn?

/-- What has happened to summarizers so far. -/
def Session.turns {α σ : Type} (s : Session α σ) : List Turn := turnsOf s.events

/-- No answer builds or closes a summarizer. -/
def Supply.Quiet {α σ : Type} (supply : Supply α σ) : Prop :=
  ∀ a path content outside, turnsOf (supply.ask a path content outside).1.events = []

/-- What is still to be closed. -/
def Holding.due {α : Type} : Holding α → List Turn
  | .own _ => [.built]
  | _ => []

theorem turnsOf_append (first second : List Event) :
    turnsOf (first ++ second) = turnsOf first ++ turnsOf second :=
  List.filterMap_append

/-- Of the summarizers that were built at most one is not closed, at every moment. -/
def Balanced (turns : List Turn) : Prop :=
  turns.count .closed ≤ turns.count .built ∧ turns.count .built ≤ turns.count .closed + 1

theorem balanced_of_prefix {n : Nat} {turns rest : List Turn} (hrest : rest = [] ∨ rest = [.built])
    (hpre : turns <+: (List.replicate n [Turn.built, .closed]).flatten ++ rest) :
    Balanced turns := by
  induction n generalizing turns with
  | zero =>
    have hturns : turns = [] ∨ turns = [.built] := by
      rw [List.replicate_zero, List.flatten_nil, List.nil_append] at hpre
      rcases hrest with rfl | rfl
      · exact .inl (List.prefix_nil.mp hpre)
      · cases turns with
        | nil => exact .inl rfl
        | cons turn r =>
          obtain ⟨rfl, hr⟩ := List.cons_prefix_cons.mp hpre
          exact .inr (by rw [List.prefix_nil.mp hr])
    rcases hturns with rfl | rfl <;> simp [Balanced]
  | succ n ih =>
    have hstart : (List.replicate (n + 1) [Turn.built, .closed]).flatten ++ rest =
        .built :: .closed :: ((List.replicate n [Turn.built, .closed]).flatten ++ rest) := by
      simp [List.replicate_succ]
    rw [hstart] at hpre
    cases turns with
    | nil => simp [Balanced]
    | cons first r =>
      obtain ⟨rfl, hr⟩ := List.cons_prefix_cons.mp hpre
      cases r with
      | nil => simp [Balanced]
      | cons second later =>
        obtain ⟨rfl, hlater⟩ := List.cons_prefix_cons.mp hr
        have hbalanced := ih hlater
        simpa [Balanced] using hbalanced

section

variable {α σ : Type} {s s' s'' : Session α σ}

/-- Summarizers were built and closed in turn, and the last one is in hand if it is not closed. -/
def Session.Owned (s : Session α σ) : Prop :=
  ∃ n, s.turns = (List.replicate n [Turn.built, .closed]).flatten ++ s.holding.due

theorem Session.turns_record (s : Session α σ) (events : List Event) :
    (s.record events).turns = s.turns ++ turnsOf events :=
  turnsOf_append s.events events

theorem Session.Tells.turns (h : s.Tells s') : s'.turns = s.turns := by
  obtain ⟨events, rfl, htold⟩ := h
  have hnone : turnsOf events = [] := by
    apply List.filterMap_eq_nil_iff.mpr
    intro e he
    have hone := htold e he
    cases e <;> first | rfl | simp [Event.isTold] at hone
  rw [turns_record, hnone, List.append_nil]

/-- One session goes on from another with the summarizer that it had, if it had one. -/
structure Session.Keeps (s s' : Session α σ) : Prop where
  holding : s'.holding = s.holding
  turns : s'.turns = s.turns

/-- One session goes on from another with the summarizer that it had, or with one that was built
where there was none. -/
def Session.Equips (s s' : Session α σ) : Prop :=
  s.Keeps s' ∨ s.holding = .none ∧ (∃ a, s'.holding = .own a) ∧ s'.turns = s.turns ++ [.built]

namespace Session.Keeps

theorem refl (s : Session α σ) : s.Keeps s := ⟨rfl, rfl⟩

theorem trans (h : s.Keeps s') (h' : s'.Keeps s'') : s.Keeps s'' :=
  ⟨h'.holding.trans h.holding, h'.turns.trans h.turns⟩

theorem of_tells (h : s.Tells s') : s.Keeps s' := ⟨h.holding, h.turns⟩

end Session.Keeps

namespace Session.Equips

theorem refl (s : Session α σ) : s.Equips s := .inl (.refl s)

theorem trans (h : s.Equips s') (h' : s'.Equips s'') : s.Equips s'' := by
  rcases h with ⟨hhold, hturns⟩ | ⟨hnone, ⟨a, hown⟩, hturns⟩
  · rcases h' with hkeeps | ⟨hnone', hown', hturns'⟩
    · exact .inl (.trans ⟨hhold, hturns⟩ hkeeps)
    · exact .inr ⟨hhold ▸ hnone', hown', by rw [hturns', hturns]⟩
  · rcases h' with ⟨hhold', hturns'⟩ | ⟨hnone', -, -⟩
    · exact .inr ⟨hnone, ⟨a, hhold'.trans hown⟩, hturns'.trans hturns⟩
    · rw [hown] at hnone'
      cases hnone'

theorem of_tells (h : s.Tells s') : s.Equips s' := .inl (.of_tells h)

/-- No summarizer is built where one is in hand. -/
theorem keeps (h : s.Equips s') (hhold : s.holding ≠ .none) : s.Keeps s' :=
  h.resolve_right fun hbuilt => hhold hbuilt.1

theorem owned (h : s.Equips s') (howned : s.Owned) : s'.Owned := by
  obtain ⟨n, hn⟩ := howned
  rcases h with ⟨hhold, hturns⟩ | ⟨hnone, ⟨a, hown⟩, hturns⟩
  · exact ⟨n, by rw [hturns, hn, hhold]⟩
  · rw [hnone] at hn
    exact ⟨n, by simp [hturns, hn, hown, Holding.due]⟩

end Session.Equips

/-- What is closed has been built. -/
theorem Session.Owned.close (h : s.Owned) : s.close.Owned ∧ s.close.holding.due = [] := by
  obtain ⟨n, hn⟩ := h
  unfold Session.close
  cases hhold : s.holding with
  | own a =>
    refine ⟨⟨n + 1, ?_⟩, rfl⟩
    rw [hhold] at hn
    have hclosed : ({ s.record [.closed] with holding := .none } : Session α σ).turns =
        s.turns ++ [.closed] := turns_record s [.closed]
    rw [hclosed, hn, List.replicate_succ', List.flatten_append]
    simp [Holding.due]
  | none => exact ⟨⟨n, hn⟩, by rw [hhold]; rfl⟩
  | lent a => exact ⟨⟨n, hn⟩, by rw [hhold]; rfl⟩

end

namespace Service

variable {α σ : Type} {sv : Service α σ} {known : Index} {path : Text} {paths : List Text}
  {file : Path} {source : Source} {s s' : Session α σ}

theorem summon_equips (sv : Service α σ) (s : Session α σ) : s.Equips (sv.summon s).2 := by
  unfold summon
  cases hhold : s.holding with
  | lent a => exact .refl s
  | own a => exact .refl s
  | none =>
    simp only
    rcases sv.supply.build sv.settings s.tree s.outside with ⟨f | a, outside⟩
    · exact .inl ⟨hhold.symm, rfl⟩
    · exact .inr ⟨hhold, ⟨a, rfl⟩, s.turns_record [.built]⟩

theorem asking_keeps (hquiet : sv.supply.Quiet) (a : α) (path : Text) (source : Source)
    (s : Session α σ) : s.Keeps (sv.asking a path source s) := by
  have hasked : turnsOf (.asked path source.content ::
      (sv.supply.ask a path source.content s.outside).1.events) = [] :=
    hquiet a path source.content s.outside
  have hturns := s.turns_record (.asked path source.content ::
    (sv.supply.ask a path source.content s.outside).1.events)
  rw [hasked, List.append_nil] at hturns
  exact ⟨rfl, hturns⟩

theorem generate_equips (hquiet : sv.supply.Quiet) (path : Text) (source : Source)
    (s : Session α σ) : s.Equips (sv.generate path source s).2 := by
  have hsummon := summon_equips sv s
  cases hs : sv.summon s with
  | mk found next =>
    rw [hs] at hsummon
    cases found with
    | error f =>
      rw [generate_of_unbuilt hs]
      exact hsummon
    | ok a =>
      rw [generate_of_summon hs]
      exact hsummon.trans (.inl (asking_keeps hquiet a path source next))

theorem write_keeps (path : Text) (file : Path) (source : Source) (s : Session α σ) :
    s.Keeps (write path file source s).2 := by
  unfold write
  rcases s.tree.replaceText file source.text with ⟨(f | f) | _, tree⟩ <;> exact ⟨rfl, rfl⟩

theorem note_keeps (s : Session α σ) (n : Note) : s.Keeps (s.note n) := .of_tells (.note s n)

theorem note_equips (s : Session α σ) (n : Note) : s.Equips (s.note n) := .inl (note_keeps s n)

theorem finish_keeps (sv : Service α σ) (path : Text) (file : Path) (source : Source)
    (answered : Except Failure Text × Session α σ) :
    answered.2.Keeps (sv.finish path file source answered).2 := by
  obtain ⟨f | summary, asked⟩ := answered
  · exact .refl asked
  · unfold finish
    cases sv.embedding? path with
    | none => exact note_keeps asked _
    | some d =>
      have hwritten := write_keeps path file (source.annotate d summary) asked
      simp only
      cases hwrite : write path file (source.annotate d summary) asked with
      | mk done last =>
        rw [hwrite] at hwritten
        cases done with
        | error f => exact hwritten
        | ok _ => exact hwritten.trans (note_keeps last _)

theorem annotate_equips (hquiet : sv.supply.Quiet) (known : Index) (path : Text)
    (s : Session α σ) : s.Equips (sv.annotate known path s).2 := by
  cases hprep : sv.prepare known path s.tree with
  | inl early =>
    rw [annotate_of_inl hprep]
    exact .of_tells (.notes s _)
  | inr found =>
    obtain ⟨file, source⟩ := found
    rw [annotate_of_inr hprep]
    exact (generate_equips hquiet path source s).trans (.inl (finish_keeps sv path file source _))

theorem strip_keeps (sv : Service α σ) (path : Text) (s : Session α σ) :
    s.Keeps (sv.strip path s).2 := by
  unfold strip
  cases Dialect.ofExtension? (Path.extension path) with
  | none => exact .refl s
  | some d =>
    simp only
    cases sv.read s.tree path with
    | error f => exact .refl s
    | ok found =>
      obtain ⟨file, source⟩ := found
      simp only
      cases source.strip? d with
      | none => exact .refl s
      | some stripped =>
        have hwritten := write_keeps path file stripped s
        simp only
        cases hwrite : write path file stripped s with
        | mk done last =>
          rw [hwrite] at hwritten
          cases done with
          | error f => exact hwritten
          | ok _ => exact hwritten.trans (note_keeps last _)

theorem annotateAll_equips (hquiet : sv.supply.Quiet) (known : Index) (paths : List Text)
    (s : Session α σ) : s.Equips (sv.annotateAll known paths s).2 :=
  annotateAll_induction s.Equips (fun now n hequips => hequips.trans (note_equips now n))
    paths (fun path _ now hequips => hequips.trans (annotate_equips hquiet known path now))
    (.refl s)

theorem store_keeps (sv : Service α σ) (entries : List Entry) (s : Session α σ) :
    s.Keeps (sv.store entries s).2 := by
  unfold store
  cases Index.store s.tree sv.index entries with
  | mk done tree =>
    have hstored : s.Keeps { s with tree } := ⟨rfl, rfl⟩
    cases done with
    | error f => exact hstored
    | ok _ => exact hstored.trans (note_keeps _ _)

theorem compile_keeps (sv : Service α σ) (results : List Annotation) (former : Index)
    (s : Session α σ) : s.Keeps (sv.compile results former s).2 := by
  have hstored := store_keeps sv
    ((Index.compile sv.settings.prune results former).map Prod.snd) s
  unfold compile
  simp only
  cases hstore : sv.store ((Index.compile sv.settings.prune results former).map Prod.snd) s with
  | mk done last =>
    rw [hstore] at hstored
    cases done with
    | error f => exact hstored
    | ok _ => exact hstored.trans (note_keeps last _)

theorem run_equips (hquiet : sv.supply.Quiet) (paths : List Text) (s : Session α σ) :
    s.Equips (sv.run paths s).2 := by
  have hstart := Session.Equips.of_tells (load_tells sv s)
  cases hload : sv.load s with
  | mk loaded start =>
    rw [hload] at hstart
    cases loaded with
    | error f =>
      simp only [run, hload]
      exact hstart
    | ok known =>
      have hbatch := hstart.trans (annotateAll_equips hquiet known paths start)
      cases hall : sv.annotateAll known paths start with
      | mk result mid =>
        rw [hall] at hbatch
        cases result with
        | error f =>
          rw [run_stopped hload hall]
          exact hbatch
        | ok report =>
          rw [run_compiled hload hall]
          exact hbatch.trans (.inl (compile_keeps sv report.results known mid))

/-- A call on a service. -/
inductive Job where
  | annotate (known : Index) (path : Text)
  | annotateAll (known : Index) (paths : List Text)
  | run (paths : List Text)
  | close

/-- What a call comes to. -/
inductive Result where
  | single (result : Except Failure Annotation)
  | batch (result : Except Failure Report)
  | closed

def handle (sv : Service α σ) (s : Session α σ) : Job → Result × Session α σ
  | .annotate known path => ((sv.annotate known path s).map .single id)
  | .annotateAll known paths => ((sv.annotateAll known paths s).map .batch id)
  | .run paths => ((sv.run paths s).map .batch id)
  | .close => (.closed, s.close)

/-- The session after a call, whatever comes of it. -/
def after (sv : Service α σ) (s : Session α σ) (job : Job) : Session α σ := (sv.handle s job).2

/-- A call equips the service, or gives up what it has. -/
theorem after_cases (hquiet : sv.supply.Quiet) (s : Session α σ) (job : Job) :
    s.Equips (sv.after s job) ∨ sv.after s job = s.close := by
  cases job with
  | annotate known path => exact .inl (annotate_equips hquiet known path s)
  | annotateAll known paths => exact .inl (annotateAll_equips hquiet known paths s)
  | run paths => exact .inl (run_equips hquiet paths s)
  | close => exact .inr rfl

theorem owned_after (hquiet : sv.supply.Quiet) (h : s.Owned) (job : Job) :
    (sv.after s job).Owned := by
  rcases after_cases hquiet s job with hequips | hclose
  · exact hequips.owned h
  · rw [hclose]
    exact h.close.1

/-- A summarizer that was lent stays in hand. -/
theorem keeps_after {a : α} (hquiet : sv.supply.Quiet) (hlent : s.holding = .lent a) (job : Job) :
    s.Keeps (sv.after s job) := by
  rcases after_cases hquiet s job with hequips | hclose
  · exact hequips.keeps (by simp [hlent])
  · have hsame : s.close = s := by rw [Session.close, hlent]
    rw [hclose, hsame]
    exact .refl s

/-- The same service with another way to build summarizers. -/
def building (sv : Service α σ) (build : Settings → Tree → σ → Except BuildFault α × σ) :
    Service α σ :=
  { sv with supply := { sv.supply with build } }

/-- An annotation that has to generate a summary when no summarizer is in hand. -/
structure Requires (sv : Service α σ) (known : Index) (path : Text) (s : Session α σ) : Prop where
  holding : s.holding = .none
  supported : sv.isSupported path = true
  unknown : sv.reusable? known path = none
  unread : ∃ file source, sv.read s.tree path = .ok (file, source) ∧
    sv.embedded? path source = none

/-- The annotations that a batch makes, each with the session that it is made in. -/
inductive Visits (sv : Service α σ) (known : Index) :
    List Text → Session α σ → Text → Session α σ → Prop where
  | head (path : Text) (r : List Text) (s : Session α σ) :
    Visits sv known (path :: r) s path s
  | next {path other : Text} {r : List Text} {s s' here : Session α σ} {a : Annotation}
    (hcall : sv.annotate known path s = (.ok a, s')) (hrest : Visits sv known r s' other here) :
    Visits sv known (path :: r) s other here
  | collected {path other : Text} {r : List Text} {s s' here : Session α σ} {f : Failure}
    (hcall : sv.annotate known path s = (.error f, s')) (hf : sv.isCollected f = true)
    (hrest : Visits sv known r (s'.note (.failed path f.message)) other here) :
    Visits sv known (path :: r) s other here

/-- The annotations that a call makes. -/
inductive Makes (sv : Service α σ) (s : Session α σ) :
    Job → Index → Text → Session α σ → Prop where
  | annotate (known : Index) (path : Text) : Makes sv s (.annotate known path) known path s
  | annotateAll {known : Index} {paths : List Text} {path : Text} {here : Session α σ}
    (hvisits : Visits sv known paths s path here) :
    Makes sv s (.annotateAll known paths) known path here
  | run {known : Index} {paths : List Text} {path : Text} {start here : Session α σ}
    (hload : sv.load s = (.ok known, start)) (hvisits : Visits sv known paths start path here) :
    Makes sv s (.run paths) known path here

variable (build : Settings → Tree → σ → Except BuildFault α × σ)

theorem generate_building (h : s.holding ≠ .none) (path : Text) (source : Source) :
    (sv.building build).generate path source s = sv.generate path source s := by
  have hsummon : (sv.building build).summon s = sv.summon s := by
    unfold summon
    cases hhold : s.holding with
    | none => exact absurd hhold h
    | own a => rfl
    | lent a => rfl
  unfold generate
  rw [hsummon]
  rfl

theorem annotate_building (h : ¬ sv.Requires known path s) :
    (sv.building build).annotate known path s = sv.annotate known path s := by
  have hprepared : (sv.building build).prepare known path s.tree =
    sv.prepare known path s.tree := rfl
  cases hprep : sv.prepare known path s.tree with
  | inl early => rw [annotate_of_inl hprep, annotate_of_inl (hprepared.trans hprep)]
  | inr found =>
    obtain ⟨file, source⟩ := found
    obtain ⟨hyes, hknown, hread, hfound⟩ := prepare_eq_inr_iff.mp hprep
    have hhold : s.holding ≠ .none :=
      fun hnone => h ⟨hnone, hyes, hknown, file, source, hread, hfound⟩
    rw [annotate_of_inr hprep, annotate_of_inr (hprepared.trans hprep),
      generate_building build hhold]
    rfl

theorem annotateAll_building
    (h : ∀ path here, Visits sv known paths s path here → ¬ sv.Requires known path here) :
    (sv.building build).annotateAll known paths s = sv.annotateAll known paths s := by
  induction paths generalizing s with
  | nil => rfl
  | cons path r ih =>
    have hone := annotate_building build (h path s (.head path r s))
    cases hcall : sv.annotate known path s with
    | mk result next =>
      rw [hcall] at hone
      cases result with
      | ok a =>
        have hrest := ih fun other here hvisits => h other here (.next hcall hvisits)
        rw [annotateAll_ok hone, annotateAll_ok hcall, hrest]
      | error f =>
        cases hcollected : sv.isCollected f with
        | true =>
          have hrest := ih fun other here hvisits =>
            h other here (.collected hcall hcollected hvisits)
          rw [annotateAll_collected hone hcollected, annotateAll_collected hcall hcollected, hrest]
        | false => rw [annotateAll_stopped hone hcollected, annotateAll_stopped hcall hcollected]

theorem run_building
    (h : ∀ known path here, Makes sv s (.run paths) known path here →
      ¬ sv.Requires known path here) :
    (sv.building build).run paths s = sv.run paths s := by
  have hsame : (sv.building build).load s = sv.load s := rfl
  unfold run
  rw [hsame]
  cases hload : sv.load s with
  | mk loaded start =>
    cases loaded with
    | error f => rfl
    | ok known =>
      have hall := annotateAll_building build fun path here hvisits =>
        h known path here (.run hload hvisits)
      simp only [hall]
      rfl

/-- A call that never has to build a summarizer comes to the same with any way to build one. -/
theorem handle_building {job : Job}
    (h : ∀ known path here, Makes sv s job known path here → ¬ sv.Requires known path here) :
    (sv.building build).handle s job = sv.handle s job := by
  cases job with
  | annotate known path =>
    have hone := annotate_building build (h known path s (.annotate known path))
    rw [handle, handle, hone]
  | annotateAll known paths =>
    have hall := annotateAll_building build fun path here hvisits =>
      h known path here (.annotateAll hvisits)
    rw [handle, handle, hall]
  | run paths =>
    have hrun := run_building build h
    rw [handle, handle, hrun]
  | close => rfl

theorem Visits.lent {other : Text} {here : Session α σ} {a : α} (hquiet : sv.supply.Quiet)
    (h : Visits sv known paths s other here) (hlent : s.holding = .lent a) :
    here.holding = .lent a := by
  induction h with
  | head path r s => exact hlent
  | @next path other r s s' here _ hcall _ ih =>
    have hequips := annotate_equips hquiet known path s
    rw [hcall] at hequips
    exact ih ((hequips.keeps (by simp [hlent])).holding.trans hlent)
  | @collected path other r s s' here f hcall _ _ ih =>
    have hequips := annotate_equips hquiet known path s
    rw [hcall] at hequips
    exact ih ((hequips.keeps (by simp [hlent])).holding.trans hlent)

theorem Makes.lent {job : Job} {here : Session α σ} {a : α} (hquiet : sv.supply.Quiet)
    (h : Makes sv s job known path here) (hlent : s.holding = .lent a) :
    here.holding = .lent a := by
  cases h with
  | annotate known path => exact hlent
  | annotateAll hvisits => exact hvisits.lent hquiet hlent
  | run hload hvisits =>
    have hstart := load_tells sv s
    rw [hload] at hstart
    exact hvisits.lent hquiet (hstart.holding.trans hlent)

/-- With a summarizer that was lent none is built, so it does not matter how. -/
theorem handle_building_of_lent {a : α} (hquiet : sv.supply.Quiet) (hlent : s.holding = .lent a)
    (job : Job) : (sv.building build).handle s job = sv.handle s job := by
  apply handle_building
  intro known path here hmakes hrequires
  have hnone := hrequires.holding
  rw [hmakes.lent hquiet hlent] at hnone
  cases hnone

end Service

end Synopsis
