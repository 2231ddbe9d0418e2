import Synopsis.Proofs.Service.Annotate

namespace Synopsis

/-- A question to a summarizer, with what came of it, or an attempt to write over a file. -/
inductive Deed where
  | asked (path content : Text) (answer : Except Failure Text)
  | overwrote (file : Path) (text : Text)
  deriving DecidableEq

/-- The files after a deed. -/
def Deed.apply (t : Tree) : Deed → Tree
  | .asked .. => t
  | .overwrote file text => (t.replaceText file text).2

/-- What it takes to annotate a file, in a world `ω`. -/
structure Means (α ω : Type) where
  tree : ω → Tree
  tell : List Note → ω → ω
  summon : ω → Except Failure α × ω
  ask : α → Text → Source → ω → Except Failure Text × ω
  overwrite : Text → Path → Source → ω → Except Failure Unit × ω

/-- The same means, with a record of every question and every overwriting. -/
def Means.recorded {α ω : Type} (m : Means α ω) : Means α (ω × List Deed) where
  tree w := m.tree w.1
  tell notes w := (m.tell notes w.1, w.2)
  summon w := ((m.summon w.1).1, (m.summon w.1).2, w.2)
  ask a path source w :=
    ((m.ask a path source w.1).1, (m.ask a path source w.1).2,
      w.2 ++ [.asked path source.content (m.ask a path source w.1).1])
  overwrite path file source w :=
    ((m.overwrite path file source w.1).1, (m.overwrite path file source w.1).2,
      w.2 ++ [.overwrote file source.text])

namespace Service

variable {α σ ω : Type} {sv : Service α σ} {known : Index} {path : Text} {s : Session α σ}
  {file : Path} {source : Source}

/-- The means of a service. -/
def means (sv : Service α σ) : Means α (Session α σ) where
  tree s := s.tree
  tell notes s := s.record (notes.map .noted)
  summon := sv.summon
  ask a path source s :=
    (told path (sv.supply.ask a path source.content s.outside).1.outcome, sv.asking a path source s)
  overwrite := write

/-- Annotating as it is, but by any means. -/
def annotateBy (sv : Service α σ) (m : Means α ω) (known : Index) (path : Text) (w : ω) :
    Except Failure Annotation × ω :=
  match sv.prepare known path (m.tree w) with
  | .inl (result, notes) => (result, m.tell notes w)
  | .inr (file, source) =>
    match m.summon w with
    | (.error f, w) => (.error f, w)
    | (.ok a, w) =>
      match m.ask a path source w with
      | (.error f, w) => (.error f, w)
      | (.ok summary, w) =>
        match sv.embedding? path with
        | none => (.ok ⟨path, .generated summary⟩, m.tell [.indexedOnly path] w)
        | some d =>
          match m.overwrite path file (source.annotate d summary) w with
          | (.error f, w) => (.error f, w)
          | (.ok (), w) => (.ok ⟨path, .generated summary⟩, m.tell [.embedded path] w)

theorem annotateBy_means (sv : Service α σ) (known : Index) (path : Text) (s : Session α σ) :
    sv.annotateBy sv.means known path s = sv.annotate known path s := by
  have hsame : sv.means.tree s = s.tree := rfl
  unfold annotateBy
  rw [hsame]
  cases hprep : sv.prepare known path s.tree with
  | inl early =>
    rw [annotate_of_inl hprep]
    rfl
  | inr found =>
    obtain ⟨file, source⟩ := found
    have hsummon : sv.means.summon s = sv.summon s := rfl
    rw [annotate_of_inr hprep]
    simp only [hsummon]
    cases hs : sv.summon s with
    | mk found next =>
      cases found with
      | error f =>
        rw [generate_of_unbuilt hs]
        rfl
      | ok a =>
        rw [generate_of_summon hs]
        simp only [means]
        cases told path (sv.supply.ask a path source.content next.outside).1.outcome with
        | error f => rfl
        | ok summary =>
          unfold finish
          cases sv.embedding? path with
          | none => rfl
          | some d =>
            simp only
            rcases write path file (source.annotate d summary) (sv.asking a path source next) with
              ⟨f | _, last⟩ <;> rfl

/-- What is put on record does not matter to what is done. -/
theorem annotateBy_recorded (sv : Service α σ) (m : Means α ω) (known : Index) (path : Text)
    (w : ω) : ∃ deeds, sv.annotateBy m.recorded known path (w, []) =
      ((sv.annotateBy m known path w).1, (sv.annotateBy m known path w).2, deeds) := by
  have hsame : m.recorded.tree (w, []) = m.tree w := rfl
  unfold annotateBy
  rw [hsame]
  cases sv.prepare known path (m.tree w) with
  | inl early => exact ⟨_, rfl⟩
  | inr found =>
    obtain ⟨file, source⟩ := found
    simp only [Means.recorded]
    cases m.summon w with
    | mk found next =>
      cases found with
      | error f => exact ⟨_, rfl⟩
      | ok a =>
        simp only
        cases hask : m.ask a path source next with
        | mk answer asked =>
          cases answer with
          | error f => exact ⟨_, rfl⟩
          | ok summary =>
            simp only
            cases sv.embedding? path with
            | none => exact ⟨_, rfl⟩
            | some d =>
              simp only
              cases hwritten : m.overwrite path file (source.annotate d summary) asked with
              | mk done last =>
                cases done with
                | error f => exact ⟨_, rfl⟩
                | ok _ => exact ⟨_, rfl⟩

/-- What an annotation asks and overwrites. -/
def deeds (sv : Service α σ) (known : Index) (path : Text) (s : Session α σ) : List Deed :=
  (sv.annotateBy sv.means.recorded known path (s, [])).2.2

/-- The deeds are those of the annotation itself. -/
theorem annotateBy_recorded_means (sv : Service α σ) (known : Index) (path : Text)
    (s : Session α σ) : sv.annotateBy sv.means.recorded known path (s, []) =
      ((sv.annotate known path s).1, (sv.annotate known path s).2, sv.deeds known path s) := by
  obtain ⟨deeds, hdeeds⟩ := annotateBy_recorded sv sv.means known path s
  rw [annotateBy_means] at hdeeds
  rw [Service.deeds, hdeeds]

/-- A text without a summary at hand: the text of a file that can be read and is to be annotated,
with no entry that stands for it and no block that counts. -/
structure Unsummarized (sv : Service α σ) (known : Index) (path : Text) (t : Tree)
    (raw : Text) : Prop where
  wanted : Path.extension path ∈ sv.settings.extensions
  unknown : ¬ (Path.extension path ∈ sv.settings.exclusions ∧
    ∃ e, Keyed.get? known path = some e ∧ e.summary ≠ "")
  readable : ∃ file, sv.place path = .ok file ∧ t.readBytes file = .ok (Utf8.encode raw) ∧
    Text.Encoding.utf8.fault? raw = none
  bare : ¬ (sv.settings.force = false ∧
    ∃ d body, Dialect.ofExtension? (Path.extension path) = some d ∧
      Block.extract? d (Source.ofText raw).lines = some body ∧
      Text.isBlank (Text.joinLines body) = false)

/-- Whether a summarizer is in hand or can be built. -/
def CanSummon (sv : Service α σ) (s : Session α σ) : Prop :=
  s.holding ≠ .none ∨ ∃ a, (sv.supply.build sv.settings s.tree s.outside).1 = .ok a

theorem reusable?_eq_none_iff : sv.reusable? known path = none ↔
    ¬ (Path.extension path ∈ sv.settings.exclusions ∧
      ∃ e, Keyed.get? known path = some e ∧ e.summary ≠ "") := by
  unfold reusable? isExcluded
  by_cases hexcluded : Path.extension path ∈ sv.settings.exclusions
  · simp only [hexcluded, decide_true, if_true, true_and]
    unfold Index.summary?
    cases Keyed.get? known path with
    | none => simp
    | some e => simp
  · simp [hexcluded]

theorem embedded?_eq_none_iff : sv.embedded? path source = none ↔
    ¬ (sv.settings.force = false ∧
      ∃ d body, Dialect.ofExtension? (Path.extension path) = some d ∧
        Block.extract? d source.lines = some body ∧
        Text.isBlank (Text.joinLines body) = false) := by
  unfold embedded? Source.summary?
  cases sv.settings.force with
  | true => simp
  | false =>
    cases Dialect.ofExtension? (Path.extension path) with
    | none => simp
    | some d =>
      cases Block.extract? d source.lines with
      | none => simp [*]
      | some body => simp [*]

/-- A summary is asked for just where none is at hand. -/
theorem prepare_eq_inr_iff_unsummarized {t : Tree} : sv.prepare known path t = .inr (file, source) ↔
    sv.place path = .ok file ∧
      ∃ raw, Unsummarized sv known path t raw ∧ source = .ofText raw := by
  rw [prepare_eq_inr_iff, reusable?_eq_none_iff, embedded?_eq_none_iff, read_eq_ok_iff]
  constructor
  · rintro ⟨hwanted, hunknown, ⟨hplace, raw, hread, rfl⟩, hbare⟩
    have hbytes := Tree.readExact_eq_ok_iff_readBytes.mp hread
    exact ⟨hplace, raw, ⟨by simpa [isSupported] using hwanted, hunknown, ⟨file, hplace, hbytes⟩,
      hbare⟩, rfl⟩
  · rintro ⟨hplace, raw, h, rfl⟩
    obtain ⟨file', hplace', hbytes⟩ := h.readable
    rw [hplace, Except.ok.injEq] at hplace'
    subst hplace'
    have hread := Tree.readExact_eq_ok_iff_readBytes.mpr hbytes
    exact ⟨by simpa [isSupported] using h.wanted, h.unknown, ⟨hplace, raw, hread, rfl⟩, h.bare⟩

theorem Unsummarized.prepare {t : Tree} {raw : Text} (h : Unsummarized sv known path t raw) :
    ∃ file, sv.prepare known path t = .inr (file, .ofText raw) := by
  obtain ⟨file, hplace, -⟩ := h.readable
  exact ⟨file, prepare_eq_inr_iff_unsummarized.mpr ⟨hplace, raw, h, rfl⟩⟩

theorem summon_ok_iff : (∃ a, (sv.summon s).1 = .ok a) ↔ sv.CanSummon s := by
  unfold summon CanSummon
  cases hholding : s.holding with
  | none =>
    rcases sv.supply.build sv.settings s.tree s.outside with ⟨f | a, outside⟩ <;> simp
  | lent a => simp
  | own a => simp

/-- The deeds of an annotation, its result and the files that it leaves. -/
inductive Proceeds (sv : Service α σ) (known : Index) (path : Text) (s : Session α σ) :
    List Deed → Except Failure Annotation → Tree → Prop where
  | idle (hno : ∀ file source, sv.prepare known path s.tree = .inr (file, source) →
      ¬ sv.CanSummon s) (result : Except Failure Annotation) :
    Proceeds sv known path s [] result s.tree
  | unanswered (file : Path) (source : Source)
    (hprep : sv.prepare known path s.tree = .inr (file, source)) (hcan : sv.CanSummon s)
    (f : Failure) :
    Proceeds sv known path s [.asked path source.content (.error f)] (.error f) s.tree
  | indexed (file : Path) (source : Source)
    (hprep : sv.prepare known path s.tree = .inr (file, source)) (hcan : sv.CanSummon s)
    (summary : Text) (hout : sv.embedding? path = none) :
    Proceeds sv known path s [.asked path source.content (.ok summary)]
      (.ok ⟨path, .generated summary⟩) s.tree
  | embedding (file : Path) (source : Source)
    (hprep : sv.prepare known path s.tree = .inr (file, source)) (hcan : sv.CanSummon s)
    (summary : Text) (d : Dialect) (hin : sv.embedding? path = some d)
    (result : Except Failure Annotation) (t : Tree)
    (hwrite : (s.tree.replaceText file (source.annotate d summary).text).2 = t)
    (herror : ∀ f, result = .error f → t = s.tree) :
    Proceeds sv known path s [.asked path source.content (.ok summary),
      .overwrote file (source.annotate d summary).text] result t

theorem proceeds_recorded (sv : Service α σ) (known : Index) (path : Text) (s : Session α σ) :
    Proceeds sv known path s (sv.annotateBy sv.means.recorded known path (s, [])).2.2
      (sv.annotateBy sv.means.recorded known path (s, [])).1
      (sv.annotateBy sv.means.recorded known path (s, [])).2.1.tree := by
  have hsame : sv.means.recorded.tree (s, []) = s.tree := rfl
  -- building a summarizer and asking it leave the files alone, so all that counts is the write
  have htree := summon_tree sv s
  have hcan : (∃ a, (sv.summon s).1 = .ok a) ↔ sv.CanSummon s := summon_ok_iff
  unfold annotateBy
  rw [hsame]
  cases hprep : sv.prepare known path s.tree with
  | inl early => exact .idle (by simp [hprep]) _
  | inr found =>
    obtain ⟨file, source⟩ := found
    simp only [Means.recorded, means]
    cases hsummon : sv.summon s with
    | mk found next =>
      rw [hsummon] at hcan htree
      change next.tree = s.tree at htree
      cases found with
      | error f =>
        have hno : ¬ sv.CanSummon s := by simp [← hcan]
        simp only [htree]
        exact .idle (fun _ _ _ => hno) _
      | ok a =>
        have hyes : sv.CanSummon s := hcan.mp ⟨a, rfl⟩
        have hasked : (sv.asking a path source next).tree = s.tree := htree
        simp only [List.nil_append]
        cases told path (sv.supply.ask a path source.content next.outside).1.outcome with
        | error f =>
          simp only [hasked]
          exact .unanswered file source hprep hyes f
        | ok summary =>
          simp only
          cases hin : sv.embedding? path with
          | none =>
            change Proceeds sv known path s _ _ (sv.asking a path source next).tree
            rw [hasked]
            exact .indexed file source hprep hyes summary hin
          | some d =>
            simp only
            have hwrite := write_tree path file (source.annotate d summary)
              (sv.asking a path source next)
            rw [hasked] at hwrite
            cases hwritten : write path file (source.annotate d summary)
                (sv.asking a path source next) with
            | mk done last =>
              rw [hwritten] at hwrite
              cases done with
              | error f =>
                have herror := (write_error hwritten).trans hasked
                exact .embedding file source hprep hyes summary d hin _ _ hwrite.symm
                  fun _ _ => herror
              | ok _ =>
                exact .embedding file source hprep hyes summary d hin _ _ hwrite.symm
                  fun f hf => by cases hf

theorem proceeds (sv : Service α σ) (known : Index) (path : Text) (s : Session α σ) :
    Proceeds sv known path s (sv.deeds known path s) (sv.annotate known path s).1
      (sv.annotate known path s).2.tree := by
  have h := proceeds_recorded sv known path s
  rw [annotateBy_recorded_means] at h
  exact h

/-- What the policy says about an annotation: its deeds, its result and the files that it leaves. -/
structure FollowsPolicy (sv : Service α σ) (known : Index) (path : Text) (s : Session α σ)
    (deeds : List Deed) (result : Except Failure Annotation) (t : Tree) : Prop where
  at_most_once : deeds = [] ∨ ∃ content answer, deeds = [.asked path content answer] ∨
    ∃ file text, sv.place path = .ok file ∧
      deeds = [.asked path content answer, .overwrote file text]
  asked_iff (content : Text) : (∃ answer, .asked path content answer ∈ deeds) ↔
    ∃ raw, Unsummarized sv known path s.tree raw ∧ content = (Source.ofText raw).content ∧
      sv.CanSummon s
  overwrote_iff : (∃ file text, .overwrote file text ∈ deeds) ↔
    (∃ content summary, .asked path content (.ok summary) ∈ deeds) ∧
      Dialect.ofExtension? (Path.extension path) ≠ none ∧
      Path.extension path ∉ sv.settings.exclusions
  tree_eq : t = deeds.foldl Deed.apply s.tree
  tree_of_error (f : Failure) : result = .error f → t = s.tree

/-- Only the content of the file is asked about. -/
theorem unsummarized_iff (hprep : sv.prepare known path s.tree = .inr (file, source))
    (hcan : sv.CanSummon s) (content : Text) :
    (∃ raw, Unsummarized sv known path s.tree raw ∧ content = (Source.ofText raw).content ∧
      sv.CanSummon s) ↔ content = source.content := by
  constructor
  · rintro ⟨raw, h, rfl, -⟩
    obtain ⟨file', hprep'⟩ := h.prepare
    rw [hprep, Sum.inr.injEq, Prod.mk.injEq] at hprep'
    rw [hprep'.2]
  · rintro rfl
    obtain ⟨-, raw, h, rfl⟩ := prepare_eq_inr_iff_unsummarized.mp hprep
    exact ⟨raw, h, rfl, hcan⟩

theorem embedding?_ne_none_iff : sv.embedding? path ≠ none ↔
    Dialect.ofExtension? (Path.extension path) ≠ none ∧
      Path.extension path ∉ sv.settings.exclusions := by
  unfold embedding? isExcluded
  by_cases hexcluded : Path.extension path ∈ sv.settings.exclusions <;> simp [hexcluded]

theorem Proceeds.followsPolicy {deeds : List Deed} {result : Except Failure Annotation} {t : Tree}
    (h : Proceeds sv known path s deeds result t) :
    FollowsPolicy sv known path s deeds result t := by
  cases h with
  | idle hno result =>
    refine ⟨.inl rfl, fun content => ?_, by simp, rfl, fun _ _ => rfl⟩
    have hnone : ¬ ∃ raw, Unsummarized sv known path s.tree raw ∧
        content = (Source.ofText raw).content ∧ sv.CanSummon s := by
      rintro ⟨raw, h, -, hcan⟩
      obtain ⟨file, hprep⟩ := h.prepare
      exact hno _ _ hprep hcan
    simp [hnone]
  | unanswered file source hprep hcan f =>
    refine ⟨.inr ⟨_, _, .inl rfl⟩, fun content => ?_, by simp, rfl, fun _ _ => rfl⟩
    rw [unsummarized_iff hprep hcan]
    simp
  | indexed file source hprep hcan summary hout =>
    refine ⟨.inr ⟨_, _, .inl rfl⟩, fun content => ?_, ?_, rfl, fun _ _ => rfl⟩
    · rw [unsummarized_iff hprep hcan]
      simp
    · rw [← embedding?_ne_none_iff]
      simp [hout]
  | embedding file source hprep hcan summary d hin result t hwrite herror =>
    have hplace := (prepare_eq_inr_iff_unsummarized.mp hprep).1
    refine ⟨.inr ⟨_, _, .inr ⟨file, _, hplace, rfl⟩⟩, fun content => ?_, ?_, hwrite.symm, herror⟩
    · rw [unsummarized_iff hprep hcan]
      simp
    · rw [← embedding?_ne_none_iff]
      simp [hin]

/-- A summarizer is asked at most once, where the file has no summary and can be given one, and then
the file is overwritten at most once, where its type is one that holds summaries. A failure leaves
all files as they were. -/
theorem policy_of_annotate (sv : Service α σ) (known : Index) (path : Text) (s : Session α σ) :
    sv.annotateBy sv.means.recorded known path (s, []) =
        ((sv.annotate known path s).1, (sv.annotate known path s).2, sv.deeds known path s) ∧
      FollowsPolicy sv known path s (sv.deeds known path s) (sv.annotate known path s).1
        (sv.annotate known path s).2.tree :=
  ⟨annotateBy_recorded_means sv known path s, (proceeds sv known path s).followsPolicy⟩

example : (always "s").deeds [] "a.sh" (lone "a.sh" "ls") = [.asked "a.sh" "ls" (.ok "s"),
    .overwrote ⟨.relative, ["a.sh"]⟩ "### AUTO-SUMMARY ###\n#  s\n### END-SUMMARY ###\n\nls"] := by
  decide +kernel

end Service

end Synopsis
