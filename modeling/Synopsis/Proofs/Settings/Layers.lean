import Synopsis.Proofs.Settings.Refusal
import Synopsis.Proofs.Yaml.Mapping

namespace Synopsis

/-- What a setting has to be by the rule of its key, apart from its kind. -/
def Rule.Allows : Rule → Setting → Prop
  | .nonEmptyText, .text s => s ≠ ""
  | .extensions, .extensions l => ∀ s ∈ l, s.toList.head? = some (.char '.')
  | _, _ => True

theorem Rule.Reads.allows {rule : Rule} {d : Datum} {v : Setting} (h : rule.Reads d v) :
    rule.Allows v := by
  cases h with
  | nonEmptyText s hne => exact hne
  | extensions l hdots => exact hdots
  | _ => trivial

namespace Settings

variable {source key : Text} {s s' : Settings} {value : Datum} {said said' : Keyed Datum}
  {f : SettingsFault}

/-- To set a key is to set what its value stands for, and nothing else. -/
theorem assign_ok (h : assign source s key value = .ok s') : s'.root = s.root ∧
    ∃ rule v, Rule.ofKey? key = some rule ∧ rule.Reads value v ∧
      s'.table = Keyed.set s.table key v := by
  have hassigns : Assigns source s value key (assign source s key value) := assigns_assign
  rw [h] at hassigns
  cases hassigns with
  | set hrule _ _ hreads hroot htable => exact ⟨hroot, _, _, hrule, hreads, htable⟩

/-- What the setting under a key has become: what was said of it, or else what it was. -/
def Becomes (key : Text) (now former : Option Setting) : Option Datum → Prop
  | none => now = former
  | some d => ∃ rule v, Rule.ofKey? key = some rule ∧ rule.Reads d v ∧ now = some v

theorem Becomes.trans {now mid former : Option Setting} {upper lower : Option Datum}
    (h : Becomes key now mid upper) (h' : Becomes key mid former lower) :
    Becomes key now former (upper.or lower) := by
  cases upper with
  | none =>
    obtain rfl : now = mid := h
    exact h'
  | some d => exact h

/-- A layer as it is laid over settings. -/
def layer (said : Keyed Datum) : List (Datum × Datum) := said.map fun e => (.text e.1, e.2)

theorem assignAll_ok (hkeys : (Keyed.keys said).Nodup)
    (h : assignAll source s (layer said) = .ok s') : s'.root = s.root ∧
    (∀ key, Becomes key (Keyed.get? s'.table key) (Keyed.get? s.table key)
      (Keyed.get? said key)) ∧ ∀ e ∈ said, Meets e.1 e.2 := by
  induction said generalizing s with
  | nil =>
    obtain rfl := Except.ok.inj h
    exact ⟨rfl, fun _ => rfl, by simp⟩
  | cons e r ih =>
    obtain ⟨word, value⟩ := e
    have hnext : ∃ next, assign source s word value = .ok next ∧
        assignAll source next (layer r) = .ok s' := by
      cases hassign : assign source s word value with
      | ok next => simpa [layer, assignAll, Datum.text?, hassign] using h
      | error f => simp [layer, assignAll, Datum.text?, hassign] at h
    obtain ⟨next, hassign, hrest⟩ := hnext
    obtain ⟨hroot, rule, v, hrule, hreads, htable⟩ := assign_ok hassign
    obtain ⟨hout, hunique⟩ := List.nodup_cons.mp hkeys
    obtain ⟨hroot', hbecomes, hmeets⟩ := ih hunique hrest
    refine ⟨hroot'.trans hroot, fun key => ?_,
      List.forall_mem_cons.mpr ⟨assign_ok_iff.mp ⟨next, hassign⟩, hmeets⟩⟩
    have hlater := hbecomes key
    rw [htable] at hlater
    by_cases hkey : word = key
    · subst hkey
      rw [Keyed.get?_eq_none_iff.mpr hout, Keyed.get?_set_self] at hlater
      rw [Keyed.get?, if_pos rfl]
      exact ⟨rule, v, hrule, hreads, hlater⟩
    · rw [Keyed.get?_set_of_ne _ _ (Ne.symm hkey)] at hlater
      rwa [Keyed.get?, if_neg hkey]

/-- An entry that is not to be had: its key has no rule, or its value does not meet it. -/
def Offends (said : Keyed Datum) : Prop :=
  ∃ e ∈ said, ∀ rule, Rule.ofKey? e.1 = some rule → ¬ rule.Admits e.2

/-- Numbers that a fraction can be added to, wherever that is needed. -/
def Convertible (said : Keyed Datum) : Prop := ∀ e ∈ said, e.1 = "temperature" → ¬ e.2.Overflows

theorem isKnown_text_iff : isKnown (.text key) = true ↔ ∃ rule, Rule.ofKey? key = some rule := by
  rw [← Option.isSome_iff_exists, ← Option.ne_none_iff_isSome, Ne, Rule.ofKey?_eq_none_iff,
    Decidable.not_not, isKnown, decide_eq_true_iff]

theorem not_offends_of_meets (h : ∀ e ∈ said, Meets e.1 e.2) : ¬ Offends said := by
  rintro ⟨e, he, hoffends⟩
  obtain ⟨⟨rule, hrule, hadmits⟩, -⟩ := h e he
  exact hoffends rule hrule hadmits

theorem assignAll_of_overlay (h : overlay source s (layer said) = .ok s') :
    assignAll source s (layer said) = .ok s' := by
  unfold overlay at h
  split at h
  · exact h
  · cases h

/-- A layer that is refused has an entry that offends, and its refusal counts as one of what the
layer says. -/
theorem overlay_error (hnumbers : Convertible said)
    (h : overlay source s (layer said) = .error f) :
    Command.isMisconfigured f = true ∧ Offends said := by
  have hplain : ¬ LayerEscapes (layer said) := by
    rintro (⟨e, he, hkey⟩ | ⟨-, front, rest, e, hsplit, -, hkey, hlarge⟩)
    · obtain ⟨entry, -, rfl⟩ := List.mem_map.mp he
      cases hkey
    · have he : e ∈ layer said := by simp [hsplit]
      obtain ⟨entry, hentry, rfl⟩ := List.mem_map.mp he
      exact hnumbers entry hentry (Datum.text.inj hkey) hlarge
  constructor
  · have hescapes : ¬ Escapes (overlay source s (layer said)) :=
      fun hescapes => hplain (overlay_escapes_iff.mp hescapes)
    rw [h] at hescapes
    cases hmis : Command.isMisconfigured f with
    | true => rfl
    | false => exact absurd ⟨f, rfl, hmis⟩ hescapes
  · unfold overlay at h
    split at h
    · obtain ⟨front, e, rest, hsplit, -, hrefuses⟩ := assignAll_eq_error_iff.mp h
      have he : e ∈ layer said := by simp [hsplit]
      obtain ⟨entry, hentry, rfl⟩ := List.mem_map.mp he
      refine ⟨entry, hentry, fun rule hrule hadmits => ?_⟩
      cases hrefuses with
      | unknown hnone =>
        have hnone' : Rule.ofKey? entry.1 = none := hnone
        rw [hrule] at hnone'
        cases hnone'
      | breaks other hother hbreaks =>
        obtain rfl := Option.some.inj (hrule.symm.trans hother)
        exact hbreaks hadmits
      | overflows hkey hlarge => exact hnumbers entry hentry hkey hlarge
    · rename_i hkeys
      obtain ⟨d, hd⟩ := List.exists_mem_of_ne_nil _ hkeys
      obtain ⟨hmem, hunknown⟩ := List.mem_filter.mp hd
      obtain ⟨e, he, rfl⟩ := List.mem_map.mp hmem
      obtain ⟨entry, hentry, rfl⟩ := List.mem_map.mp he
      refine ⟨entry, hentry, fun rule hrule => ?_⟩
      rw [isKnown_text_iff.mpr ⟨rule, hrule⟩] at hunknown
      cases hunknown

/-- What a document says: nothing where there is none, or where it is null. -/
inductive Says (t : Tree) (p : Path) : Keyed Datum → Prop where
  | absent (hfile : t.isFile p = .ok false) : Says t p []
  | null (hfile : t.isFile p = .ok true) (text : Text) (hread : t.readText p = .ok text)
    (hvalue : Yaml.read text = .ok .null) : Says t p []
  | mapping (hfile : t.isFile p = .ok true) (text : Text) (hread : t.readText p = .ok text)
    (said : Keyed Datum) (hvalue : Yaml.read text = .ok (.map (layer said))) : Says t p said

theorem Says.nodup {t : Tree} {p : Path} (h : Says t p said) : (Keyed.keys said).Nodup := by
  cases h with
  | mapping _ text _ _ hvalue => exact (Yaml.keysApart_of_read hvalue).nodup
  | _ => exact List.nodup_nil

theorem overlayFile_of_document {t : Tree} {p : Path} (h : Says t p said) (s : Settings) :
    overlayFile t p s = overlay p.text s (layer said) := by
  cases h with
  | absent hfile =>
    simp only [overlayFile, hfile]
    rfl
  | null hfile text hread hvalue =>
    simp only [overlayFile, hfile, hread, hvalue]
    rfl
  | mapping hfile text hread _ hvalue => simp only [overlayFile, hfile, hread, hvalue]

/-- The overrides that count: those that are not null. -/
def given (overrides : Keyed Datum) : Keyed Datum := overrides.filter fun e => !e.2.isNull

theorem nodup_given {overrides : Keyed Datum} (h : (Keyed.keys overrides).Nodup) :
    (Keyed.keys (given overrides)).Nodup :=
  (List.filter_sublist.map Prod.fst).nodup h

/-- What is said of a key: an override goes before the document. -/
def said? (document overrides : Keyed Datum) (key : Text) : Option Datum :=
  (Keyed.get? (given overrides) key).or (Keyed.get? document key)

theorem load_of_document {h : Host} {t : Tree} {root top : Path} {document : Option Path}
    (hexpand : h.expand root = .ok top)
    (hsaid : Says t (document.getD (top / documentPath)) said) (overrides : Keyed Datum) :
    load h t root overrides document =
      match overlay (document.getD (top / documentPath)).text standard (layer said) with
      | .error f => .error f
      | .ok s =>
        match overlay "overrides" s (layer (given overrides)) with
        | .error f => .error f
        | .ok s => .ok { s with root := top } := by
  unfold load
  rw [hexpand]
  simp only [overlayFile_of_document hsaid]
  rfl

/-- Settings that can be worked with. -/
structure WellFormed (s : Settings) : Prop where
  model : s.model ≠ ""
  prompt : s.prompt ≠ ""
  extensions : ∀ e ∈ s.extensions, e.toList.head? = some (.char '.')
  exclusions : ∀ e ∈ s.exclusions, e.toList.head? = some (.char '.')

theorem Becomes.allows {rule : Rule} {now former : Setting} {d : Option Datum}
    (h : Becomes key (some now) (some former) d) (hrule : Rule.ofKey? key = some rule)
    (hformer : rule.Allows former) : rule.Allows now := by
  cases d with
  | none =>
    obtain rfl := Option.some.inj h
    exact hformer
  | some d =>
    obtain ⟨other, v, hother, hreads, hv⟩ := h
    obtain rfl := Option.some.inj (hrule.symm.trans hother)
    obtain rfl := Option.some.inj hv
    exact hreads.allows

theorem wellFormed_standard : standard.WellFormed where
  model := by decide
  prompt := by decide
  extensions := by simp [standard]
  exclusions := by simp [standard]

/-- Whatever is said of the keys, the settings that come of it can be worked with. -/
theorem wellFormed_of_becomes {say : Text → Option Datum}
    (h : ∀ key, Becomes key (Keyed.get? s.table key) (Keyed.get? standard.table key) (say key)) :
    s.WellFormed where
  model := (h "model").allows rfl wellFormed_standard.model
  prompt := (h "prompt").allows rfl wellFormed_standard.prompt
  extensions := (h "extensions").allows rfl wellFormed_standard.extensions
  exclusions := (h "embed_exclusions").allows rfl wellFormed_standard.exclusions

/-- The keys are set by layers, and what is refused offends in one of them. -/
theorem load_layers {h : Host} {t : Tree} {root top : Path} {document : Option Path}
    {overrides : Keyed Datum} (hexpand : h.expand root = .ok top)
    (hsaid : Says t (document.getD (top / documentPath)) said)
    (hkeys : (Keyed.keys overrides).Nodup) :
    (∀ s, load h t root overrides document = .ok s → s.root = top ∧ s.WellFormed ∧
      ∀ key, Becomes key (Keyed.get? s.table key) (Keyed.get? standard.table key)
        (said? said overrides key)) ∧
    (Convertible said → Convertible (given overrides) →
      ((∃ f, load h t root overrides document = .error f ∧ Command.isMisconfigured f = true) ↔
        Offends said ∨ Offends (given overrides)) ∧
      ((∃ s, load h t root overrides document = .ok s) ↔
        ¬ Offends said ∧ ¬ Offends (given overrides))) := by
  rw [load_of_document hexpand hsaid]
  have hdone {source : Text} {s s' : Settings} {said : Keyed Datum}
      (hunique : (Keyed.keys said).Nodup) (hover : overlay source s (layer said) = .ok s') :=
    assignAll_ok hunique (assignAll_of_overlay hover)
  cases hfirst : overlay (document.getD (top / documentPath)).text standard (layer said) with
  | error f =>
    refine ⟨fun s hs => ?_, fun hnumbers _ => ?_⟩
    · cases hs
    · obtain ⟨hmis, hoffends⟩ := overlay_error hnumbers hfirst
      simp [hmis, hoffends]
  | ok base =>
    obtain ⟨-, hbase, hmeets⟩ := hdone hsaid.nodup hfirst
    have hsound := not_offends_of_meets hmeets
    cases hsecond : overlay "overrides" base (layer (given overrides)) with
    | error f =>
      refine ⟨fun s hs => ?_, fun _ hnumbers => ?_⟩
      · simp [hsecond] at hs
      · obtain ⟨hmis, hoffends⟩ := overlay_error hnumbers hsecond
        simp [hsecond, hmis, hoffends]
    | ok made =>
      obtain ⟨-, hmade, hmeets'⟩ := hdone (nodup_given hkeys) hsecond
      refine ⟨fun s hs => ?_, fun _ _ => ?_⟩
      · simp only [hsecond] at hs
        obtain rfl := Except.ok.inj hs
        have hbecomes (key : Text) := (hmade key).trans (hbase key)
        exact ⟨rfl, wellFormed_of_becomes hbecomes, hbecomes⟩
      · simp [hsecond, hsound, not_offends_of_meets hmeets']

/-- Whether a document says that there is to be no seed, and nothing else. -/
def isUnseeded : Datum → Bool
  | .map [(.text key, .null)] => key = "seed"
  | _ => false

theorem eq_of_isUnseeded {d : Datum} (h : isUnseeded d = true) :
    d = .map (layer [("seed", .null)]) := by
  unfold isUnseeded at h
  split at h
  · rw [of_decide_eq_true h]
    rfl
  · cases h

/-- A document that takes the standard seed away, and overrides of which one is null. -/
theorem load_layers_project :
    let t := holding (Utf8.encode "seed: null\n")
    let overrides : Keyed Datum := [("model", .text "m"), ("prompt", .null)]
    emptyHost.expand (.ofText "/") = .ok (.ofText "/") ∧
      Says t (.ofText "/" / documentPath) [("seed", .null)] ∧
      (Keyed.keys overrides).Nodup ∧ Convertible [("seed", .null)] ∧
      Convertible (given overrides) ∧
      ∃ s, load emptyHost t (.ofText "/") overrides none = .ok s ∧ s.root = .ofText "/" ∧
        s.WellFormed ∧ s.seed = none ∧ s.model = "m" ∧ s.prompt = standard.prompt := by
  intro t overrides
  have hexpand : emptyHost.expand (.ofText "/") = .ok (.ofText "/") := by decide +kernel
  have hkeys : (Keyed.keys overrides).Nodup := by decide
  have hread : t.readText (.ofText "/" / documentPath) = .ok "seed: null\n" := by decide +kernel
  have hunseeded : (Yaml.read "seed: null\n").toOption.map isUnseeded = some true := by
    decide +kernel
  have hsaid : Says t (.ofText "/" / documentPath) [("seed", .null)] := by
    cases hvalue : Yaml.read "seed: null\n" with
    | error f => simp [hvalue, Except.toOption] at hunseeded
    | ok d =>
      have hd : d = .map (layer [("seed", .null)]) := by
        apply eq_of_isUnseeded
        simpa [hvalue, Except.toOption] using hunseeded
      exact .mapping (by decide +kernel) _ hread _ (hvalue.trans (congrArg Except.ok hd))
  have hseed : Convertible [("seed", .null)] := by simp [Convertible]
  have hgiven : given overrides = [(("model" : Text), .text "m")] := rfl
  have hmodel : Convertible (given overrides) := by simp [Convertible, hgiven]
  have hdocument : Says t ((none : Option Path).getD (.ofText "/" / documentPath))
      [("seed", .null)] := hsaid
  obtain ⟨hlayers, hrefused⟩ := load_layers hexpand hdocument hkeys
  have hsound (key : Text) (value : Datum) (hmeets : Meets key value) :
      ¬ Offends [(key, value)] :=
    not_offends_of_meets fun e he => List.mem_singleton.mp he ▸ hmeets
  have hadmitted : ¬ Offends [("seed", .null)] ∧ ¬ Offends (given overrides) := by
    constructor
    · exact hsound "seed" .null ⟨⟨.wholeNumber, rfl, .inl rfl⟩, by simp⟩
    · exact hsound "model" (.text "m") ⟨⟨.nonEmptyText, rfl, "m", rfl, by decide⟩, by simp⟩
  obtain ⟨s, hload⟩ := (hrefused hseed hmodel).2.mpr hadmitted
  obtain ⟨hroot, hformed, hbecomes⟩ := hlayers s hload
  refine ⟨hexpand, hsaid, hkeys, hseed, hmodel, s, hload, hroot, hformed, ?_, ?_, ?_⟩
  · obtain ⟨rule, v, -, hreads, hv⟩ := hbecomes "seed"
    obtain rfl : Setting.limit s.seed = v := Option.some.inj hv
    generalize s.seed = seed at hreads
    cases hreads
    rfl
  · obtain ⟨rule, v, -, hreads, hv⟩ := hbecomes "model"
    obtain rfl : Setting.text s.model = v := Option.some.inj hv
    generalize s.model = model at hreads
    cases hreads
    rfl
  · exact Setting.text.inj (Option.some.inj (hbecomes "prompt"))

end Settings

end Synopsis
