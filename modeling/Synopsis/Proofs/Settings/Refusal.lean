import Mathlib.Data.List.Induction
import Synopsis.Proofs.Settings.Keys

namespace Synopsis

namespace Settings

variable {source key : Text} {s : Settings} {value : Datum} {entries : List (Datum × Datum)}
  {f : SettingsFault}

theorem admits_of_overflows {rule : Rule} (hrule : Rule.ofKey? "temperature" = some rule)
    (h : value.Overflows) : rule.Admits value := by
  obtain rfl : .number = rule := Option.some.inj hrule
  obtain ⟨n, rfl, -⟩ := h
  exact .inr ⟨n, rfl⟩

/-- What is said of a value that is refused. -/
inductive Refuses (source key : Text) (value : Datum) : SettingsFault → Prop where
  | unknown (hkey : Rule.ofKey? key = none) :
    Refuses source key value (.unknownKeys source [key])
  | breaks (rule : Rule) (hrule : Rule.ofKey? key = some rule) (hbreaks : ¬ rule.Admits value) :
    Refuses source key value (.breaks key source rule)
  | overflows (hkey : key = "temperature") (hlarge : value.Overflows) :
    Refuses source key value .numberTooLarge

theorem assign_eq_error_iff :
    assign source s key value = .error f ↔ Refuses source key value f := by
  have hassigns : Assigns source s value key (assign source s key value) := assigns_assign
  constructor
  · intro h
    rw [h] at hassigns
    cases hassigns with
    | unknown hkey => exact .unknown hkey
    | breaks hrule hbreaks => exact .breaks _ hrule hbreaks
    | overflows hlarge => exact .overflows rfl hlarge
  · intro h
    generalize assign source s key value = result at hassigns ⊢
    cases hassigns with
    | unknown hkey =>
      cases h with
      | unknown _ => rfl
      | breaks rule hrule _ => simp [hkey] at hrule
      | overflows htemperature _ => simp [htemperature, Rule.ofKey?, Keyed.get?] at hkey
    | @breaks _ rule hrule hbreaks =>
      cases h with
      | unknown hkey => simp [hkey] at hrule
      | breaks other hother _ =>
        obtain rfl := Option.some.inj (hrule.symm.trans hother)
        rfl
      | overflows htemperature hlarge =>
        exact absurd (admits_of_overflows (htemperature ▸ hrule) hlarge) hbreaks
    | overflows hlarge =>
      cases h with
      | unknown hkey => simp [Rule.ofKey?, Keyed.get?] at hkey
      | breaks rule hrule hbreaks => exact absurd (admits_of_overflows hrule hlarge) hbreaks
      | overflows _ _ => rfl
    | set hrule hadmits hsmall _ _ _ =>
      cases h with
      | unknown hkey => simp [hkey] at hrule
      | breaks other hother hbreaks =>
        obtain rfl := Option.some.inj (hrule.symm.trans hother)
        exact absurd hadmits hbreaks
      | overflows htemperature hlarge => exact absurd ⟨htemperature, hlarge⟩ hsmall

/-- A value that can be set. -/
def Meets (key : Text) (value : Datum) : Prop :=
  (∃ rule, Rule.ofKey? key = some rule ∧ rule.Admits value) ∧
    ¬ (key = "temperature" ∧ value.Overflows)

theorem assign_ok_iff : (∃ s', assign source s key value = .ok s') ↔ Meets key value := by
  constructor
  · rintro ⟨s', hassign⟩
    have hnot (fault : SettingsFault) : ¬ Refuses source key value fault := by
      intro hrefuses
      rw [assign_eq_error_iff.mpr hrefuses] at hassign
      cases hassign
    refine ⟨?_, fun ⟨hkey, hlarge⟩ => hnot _ (.overflows hkey hlarge)⟩
    cases hrule : Rule.ofKey? key with
    | none => exact absurd (.unknown hrule) (hnot _)
    | some rule =>
      exact ⟨rule, rfl,
        Classical.byContradiction fun hbreaks => hnot _ (.breaks rule hrule hbreaks)⟩
  · rintro ⟨⟨rule, hrule, hadmits⟩, hsmall⟩
    cases hassign : assign source s key value with
    | ok s' => exact ⟨s', rfl⟩
    | error fault =>
      cases assign_eq_error_iff.mp hassign with
      | unknown hnone =>
        rw [hrule] at hnone
        cases hnone
      | breaks other hother hbreaks =>
        obtain rfl := Option.some.inj (hrule.symm.trans hother)
        exact absurd hadmits hbreaks
      | overflows hkey hlarge => exact absurd ⟨hkey, hlarge⟩ hsmall

/-- The first entry that cannot be set is the one that is told. -/
theorem assignAll_eq_error_iff : assignAll source s entries = .error f ↔
    ∃ front e rest, entries = front ++ e :: rest ∧
      (∀ e ∈ front, Meets (e.1.text?.getD "") e.2) ∧ Refuses source (e.1.text?.getD "") e.2 f := by
  induction entries generalizing s with
  | nil => simp [assignAll]
  | cons e r ih =>
    cases hassign : assign source s (e.1.text?.getD "") e.2 with
    | ok next =>
      have hmeets := assign_ok_iff.mp ⟨next, hassign⟩
      rw [assignAll, hassign]
      simp only [ih]
      constructor
      · rintro ⟨front, bad, rest, rfl, hfront, hrefuses⟩
        exact ⟨e :: front, bad, rest, rfl, List.forall_mem_cons.mpr ⟨hmeets, hfront⟩, hrefuses⟩
      · rintro ⟨front, bad, rest, hsplit, hfront, hrefuses⟩
        cases front with
        | nil =>
          obtain ⟨rfl, rfl⟩ := List.cons.inj hsplit
          rw [assign_eq_error_iff.mpr hrefuses] at hassign
          cases hassign
        | cons first front =>
          obtain ⟨rfl, rfl⟩ := List.cons.inj hsplit
          exact ⟨front, bad, rest, rfl, (List.forall_mem_cons.mp hfront).2, hrefuses⟩
    | error fault =>
      have hrefuses := assign_eq_error_iff.mp hassign
      rw [assignAll, hassign]
      simp only [Except.error.injEq]
      constructor
      · rintro rfl
        exact ⟨[], e, r, rfl, by simp, hrefuses⟩
      · rintro ⟨front, bad, rest, hsplit, hfront, hbad⟩
        cases front with
        | nil =>
          obtain ⟨rfl, rfl⟩ := List.cons.inj hsplit
          rw [assign_eq_error_iff.mpr hbad, Except.error.injEq] at hassign
          exact hassign.symm
        | cons first front =>
          obtain ⟨rfl, rfl⟩ := List.cons.inj hsplit
          obtain ⟨next, hnext⟩ := assign_ok_iff.mpr (List.forall_mem_cons.mp hfront).1
          rw [hassign] at hnext
          cases hnext

/-- A fault that does not count as one of what the settings say. -/
def Escapes (result : Except SettingsFault Settings) : Prop :=
  ∃ f, result = .error f ∧ Command.isMisconfigured f = false

/-- A layer with a key that is no text, or with a number that is too large where all in front of it
can be set. -/
inductive LayerEscapes (entries : List (Datum × Datum)) : Prop where
  | key (e : Datum × Datum) (he : e ∈ entries) (hkey : e.1.text? = none)
  | number (hknown : ∀ e ∈ entries, isKnown e.1 = true) (front rest : List (Datum × Datum))
    (e : Datum × Datum) (hsplit : entries = front ++ e :: rest)
    (hfront : ∀ e ∈ front, Meets (e.1.text?.getD "") e.2) (hkey : e.1 = .text "temperature")
    (hlarge : e.2.Overflows)

theorem text?_of_isKnown {d : Datum} (h : isKnown d = true) : ∃ word, d = .text word := by
  cases d with
  | text word => exact ⟨word, rfl⟩
  | _ => simp [isKnown] at h

theorem isMisconfigured_refuseKeys {keys : List Datum} :
    Command.isMisconfigured (refuseKeys source keys) = false ↔ ∃ d ∈ keys, d.text? = none := by
  unfold refuseKeys
  cases keys with
  | nil => simp [Command.isMisconfigured]
  | cons first rest =>
    have hsome : (∃ d ∈ first :: rest, d.text? = none) ↔
        ¬ ((first :: rest).all fun d => d.text?.isSome) = true := by
      simp [List.all_eq_true, -List.all_cons, -List.mem_cons]
    rw [hsome]
    by_cases hall : ((first :: rest).all fun d => d.text?.isSome) = true
    · simp only [hall, if_true, not_true_eq_false, iff_false]
      simp [Command.isMisconfigured]
    · simp only [if_neg hall]
      split
      · simp [Command.isMisconfigured, hall]
      · split
        · simp [Command.isMisconfigured, hall]
        · split <;> simp [Command.isMisconfigured, hall]

theorem overlay_escapes_iff : Escapes (overlay source s entries) ↔ LayerEscapes entries := by
  have hunknown : (entries.map Prod.fst).filter (fun d => !isKnown d) = [] ↔
      ∀ e ∈ entries, isKnown e.1 = true := by
    simp [List.filter_eq_nil_iff]
  unfold overlay
  cases hkeys : (entries.map Prod.fst).filter fun d => !isKnown d with
  | nil =>
    have hknown := hunknown.mp hkeys
    constructor
    · rintro ⟨f, hfault, hescapes⟩
      obtain ⟨front, e, rest, rfl, hfront, hrefuses⟩ := assignAll_eq_error_iff.mp hfault
      obtain ⟨word, hword⟩ := text?_of_isKnown (hknown e (by simp))
      cases hrefuses with
      | unknown | breaks => simp [Command.isMisconfigured] at hescapes
      | overflows hkey hlarge =>
        rw [hword] at hkey
        obtain rfl : word = "temperature" := hkey
        exact .number hknown front rest e rfl hfront hword hlarge
    · rintro (⟨e, he, hkey⟩ | ⟨-, front, rest, e, hsplit, hfront, hkey, hlarge⟩)
      · obtain ⟨word, hword⟩ := text?_of_isKnown (hknown e he)
        rw [hword] at hkey
        cases hkey
      · refine ⟨.numberTooLarge, assignAll_eq_error_iff.mpr
          ⟨front, e, rest, hsplit, hfront, .overflows ?_ hlarge⟩, rfl⟩
        rw [hkey]
        rfl
  | cons first rest =>
    have hnotext (d : Datum) :
        d ∈ first :: rest ↔ (∃ e ∈ entries, e.1 = d) ∧ isKnown d = false := by
      rw [← hkeys]
      simp
    constructor
    · rintro ⟨f, hfault, hescapes⟩
      rw [← Except.error.inj hfault] at hescapes
      obtain ⟨d, hd, hnone⟩ := isMisconfigured_refuseKeys.mp hescapes
      obtain ⟨⟨e, he, rfl⟩, -⟩ := (hnotext d).mp hd
      exact .key e he hnone
    · rintro (⟨e, he, hkey⟩ | ⟨hknown, -⟩)
      · have hnot : isKnown e.1 = false := by
          cases hd : e.1 <;> simp [isKnown, hd, Datum.text?] at hkey ⊢
        exact ⟨_, rfl, isMisconfigured_refuseKeys.mpr
          ⟨e.1, (hnotext e.1).mpr ⟨⟨e, he, rfl⟩, hnot⟩, hkey⟩⟩
      · rw [hunknown.mpr hknown] at hkeys
        cases hkeys

/-- A document that cannot be looked at or read, that is not in UTF-8, or that has a value of its
own type but not in its form; or else one whose layer is refused in such a way. -/
inductive DocumentEscapes (t : Tree) (p : Path) : Prop where
  | unseen (f : Fault) (hfile : t.isFile p = .error f)
  | unread (hfile : t.isFile p = .ok true) (f : Fault) (hread : t.readBytes p = .error f)
  | undecodable (hfile : t.isFile p = .ok true) (content : List UInt8)
    (hread : t.readBytes p = .ok content) (f : Utf8.Fault)
    (hdecode : Utf8.decode content = .error f)
  | value (hfile : t.isFile p = .ok true) (text : Text) (hread : t.readText p = .ok text)
    (f : Yaml.Fault) (hvalue : Yaml.read text = .error f) (hformed : f ≠ .malformed)
  | layer (hfile : t.isFile p = .ok true) (text : Text) (hread : t.readText p = .ok text)
    (entries : List (Datum × Datum)) (hvalue : Yaml.read text = .ok (.map entries))
    (hlayer : LayerEscapes entries)

theorem readText_eq_error_iff {t : Tree} {p : Path} : (∃ f, t.readText p = .error f) ↔
    (∃ f, t.readBytes p = .error f) ∨
      ∃ content f, t.readBytes p = .ok content ∧ Utf8.decode content = .error f := by
  unfold Tree.readText Tree.readExact
  cases t.readBytes p with
  | error f => exact iff_of_true ⟨_, rfl⟩ (.inl ⟨f, rfl⟩)
  | ok content =>
    cases hdecode : Utf8.decode content with
    | error f =>
      simp only [hdecode]
      exact iff_of_true ⟨_, rfl⟩ (.inr ⟨content, f, rfl, hdecode⟩)
    | ok text =>
      simp only [hdecode]
      refine iff_of_false ?_ ?_
      · rintro ⟨f, hfault⟩
        cases hfault
      · rintro (⟨f, hfault⟩ | ⟨other, f, hother, hfault⟩)
        · cases hfault
        · obtain rfl := Except.ok.inj hother
          rw [hdecode] at hfault
          cases hfault

/-- A document that can be read is left with its values to escape by. -/
theorem documentEscapes_iff_of_read {t : Tree} {p : Path} {text : Text}
    (hfile : t.isFile p = .ok true) (hread : t.readText p = .ok text) : DocumentEscapes t p ↔
    (∃ f, Yaml.read text = .error f ∧ f ≠ .malformed) ∨
      ∃ entries, Yaml.read text = .ok (.map entries) ∧ LayerEscapes entries := by
  have hwhole : ¬ ∃ f, t.readText p = .error f := by simp [hread]
  rw [readText_eq_error_iff, not_or] at hwhole
  constructor
  · rintro (⟨f, hunseen⟩ | ⟨-, f, hbytes⟩ | ⟨-, content, hbytes, f, hdecode⟩ |
      ⟨-, text', hread', f, hvalue, hformed⟩ | ⟨-, text', hread', entries, hvalue, hlayer⟩)
    · rw [hfile] at hunseen
      cases hunseen
    · exact absurd ⟨f, hbytes⟩ hwhole.1
    · exact absurd ⟨content, f, hbytes, hdecode⟩ hwhole.2
    · obtain rfl := Except.ok.inj (hread.symm.trans hread')
      exact .inl ⟨f, hvalue, hformed⟩
    · obtain rfl := Except.ok.inj (hread.symm.trans hread')
      exact .inr ⟨entries, hvalue, hlayer⟩
  · rintro (⟨f, hvalue, hformed⟩ | ⟨entries, hvalue, hlayer⟩)
    · exact .value hfile text hread f hvalue hformed
    · exact .layer hfile text hread entries hvalue hlayer

theorem overlayFile_escapes_iff {t : Tree} {p : Path} :
    Escapes (overlayFile t p s) ↔ DocumentEscapes t p := by
  unfold overlayFile
  cases hfile : t.isFile p with
  | error f =>
    refine iff_of_true ⟨_, rfl, rfl⟩ (.unseen f hfile)
  | ok there =>
    cases there with
    | false =>
      refine iff_of_false ?_ ?_
      · rintro ⟨f, hfault, -⟩
        cases hfault
      · intro h
        cases h <;> simp_all
    | true =>
      cases hread : t.readText p with
      | error f =>
        refine iff_of_true ⟨_, rfl, rfl⟩ ?_
        rcases readText_eq_error_iff.mp ⟨f, hread⟩ with ⟨g, hbytes⟩ | ⟨content, g, hbytes, hdecode⟩
        · exact .unread hfile g hbytes
        · exact .undecodable hfile content hbytes g hdecode
      | ok text =>
        rw [documentEscapes_iff_of_read hfile hread]
        simp only
        cases hvalue : Yaml.read text with
        | error f =>
          cases f <;> simp [Escapes, Command.isMisconfigured]
        | ok d =>
          cases d with
          | map entries => simp [overlay_escapes_iff]
          | _ => simp [Escapes, Command.isMisconfigured]

/-- The overrides as a layer: those that are null do not count. -/
def givenOf (overrides : List (Text × Datum)) : List (Datum × Datum) :=
  (overrides.filter fun e => !e.2.isNull).map fun e => (.text e.1, e.2)

/-- Settings are had, or refused for what they say, unless the document escapes that, or the
overrides over a document that is none to refuse. -/
theorem escapes_load_iff {h : Host} {t : Tree} {root top : Path}
    {overrides : List (Text × Datum)} {document : Option Path}
    (hexpand : h.expand root = .ok top) : Escapes (load h t root overrides document) ↔
    DocumentEscapes t (document.getD (top / documentPath)) ∨
      (∃ s, standard.overlayFile t (document.getD (top / documentPath)) = .ok s) ∧
        LayerEscapes (givenOf overrides) := by
  unfold load
  rw [hexpand, ← overlayFile_escapes_iff (s := standard)]
  simp only
  cases hfile : standard.overlayFile t (document.getD (top / documentPath)) with
  | error f => simp [Escapes]
  | ok s =>
    have hnone : ¬ Escapes (.ok s) := by simp [Escapes]
    simp only [hnone, false_or, Except.ok.injEq, exists_eq', true_and]
    have hgiven : Escapes (overlay "overrides" s (givenOf overrides)) ↔
        LayerEscapes (givenOf overrides) := overlay_escapes_iff
    rw [← hgiven, givenOf]
    cases overlay "overrides" s ((overrides.filter fun e => !e.2.isNull).map
      fun e => (.text e.1, e.2)) <;> simp [Escapes]

/-- A machine on which nothing is set. -/
def emptyHost : Host := ⟨"/home", [], none, none, none, ⟨.root, []⟩, .notInstalled⟩

/-- A project with nothing but a document. -/
def holding (content : List UInt8) : Tree :=
  ⟨.dir [(".autosummary", .dir [("config.yaml", .file content 0o644)])], [], 0o022⟩

/-- A document that is not in UTF-8. -/
theorem escapes_load_undecodable :
    Escapes (load emptyHost (holding [0xff]) (.ofText "/") [] none) :=
  (escapes_load_iff rfl).mpr <| .inl <| .undecodable rfl [0xff] rfl
    ⟨0, 1, 0xff, .badStart⟩ (by decide +kernel)

/-- A key that is no text, bytes that are no text, and a day that there is not: none of them counts
as what the settings say. -/
theorem not_misconfigured_of_load :
    let fault (content : List UInt8) : Except SettingsFault Unit :=
      (load emptyHost (holding content) (.ofText "/") [] none).map fun _ => ()
    let key : SettingsFault := .keyNotText "int"
    let bytes : SettingsFault := .unreadable (.encoding ⟨0, 1, 0xff, .badStart⟩)
    let day : SettingsFault := .value (.time .day)
    (fault (Utf8.encode "1: 2\n") = .error key ∧ Command.isMisconfigured key = false) ∧
      (fault [0xff] = .error bytes ∧ Command.isMisconfigured bytes = false) ∧
      (fault (Utf8.encode "model: 2021-02-29\n") = .error day ∧
        Command.isMisconfigured day = false) := by
  refine ⟨⟨?_, rfl⟩, ⟨?_, rfl⟩, ⟨?_, rfl⟩⟩ <;> decide +kernel

end Settings

end Synopsis
