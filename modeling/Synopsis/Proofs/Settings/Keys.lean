import Synopsis.Command.Run
import Synopsis.Proofs.Keyed

namespace Synopsis

/-- The rule for the value of a key, for the keys that have one. -/
def Rule.ofKey? (key : Text) : Option Rule :=
  Keyed.get? [("cache_path", path), ("force", truth), ("fail_fast", truth), ("prune", truth),
    ("extensions", extensions), ("embed_exclusions", extensions), ("model", nonEmptyText),
    ("temperature", number), ("max_tokens", wholeNumber), ("seed", wholeNumber),
    ("prompt", nonEmptyText)] key

theorem Rule.ofKey?_eq_none_iff {key : Text} : ofKey? key = none ↔ key ∉ Settings.knownKeys :=
  Keyed.get?_eq_none_iff

/-- What meets a rule. -/
def Rule.Admits : Rule → Datum → Prop
  | .truth, d => ∃ b, d = .bool b
  | .nonEmptyText, d => ∃ s, d = .text s ∧ s ≠ ""
  | .wholeNumber, d => d = .null ∨ ∃ n, d = .int n
  | .number, d => (∃ x, d = .real x) ∨ ∃ n, d = .int n
  | .extensions, d => ∃ items, d = .list items ∧
      ∀ item ∈ items, ∃ s, item = .text s ∧ s.toList.head? = some (.char '.')
  | .path, d => ∃ s, d = .text s ∧ s ≠ ""

/-- A whole number that no fraction can be added to. -/
def Datum.Overflows (d : Datum) : Prop := ∃ n, d = .int n ∧ (Float.ofInt n).isInf = true

/-- A setting, whatever its kind. -/
inductive Setting where
  | truth (b : Bool)
  | text (s : Text)
  | limit (n : Option Int)
  | number (x : Number)
  | extensions (l : List Text)
  | path (p : Path)

/-- What a value stands for by a rule. -/
inductive Rule.Reads : Rule → Datum → Setting → Prop where
  | truth (b : Bool) : Reads .truth (.bool b) (.truth b)
  | nonEmptyText (s : Text) (h : s ≠ "") : Reads .nonEmptyText (.text s) (.text s)
  | noLimit : Reads .wholeNumber .null (.limit none)
  | limit (n : Int) : Reads .wholeNumber (.int n) (.limit (some n))
  | real (x : Float) : Reads .number (.real x) (.number (.real x))
  | whole (n : Int) (h : (Float.ofInt n).isInf = false) :
    Reads .number (.int n) (.number (.real (Float.ofInt n)))
  | extensions (l : List Text) (h : ∀ s ∈ l, s.toList.head? = some (.char '.')) :
    Reads .extensions (.list (l.map .text)) (.extensions l)
  | path (s : Text) (h : s ≠ "") : Reads .path (.text s) (.path (.ofText s))

/-- Texts are the same as what is picked out of them. -/
theorem Datum.map_text_filterMap_text? {items : List Datum}
    (h : ∀ d ∈ items, ∃ word, d = .text word) :
    (items.filterMap Datum.text?).map Datum.text = items := by
  induction items with
  | nil => rfl
  | cons d r ih =>
    obtain ⟨word, rfl⟩ := h d List.mem_cons_self
    have hrest := ih fun d hd => h d (List.mem_cons_of_mem _ hd)
    simp [Datum.text?, hrest]

namespace Settings

variable {source key : Text} {s : Settings} {value : Datum} {f : SettingsFault}

/-- The settings under their keys. The root has none. -/
def table (s : Settings) : Keyed Setting :=
  [("cache_path", .path s.indexPath), ("force", .truth s.force), ("fail_fast", .truth s.failFast),
    ("prune", .truth s.prune), ("extensions", .extensions s.extensions),
    ("embed_exclusions", .extensions s.exclusions), ("model", .text s.model),
    ("temperature", .number s.temperature), ("max_tokens", .limit s.maxTokens),
    ("seed", .limit s.seed), ("prompt", .text s.prompt)]

example (s : Settings) : Keyed.keys s.table = knownKeys := rfl

theorem truth?_eq_none_iff : truth? value = none ↔ ¬ Rule.truth.Admits value := by
  cases value <;> simp [truth?, Rule.Admits]

theorem nonEmptyText?_eq_none_iff :
    nonEmptyText? value = none ↔ ¬ Rule.nonEmptyText.Admits value := by
  cases value <;> simp [nonEmptyText?, Rule.Admits]

theorem limit?_eq_none_iff : limit? value = none ↔ ¬ Rule.wholeNumber.Admits value := by
  cases value <;> simp [limit?, Rule.Admits]

theorem path?_eq_none_iff : path? value = none ↔ ¬ Rule.path.Admits value := by
  rw [path?, Option.map_eq_none_iff, nonEmptyText?_eq_none_iff]
  rfl

theorem extensions?_eq_none_iff : extensions? value = none ↔ ¬ Rule.extensions.Admits value := by
  cases value with
  | list items =>
    have hitem (item : Datum) : (item.text?.bind fun s => s.toList.head?) = some (.char '.') ↔
        ∃ s, item = .text s ∧ s.toList.head? = some (.char '.') := by
      cases item <;> simp [Datum.text?]
    simp [extensions?, Rule.Admits, hitem]
  | _ => simp [extensions?, Rule.Admits]

theorem temperature?_eq_none_iff : temperature? value = none ↔ ¬ Rule.number.Admits value := by
  cases value <;> simp [temperature?, Rule.Admits]

theorem temperature?_eq_error_iff :
    temperature? value = some (.error f) ↔ value.Overflows ∧ f = .numberTooLarge := by
  cases value with
  | int n =>
    have hsame : (∃ m, Datum.int n = .int m ∧ (Float.ofInt m).isInf = true) ↔
        (Float.ofInt n).isInf = true := by simp
    rw [Datum.Overflows, hsame, temperature?]
    by_cases hinf : (Float.ofInt n).isInf = true
    · simp only [hinf, if_true, true_and, Option.some.injEq, Except.error.injEq]
      exact eq_comm
    · simp [hinf]
  | _ => simp [temperature?, Datum.Overflows]

theorem reads_truth {b : Bool} (h : truth? value = some b) : Rule.truth.Reads value (.truth b) := by
  cases value with
  | bool b' =>
    obtain rfl := Option.some.inj h
    exact .truth b'
  | _ => simp [truth?] at h

theorem eq_text_of_nonEmptyText? {text : Text} (h : nonEmptyText? value = some text) :
    value = .text text ∧ text ≠ "" := by
  cases value with
  | text word =>
    rw [nonEmptyText?] at h
    split at h
    · cases h
    · rename_i hne
      obtain rfl := Option.some.inj h
      exact ⟨rfl, hne⟩
  | _ => simp [nonEmptyText?] at h

theorem reads_nonEmptyText {text : Text} (h : nonEmptyText? value = some text) :
    Rule.nonEmptyText.Reads value (.text text) := by
  obtain ⟨rfl, hne⟩ := eq_text_of_nonEmptyText? h
  exact .nonEmptyText text hne

theorem reads_limit {n : Option Int} (h : limit? value = some n) :
    Rule.wholeNumber.Reads value (.limit n) := by
  cases value with
  | null =>
    obtain rfl := Option.some.inj h
    exact .noLimit
  | int m =>
    obtain rfl := Option.some.inj h
    exact .limit m
  | _ => simp [limit?] at h

theorem reads_path {p : Path} (h : path? value = some p) : Rule.path.Reads value (.path p) := by
  obtain ⟨text, htext, rfl⟩ := Option.map_eq_some_iff.mp h
  obtain ⟨rfl, hne⟩ := eq_text_of_nonEmptyText? htext
  exact .path text hne

theorem reads_extensions {l : List Text} (h : extensions? value = some l) :
    Rule.extensions.Reads value (.extensions l) := by
  cases value with
  | list items =>
    rw [extensions?] at h
    split at h
    · rename_i hall
      obtain rfl := Option.some.inj h
      rw [List.all_eq_true] at hall
      have hitem (d : Datum) (hd : d ∈ items) :
          ∃ word, d = .text word ∧ word.toList.head? = some (.char '.') := by
        have hdot := of_decide_eq_true (hall d hd)
        cases d with
        | text word => exact ⟨word, rfl, hdot⟩
        | _ => simp [Datum.text?] at hdot
      have hitems := Datum.map_text_filterMap_text? fun d hd => (hitem d hd).imp fun _ h => h.1
      have hread := Rule.Reads.extensions (items.filterMap Datum.text?) fun word hword => by
        obtain ⟨d, hd, htext⟩ := List.mem_filterMap.mp hword
        obtain ⟨other, rfl, hdot⟩ := hitem d hd
        obtain rfl := Option.some.inj htext
        exact hdot
      rwa [hitems] at hread
    · cases h
  | _ => simp [extensions?] at h

theorem reads_temperature {x : Number} (h : temperature? value = some (.ok x)) :
    Rule.number.Reads value (.number x) := by
  cases value with
  | real y =>
    obtain rfl := Except.ok.inj (Option.some.inj h)
    exact .real y
  | int n =>
    rw [temperature?, Option.some.injEq] at h
    cases hlarge : (Float.ofInt n).isInf with
    | true => simp [hlarge] at h
    | false =>
      simp only [hlarge, Bool.false_eq_true, if_false] at h
      obtain rfl := Except.ok.inj h
      exact .whole n hlarge
  | _ => simp [temperature?] at h

/-- What setting a key comes to: a value that its rule admits is set as what it stands for, and all
else stays. Only a temperature can be admitted and still be refused. -/
inductive Assigns (source : Text) (s : Settings) (value : Datum) :
    Text → Except SettingsFault Settings → Prop where
  | unknown {key : Text} (hkey : Rule.ofKey? key = none) :
    Assigns source s value key (.error (.unknownKeys source [key]))
  | breaks {key : Text} {rule : Rule} (hrule : Rule.ofKey? key = some rule)
    (hbreaks : ¬ rule.Admits value) :
    Assigns source s value key (.error (.breaks key source rule))
  | overflows (hlarge : value.Overflows) :
    Assigns source s value "temperature" (.error .numberTooLarge)
  | set {key : Text} {rule : Rule} {v : Setting} {s' : Settings}
    (hrule : Rule.ofKey? key = some rule) (hadmits : rule.Admits value)
    (hsmall : ¬ (key = "temperature" ∧ value.Overflows)) (hreads : rule.Reads value v)
    (hroot : s'.root = s.root) (htable : s'.table = Keyed.set s.table key v) :
    Assigns source s value key (.ok s')

/-- A key whose value is set as it is read. -/
theorem assigns_given {α : Type} {rule : Rule} {read : Datum → Option α} {put : α → Settings}
    {kind : α → Setting} (hrule : Rule.ofKey? key = some rule) (hkey : key ≠ "temperature")
    (hnone : read value = none ↔ ¬ rule.Admits value)
    (hreads : ∀ {v}, read value = some v → rule.Reads value (kind v))
    (hroot : ∀ v, (put v).root = s.root)
    (htable : ∀ v, (put v).table = Keyed.set s.table key (kind v)) :
    Assigns source s value key (match read value with
      | some v => .ok (put v)
      | none => .error (.breaks key source rule)) := by
  cases hread : read value with
  | none => exact .breaks hrule (hnone.mp hread)
  | some v =>
    have hadmits : rule.Admits value :=
      Classical.byContradiction fun hbreaks => by simp [hnone.mpr hbreaks] at hread
    exact .set hrule hadmits (fun h => hkey h.1) (hreads hread) (hroot v) (htable v)

theorem assigns_temperature : Assigns source s value "temperature" (match temperature? value with
    | some (.ok v) => .ok { s with temperature := v }
    | some (.error f) => .error f
    | none => .error (.breaks "temperature" source .number)) := by
  have hrule : Rule.ofKey? "temperature" = some .number := rfl
  cases hread : temperature? value with
  | none => exact .breaks hrule (temperature?_eq_none_iff.mp hread)
  | some read =>
    have hadmits : Rule.number.Admits value :=
      Classical.byContradiction fun hbreaks => by
        simp [temperature?_eq_none_iff.mpr hbreaks] at hread
    cases read with
    | error f =>
      obtain ⟨hlarge, rfl⟩ := temperature?_eq_error_iff.mp hread
      exact .overflows hlarge
    | ok v =>
      refine .set hrule hadmits ?_ (reads_temperature hread) rfl rfl
      rintro ⟨-, hlarge⟩
      have herror := temperature?_eq_error_iff.mpr ⟨hlarge, rfl⟩
      simp [hread] at herror

theorem assigns_assign : Assigns source s value key (assign source s key value) := by
  by_cases hknown : key ∈ knownKeys
  · simp only [knownKeys, List.mem_cons, List.not_mem_nil, or_false] at hknown
    rcases hknown with rfl | rfl | rfl | rfl | rfl | rfl | rfl | rfl | rfl | rfl | rfl
    · exact assigns_given rfl (by decide) path?_eq_none_iff reads_path (fun _ => rfl) fun _ => rfl
    · exact assigns_given rfl (by decide) truth?_eq_none_iff reads_truth (fun _ => rfl) fun _ => rfl
    · exact assigns_given rfl (by decide) truth?_eq_none_iff reads_truth (fun _ => rfl) fun _ => rfl
    · exact assigns_given rfl (by decide) truth?_eq_none_iff reads_truth (fun _ => rfl) fun _ => rfl
    · exact assigns_given rfl (by decide) extensions?_eq_none_iff reads_extensions (fun _ => rfl)
        fun _ => rfl
    · exact assigns_given rfl (by decide) extensions?_eq_none_iff reads_extensions (fun _ => rfl)
        fun _ => rfl
    · exact assigns_given rfl (by decide) nonEmptyText?_eq_none_iff reads_nonEmptyText
        (fun _ => rfl) fun _ => rfl
    · exact assigns_temperature
    · exact assigns_given rfl (by decide) limit?_eq_none_iff reads_limit (fun _ => rfl) fun _ => rfl
    · exact assigns_given rfl (by decide) limit?_eq_none_iff reads_limit (fun _ => rfl) fun _ => rfl
    · exact assigns_given rfl (by decide) nonEmptyText?_eq_none_iff reads_nonEmptyText
        (fun _ => rfl) fun _ => rfl
  · have hnone := Rule.ofKey?_eq_none_iff.mpr hknown
    simp only [knownKeys, List.mem_cons, List.not_mem_nil, or_false, not_or] at hknown
    have hassign : assign source s key value = .error (.unknownKeys source [key]) := by
      simp [assign, hknown]
    rw [hassign]
    exact .unknown hnone

end Settings

end Synopsis
