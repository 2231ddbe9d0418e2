import Synopsis.Completion.Message
import Synopsis.Proofs.Json.Fields

namespace Synopsis

namespace Response

variable {r : Response} {c : Completion} {e : CompletionError} {f : WireFault}

/-- A body in a charset with units of more than one byte, the order of which neither the name of the
charset nor a mark at the start tells. -/
inductive Unordered (r : Response) (bits : Nat) : Prop where
  | intro (contentType : Text) (charset : Text.Charset) (hbody : r.body ≠ [])
    (htype : r.header? "Content-Type" = some contentType)
    (hcharset : Transfer.charset? contentType = some charset)
    (hunits : charset = .pairs none ∧ bits = 16 ∧ Text.Charset.markedOrder 2 r.body = none ∨
      charset = .quads none ∧ bits = 32 ∧ Text.Charset.markedOrder 4 r.body = none)

theorem read_eq_error_iff {charset : Text.Charset} {all : List UInt8} {g : Text.Charset.Fault} :
    charset.read all = .error g ↔ ∃ bits, g = .noMark bits ∧
      (charset = .pairs none ∧ bits = 16 ∧ Text.Charset.markedOrder 2 all = none ∨
        charset = .quads none ∧ bits = 32 ∧ Text.Charset.markedOrder 4 all = none) := by
  cases charset with
  | pairs order =>
    cases order with
    | none =>
      unfold Text.Charset.read
      cases Text.Charset.markedOrder 2 all <;> simp [eq_comm]
    | some highFirst => simp [Text.Charset.read]
  | quads order =>
    cases order with
    | none =>
      unfold Text.Charset.read
      cases Text.Charset.markedOrder 4 all <;> simp [eq_comm]
    | some highFirst => simp [Text.Charset.read]
  | utf8Marked =>
    simp only [Text.Charset.read]
    split <;> simp
  | _ => simp [Text.Charset.read]

theorem mapError_eq_error_iff {ε ε' α : Type} {g : ε → ε'} {x : Except ε α} {e : ε'} :
    x.mapError g = .error e ↔ ∃ d, x = .error d ∧ e = g d := by
  cases x with
  | ok a =>
    constructor
    · intro h
      cases h
    · rintro ⟨d, h, -⟩
      cases h
  | error d =>
    constructor
    · intro h
      exact ⟨d, rfl, (Except.error.inj h).symm⟩
    · rintro ⟨d', h, rfl⟩
      cases h
      rfl

theorem text_eq_error_iff :
    r.text = .error f ↔ ∃ bits, f = .charset (.noMark bits) ∧ r.Unordered bits := by
  unfold text
  by_cases hempty : r.body = []
  · rw [if_pos hempty]
    constructor
    · intro h
      cases h
    · rintro ⟨bits, -, h⟩
      cases h with
      | intro _ _ hbody _ _ _ => exact absurd hempty hbody
  · rw [if_neg hempty]
    simp only [mapError_eq_error_iff]
    constructor
    · rintro ⟨g, hread, rfl⟩
      obtain ⟨bits, rfl, hunits⟩ := read_eq_error_iff.mp hread
      refine ⟨bits, rfl, ?_⟩
      cases htype : r.header? "Content-Type" with
      | none => simp [htype] at hunits
      | some contentType =>
        cases hcharset : Transfer.charset? contentType with
        | none => simp [htype, hcharset] at hunits
        | some charset =>
          refine .intro contentType charset hempty htype hcharset ?_
          simpa [htype, hcharset] using hunits
    · rintro ⟨bits, rfl, h⟩
      cases h with
      | intro contentType charset _ htype hcharset hunits =>
        have hread : charset.read r.body = .error (.noMark bits) :=
          read_eq_error_iff.mpr ⟨bits, rfl, hunits⟩
        exact ⟨.noMark bits, by simp [htype, hcharset, hread], rfl⟩

/-- An object with an object under `error`: the words of the error are in it. -/
def TellsError (r : Response) : Prop :=
  ∃ fields words, r.json = .ok (.obj fields) ∧ Keyed.get? fields "error" = some (.obj words)

/-- Nesting too deep for it to be read. -/
def TooDeep (r : Response) (inObject : Bool) : Prop := r.json = .error (.tooDeep inObject)

theorem detail_eq_error_iff : r.detail = .error f ↔
    (∃ inObject, f = .excessive (.tooDeep inObject) ∧ r.TooDeep inObject) ∨
    ∃ bits, f = .charset (.noMark bits) ∧ (∀ inObject, ¬ r.TooDeep inObject) ∧ ¬ r.TellsError ∧
      r.Unordered bits := by
  have hwords {said : Text → Option Text} :
      r.text.map said = .error f ↔ ∃ bits, f = .charset (.noMark bits) ∧ r.Unordered bits := by
    rw [← text_eq_error_iff]
    cases r.text <;> simp [Except.map]
  unfold detail TellsError TooDeep
  cases hjson : r.json with
  | error g =>
    cases g with
    | tooDeep inObject => simp [eq_comm]
    | malformed => simpa using hwords
    | overlong digits => simpa using hwords
  | ok body =>
    cases body with
    | obj fields =>
      cases herror : Keyed.get? fields "error" with
      | none => simpa [Json.field?, herror] using hwords
      | some value =>
        cases value with
        | obj words => simp [Json.field?, herror]
        | _ => simpa [Json.field?, herror] using hwords
    | _ => simpa [Json.field?] using hwords

/-- The completion that a body holds: it is an object with a list of choices, and the message of the
first of them has a text as its content. -/
inductive Holds (r : Response) : Completion → Prop where
  | intro (fields choice message usage : List (Text × Json)) (others : List Json)
    (content : Text) (hbody : r.json = .ok (.obj fields))
    (hchoices : Keyed.get? fields "choices" = some (.arr (.obj choice :: others)))
    (hmessage : Keyed.get? choice "message" = some (.obj message))
    (hcontent : Keyed.get? message "content" = some (.str content))
    (husage : Keyed.get? fields "usage" = some (.obj usage) ∨
      usage = [] ∧ ∀ other, Keyed.get? fields "usage" ≠ some (.obj other)) :
    Holds r ⟨content, usage, (Keyed.get? choice "finish_reason").bind Json.str?⟩

theorem content_eq_some_iff {choice : List (Text × Json)} {content : Text} :
    ((Keyed.get? choice "message").bind fun m => m.field? "content").bind Json.str? =
        some content ↔
      ∃ message, Keyed.get? choice "message" = some (.obj message) ∧
        Keyed.get? message "content" = some (.str content) := by
  simp only [Option.bind_eq_some_iff, Json.str?_eq_some_iff, Json.field?_eq_some_iff]
  constructor
  · rintro ⟨value, ⟨m, hmessage, message, rfl, hfield⟩, rfl⟩
    exact ⟨message, hmessage, hfield⟩
  · rintro ⟨message, hmessage, hcontent⟩
    exact ⟨_, ⟨_, hmessage, message, rfl, hcontent⟩, rfl⟩

/-- How a body is read: it holds a completion, or it is at fault, or it nests too deep. -/
inductive Reads (r : Response) : Except CompletionError Completion → Prop where
  | completion (c : Completion) (h : r.Holds c) : Reads r (.ok c)
  | flawed (e : CompletionError) (hfamily : e.family? = some .configuration)
    (hnone : ∀ c, ¬ r.Holds c) (hdeep : ∀ inObject, ¬ r.TooDeep inObject) : Reads r (.error e)
  | deep (inObject : Bool) (h : r.TooDeep inObject) :
    Reads r (.error (.accident (.excessive (.tooDeep inObject))))

theorem reads_completionOfBody (r : Response) : r.Reads r.completionOfBody := by
  have hflawed {e : CompletionError} (hfamily : e.family? = some .configuration) {v : Json}
      (hjson : r.json = .ok v)
      (hnone : ∀ fields choice message content others, v = .obj fields →
        Keyed.get? fields "choices" = some (.arr (.obj choice :: others)) →
        Keyed.get? choice "message" = some (.obj message) →
        Keyed.get? message "content" ≠ some (.str content)) : r.Reads (.error e) := by
    refine .flawed e hfamily ?_ ?_
    · rintro c ⟨fields, choice, message, usage, others, content, hbody, hchoices, hmessage,
        hcontent, -⟩
      obtain rfl := Except.ok.inj (hjson.symm.trans hbody)
      exact hnone fields choice message content others rfl hchoices hmessage hcontent
    · intro inObject hdeep
      rw [TooDeep, hjson] at hdeep
      cases hdeep
  have hbroken {g : Json.Fault} (hjson : r.json = .error g)
      (hdeep : ∀ inObject, g ≠ .tooDeep inObject) : r.Reads (.error .notJson) := by
    refine .flawed _ rfl ?_ ?_
    · rintro c ⟨_, _, _, _, _, _, hbody, -⟩
      rw [hjson] at hbody
      cases hbody
    · intro inObject h
      rw [TooDeep, hjson] at h
      exact hdeep inObject (Except.error.inj h)
  unfold completionOfBody
  split
  · rename_i inObject hjson
    exact .deep inObject hjson
  · rename_i g hdeep hjson
    exact hbroken hjson hdeep
  · rename_i fields hjson
    split
    · rename_i choice others hchoices
      split
      · rename_i content hcontent
        obtain ⟨message, hmessage, htext⟩ := content_eq_some_iff.mp hcontent
        split
        · rename_i usage husage
          exact .completion _
            (.intro fields choice message usage others content hjson hchoices hmessage htext
              (.inl husage))
        · rename_i husage
          exact .completion _
            (.intro fields choice message [] others content hjson hchoices hmessage htext
              (.inr ⟨rfl, husage⟩))
      · rename_i hcontent
        refine hflawed rfl hjson ?_
        rintro _ _ message content _ ⟨rfl⟩ h hmessage htext
        rw [hchoices] at h
        obtain ⟨rfl, -⟩ : choice = _ ∧ others = _ := by simpa using h
        rw [content_eq_some_iff.mpr ⟨message, hmessage, htext⟩] at hcontent
        cases hcontent
    · rename_i hchoices
      refine hflawed rfl hjson ?_
      rintro _ choice message content others ⟨rfl⟩ h
      exact absurd h (hchoices choice others)
  · rename_i v hobject hjson
    refine hflawed rfl hjson ?_
    rintro fields _ _ _ _ rfl
    exact absurd rfl (hobject fields)

theorem holds_of_completionOfBody (h : r.completionOfBody = .ok c) : r.Holds c := by
  have hreads := reads_completionOfBody r
  rw [h] at hreads
  cases hreads with
  | completion _ hholds => exact hholds

/-- A body holds no two completions. -/
theorem Holds.unique {c' : Completion} (h : r.Holds c) (h' : r.Holds c') : c = c' := by
  obtain ⟨fields, choice, message, usage, others, content, hbody, hchoices, hmessage, hcontent,
    husage⟩ := h
  obtain ⟨fields', choice', message', usage', others', content', hbody', hchoices', hmessage',
    hcontent', husage'⟩ := h'
  obtain rfl : fields = fields' := by simpa [hbody] using hbody'
  obtain ⟨rfl, -⟩ : choice = choice' ∧ others = others' := by simpa [hchoices] using hchoices'
  obtain rfl : message = message' := by simpa [hmessage] using hmessage'
  obtain rfl : content = content' := by simpa [hcontent] using hcontent'
  obtain rfl : usage = usage' := by
    rcases husage with husage | ⟨rfl, hnone⟩
    · rcases husage' with husage' | ⟨-, hnone⟩
      · simpa [husage] using husage'
      · exact absurd husage (hnone usage)
    · rcases husage' with husage' | ⟨rfl, -⟩
      · exact absurd husage' (hnone usage')
      · rfl
  rfl

theorem completionOfBody_eq_ok_iff : r.completionOfBody = .ok c ↔ r.Holds c := by
  refine ⟨holds_of_completionOfBody, fun h => ?_⟩
  have hreads := reads_completionOfBody r
  cases hread : r.completionOfBody with
  | ok c' => rw [(holds_of_completionOfBody hread).unique h]
  | error e =>
    rw [hread] at hreads
    cases hreads with
    | flawed _ _ hnone _ => exact absurd h (hnone c)
    | deep inObject hdeep =>
      obtain ⟨_, _, _, _, _, _, hbody, -⟩ := h
      rw [TooDeep, hbody] at hdeep
      cases hdeep

/-- The family of the errors of a status that is no success. -/
def familyOf (status : Nat) : CompletionFamily :=
  if status = 401 ∨ status = 403 then .authentication
  else if status = 429 then .rateLimit
  else if 500 ≤ status then .transient
  else .other

/-- Why a response cannot be made out. -/
inductive Unread (r : Response) : WireFault → Prop where
  | deep (inObject : Bool) (hstatus : r.status ≠ 401 ∧ r.status ≠ 403)
    (hdeep : r.TooDeep inObject) : Unread r (.excessive (.tooDeep inObject))
  | unordered (bits : Nat) (hstatus : r.status ≠ 401 ∧ r.status ≠ 403) (hfailed : 400 ≤ r.status)
    (hdeep : ∀ inObject, ¬ r.TooDeep inObject) (hplain : ¬ r.TellsError)
    (hwords : r.Unordered bits) : Unread r (.charset (.noMark bits))

theorem Unread.unique {g : WireFault} (h : r.Unread f) (h' : r.Unread g) : f = g := by
  cases h with
  | deep inObject _ hdeep =>
    cases h' with
    | deep inObject' _ hdeep' =>
      rw [TooDeep, hdeep, Except.error.injEq, Json.Fault.tooDeep.injEq] at hdeep'
      rw [hdeep']
    | unordered _ _ _ hnone _ _ => exact absurd hdeep (hnone inObject)
  | unordered bits _ _ hnone _ hwords =>
    cases h' with
    | deep inObject' _ hdeep' => exact absurd hdeep' (hnone inObject')
    | unordered bits' _ _ _ _ hwords' =>
      have htext := text_eq_error_iff.mpr ⟨bits, rfl, hwords⟩
      have htext' := text_eq_error_iff.mpr ⟨bits', rfl, hwords'⟩
      exact Except.error.inj (htext.symm.trans htext')

theorem accident_completionOfBody_iff (hstatus : r.status ≠ 401 ∧ r.status ≠ 403)
    (hlow : r.status < 400) : r.completionOfBody = .error (.accident f) ↔ r.Unread f := by
  have hreads := reads_completionOfBody r
  constructor
  · intro h
    rw [h] at hreads
    cases hreads with
    | flawed _ hfamily _ _ => cases hfamily
    | deep inObject hdeep => exact .deep inObject hstatus hdeep
  · intro h
    cases h with
    | deep inObject _ hdeep => rw [completionOfBody, hdeep]
    | unordered _ _ hfailed _ _ _ => omega

theorem misread_completionOfBody_iff (hstatus : r.status ≠ 401 ∧ r.status ≠ 403)
    (hlow : r.status < 400) :
    (∃ e, r.completionOfBody = .error e ∧ e.family? = some .configuration) ↔
      (∀ c, ¬ r.Holds c) ∧ ∀ f, ¬ r.Unread f := by
  have hreads := reads_completionOfBody r
  constructor
  · rintro ⟨e, he, hfamily⟩
    refine ⟨fun c hc => ?_, fun f hf => ?_⟩
    · rw [completionOfBody_eq_ok_iff.mpr hc] at he
      cases he
    · rw [(accident_completionOfBody_iff hstatus hlow).mpr hf] at he
      cases he
      cases hfamily
  · rintro ⟨hnone, hread⟩
    cases hresult : r.completionOfBody with
    | ok c => exact absurd (completionOfBody_eq_ok_iff.mp hresult) (hnone c)
    | error e =>
      rw [hresult] at hreads
      cases hreads with
      | flawed _ hfamily _ _ => exact ⟨e, rfl, hfamily⟩
      | deep inObject hdeep => exact absurd (.deep inObject hstatus hdeep) (hread _)

theorem failure_cases (r : Response) (hstatus : r.status ≠ 401 ∧ r.status ≠ 403)
    (hfailed : 400 ≤ r.status) : (∃ f, r.failure = .accident f ∧ r.Unread f) ∨
      r.failure.family? = some (familyOf r.status) ∧ ∀ f, ¬ r.Unread f := by
  unfold failure
  cases hdetail : r.detail with
  | error f =>
    refine .inl ⟨f, rfl, ?_⟩
    rcases detail_eq_error_iff.mp hdetail with
      ⟨inObject, rfl, hdeep⟩ | ⟨bits, rfl, hdeep, hplain, hwords⟩
    · exact .deep inObject hstatus hdeep
    · exact .unordered bits hstatus hfailed hdeep hplain hwords
  | ok words =>
    refine .inr ⟨?_, fun f hunread => ?_⟩
    · simp only [familyOf, hstatus.1, hstatus.2, or_self, if_false]
      split
      · rfl
      · split <;> rfl
    · have herror : r.detail = .error f := by
        apply detail_eq_error_iff.mpr
        cases hunread with
        | deep inObject _ hdeep => exact .inl ⟨inObject, rfl, hdeep⟩
        | unordered bits _ _ hdeep hplain hwords =>
          exact .inr ⟨bits, rfl, hdeep, hplain, hwords⟩
      rw [hdetail] at herror
      cases herror

/-- What a response stands for. -/
structure Yields (r : Response) (result : Except CompletionError Completion) : Prop where
  failed : 400 ≤ r.status → (∀ f, ¬ r.Unread f) →
    ∃ e, result = .error e ∧ e.family? = some (familyOf r.status)
  completed (c : Completion) : r.status < 400 → (result = .ok c ↔ r.Holds c)
  misread : r.status < 400 → ((∃ e, result = .error e ∧ e.family? = some .configuration) ↔
    (∀ c, ¬ r.Holds c) ∧ ∀ f, ¬ r.Unread f)
  unread (f : WireFault) : result = .error (.accident f) ↔ r.Unread f

/-- A response stands for a completion if its body is an object with a text in the first of its
choices, and else for an error of the family that its status tells, unless it cannot be made out. -/
theorem yields_completion (r : Response) : r.Yields r.completion := by
  by_cases hkey : r.status = 401 ∨ r.status = 403
  · have hread (f : WireFault) : ¬ r.Unread f := by
      intro h
      cases h with
      | deep _ hstatus _ => omega
      | unordered _ hstatus _ _ _ _ => omega
    have hresult : ∃ e, r.completion = .error e ∧ e.family? = some .authentication := by
      unfold completion
      rcases hkey with h | h <;> simp [h, CompletionError.family?]
    obtain ⟨e, he, hfamily⟩ := hresult
    refine ⟨fun _ _ => ⟨e, he, ?_⟩, fun _ _ => by omega, fun _ => by omega, fun f => ?_⟩
    · rw [hfamily, familyOf, if_pos hkey]
    · refine ⟨fun h => ?_, fun h => absurd h (hread f)⟩
      rw [he, Except.error.injEq] at h
      simp [h, CompletionError.family?] at hfamily
  · have hstatus : r.status ≠ 401 ∧ r.status ≠ 403 := not_or.mp hkey
    by_cases hlow : r.status < 400
    · have heq : r.completion = r.completionOfBody := by
        rw [completion, if_neg hstatus.1, if_neg hstatus.2, if_pos hlow]
      rw [heq]
      refine ⟨fun h => by omega, fun c _ => completionOfBody_eq_ok_iff, fun _ => ?_, fun f => ?_⟩
      · exact misread_completionOfBody_iff hstatus hlow
      · exact accident_completionOfBody_iff hstatus hlow
    · have heq : r.completion = .error r.failure := by
        rw [completion, if_neg hstatus.1, if_neg hstatus.2, if_neg hlow]
      rw [heq]
      have hfailed : 400 ≤ r.status := by omega
      refine ⟨fun _ hread => ?_, fun _ h => by omega, fun h => by omega, fun f => ?_⟩
      · obtain ⟨f, -, hunread⟩ | ⟨hfamily, -⟩ := failure_cases r hstatus hfailed
        · exact absurd hunread (hread f)
        · exact ⟨r.failure, rfl, hfamily⟩
      · obtain ⟨g, hfailure, hunread⟩ | ⟨hfamily, hread⟩ := failure_cases r hstatus hfailed
        · constructor
          · intro h
            obtain rfl : g = f := by simpa [hfailure] using h
            exact hunread
          · intro h
            rw [hfailure, h.unique hunread]
        · refine ⟨fun h => ?_, fun h => absurd h (hread f)⟩
          rw [Except.error.inj h] at hfamily
          cases hfamily

end Response

end Synopsis
