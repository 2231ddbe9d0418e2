import Synopsis.Completion.Client
import Synopsis.Proofs.Completion.Response
import Synopsis.Proofs.Completion.Retry

namespace Synopsis

/-- What an exchange stands for, if it settles the matter. -/
inductive Exchange.Yields : Exchange → Except CompletionError Completion → Prop where
  | response (r : Response) (result : Except CompletionError Completion) (h : r.Yields result) :
    Yields (.response r) result
  | fault (timedOut : Bool) (e : CompletionError) (hfamily : e.family? = some .transient)
    (hwording : e.message = "OpenRouter request timed out after retries" ↔ timedOut = true) :
    Yields (.fault timedOut) (.error e)
  | accident (f : WireFault) : Yields (.accident f) (.error (.accident f))

theorem Exchange.yields_completion (e : Exchange) : e.Yields e.completion := by
  cases e with
  | response r => exact .response r _ r.yields_completion
  | fault timedOut =>
    cases timedOut with
    | true => exact .fault true _ rfl (by decide +kernel)
    | false => exact .fault false _ rfl (by decide +kernel)
  | accident f => exact .accident f

/-- An exchange that can be made out. -/
def Exchange.Legible : Exchange → Prop
  | .response r => ∀ f, ¬ r.Unread f
  | .fault _ => True
  | .accident _ => False

theorem Exchange.accident_iff (e : Exchange) :
    (∃ f, e.completion = .error (.accident f)) ↔ ¬ e.Legible := by
  cases e with
  | response r =>
    simp only [Legible, Classical.not_forall, Classical.not_not, completion,
      r.yields_completion.unread]
  | fault timedOut => cases timedOut <;> simp [completion, Legible]
  | accident f => simp [completion, Legible]

namespace Client

variable {c : Client} {key base : Text} {referer title : Option Text} {maxRetries : Int}
  {r : ChatRequest} {w : Wire}

/-- The failure that a call came to, if it came to one. -/
def failure? {α : Type} : Except CompletionError α → Option CompletionError
  | .ok _ => none
  | .error e => some e

theorem failure?_eq_some_iff {α : Type} {result : Except CompletionError α} {e : CompletionError} :
    failure? result = some e ↔ result = .error e := by
  cases result <;> simp [failure?]

/-- Fewer repetitions than none are none. -/
theorem policy_of_create (h : create key base referer title maxRetries = .ok c) :
    c.policy = { RetryPolicy.standard with maxRetries := maxRetries.toNat } := by
  unfold create at h
  split at h
  · simp at h
  · simp only at h
    split at h
    · simp at h
    · split at h
      · simp at h
      · rw [← Except.ok.inj h]

/-- What a client does not put up with in a response: headers that are not in ASCII, and an address
to go to that cannot be gone to. It does not get as far as that from an address without a scheme. -/
inductive Balks (c : Client) (r : Response) : WireFault → Prop where
  | header (f : Text.EncodingFault)
    (h : (r.headers.flatMap fun e => [e.1, e.2]).findSome? Text.Encoding.ascii.fault? = some f) :
    Balks c r (.header f)
  | noScheme (body : List UInt8)
    (hascii : (r.headers.flatMap fun e => [e.1, e.2]).findSome? Text.Encoding.ascii.fault? = none)
    (hbody : Transfer.decodedBody? ((r.header? "Content-Encoding").getD "") r.body = some body)
    (hscheme : c.address.hasScheme = false) : Balks c r (.noScheme c.address.named)
  | target (body : List UInt8)
    (hascii : (r.headers.flatMap fun e => [e.1, e.2]).findSome? Text.Encoding.ascii.fault? = none)
    (hbody : Transfer.decodedBody? ((r.header? "Content-Encoding").getD "") r.body = some body)
    (hscheme : c.address.hasScheme = true) (hstatus : r.status ∈ [301, 302, 303, 307, 308])
    (location : Text) (hlocation : r.header? "Location" = some location) (next : Address)
    (hnext : Address.ofText location = .ok next) (f : AddressFault)
    (hleads : c.address.leadsTo next = .error f) : Balks c r (.address f)

theorem checkTarget_eq_accident_iff {r : Response} {f : WireFault} :
    c.checkTarget r = .accident f ↔ r.status ∈ [301, 302, 303, 307, 308] ∧
      ∃ location next g, r.header? "Location" = some location ∧
        Address.ofText location = .ok next ∧ c.address.leadsTo next = .error g ∧
        f = .address g := by
  unfold checkTarget
  by_cases hstatus : r.status ∈ [301, 302, 303, 307, 308]
  · rw [if_pos hstatus]
    cases hlocation : r.header? "Location" with
    | none => simp
    | some location =>
      cases hnext : Address.ofText location with
      | error g => simp [hnext]
      | ok next =>
        cases hleads : c.address.leadsTo next with
        | error g => simp [hnext, hleads, hstatus, eq_comm]
        | ok _ => simp [hnext, hleads]
  · rw [if_neg hstatus]
    simp [hstatus]

theorem receive_eq_accident_iff {r : Response} {f : WireFault} :
    c.receive (.response r) = .accident f ↔ c.Balks r f := by
  constructor
  · intro h
    unfold receive at h
    cases hascii : (r.headers.flatMap fun e => [e.1, e.2]).findSome?
        Text.Encoding.ascii.fault? with
    | some g =>
      simp only [hascii, Exchange.accident.injEq] at h
      rw [← h]
      exact .header g hascii
    | none =>
      cases hbody : Transfer.decodedBody? ((r.header? "Content-Encoding").getD "") r.body with
      | none => simp [hascii, hbody] at h
      | some body =>
        simp only [hascii, hbody] at h
        cases hscheme : c.address.hasScheme with
        | false =>
          simp only [hscheme, Bool.false_eq_true, if_false, Exchange.accident.injEq] at h
          rw [← h]
          exact .noScheme body hascii hbody hscheme
        | true =>
          rw [hscheme, if_pos rfl] at h
          obtain ⟨hstatus, location, next, g, hlocation, hnext, hleads, rfl⟩ :=
            checkTarget_eq_accident_iff.mp h
          exact .target body hascii hbody hscheme hstatus location hlocation next hnext g hleads
  · intro h
    cases h with
    | header g h => rw [receive, h]
    | noScheme body hascii hbody hscheme =>
      simp only [receive, hascii, hbody, hscheme, Bool.false_eq_true, if_false]
    | target body hascii hbody hscheme hstatus location hlocation next hnext g hleads =>
      simp only [receive, hascii, hbody, hscheme, if_true]
      exact checkTarget_eq_accident_iff.mpr
        ⟨hstatus, location, next, g, hlocation, hnext, hleads, rfl⟩

/-- The exchanges to come, as a client takes them. -/
def outcome (c : Client) (w : Wire) (n : Nat) : Exchange := c.receive (w.exchange (w.sent + n))

/-- How a request is sent: how often, after which pauses, and what it comes to. -/
structure Completes (c : Client) (r : ChatRequest) (w : Wire) (k : Nat) (pauses : List Number) :
    Prop where
  decides : c.policy.Decides (c.outcome w) k
  paused : c.policy.Pauses w.jitter (c.outcome w) pauses k
  yields : (c.outcome w k).Yields (c.complete r w).1
  alone : (c.complete r w).1 = (c.outcome w k).completion
  events : (c.complete r w).2.1 = .posted (c.webRequest r) ::
    pauses.flatMap fun pause => [.slept pause, .posted (c.webRequest r)]
  wire : (c.complete r w).2.2 = { w with sent := w.sent + (k + 1) }

theorem completes_of_paces (hp : c.policy.Paces w.jitter)
    (hsend : (c.webRequest r).isSendable = true) : ∃ k pauses, c.Completes r w k pauses := by
  obtain ⟨k, hdecides, hsettled, hpauses⟩ := RetryPolicy.settle_spec hp (c.outcome w)
  have hcall : c.complete r w = ((c.outcome w k).completion,
      .posted (c.webRequest r) ::
        (c.policy.settle w.jitter (c.outcome w) c.policy.maxRetries 0).1.flatMap
          fun pause => [.slept pause, .posted (c.webRequest r)],
      { w with sent := w.sent + (k + 1) }) := by
    rw [complete, hsend, ← hsettled, ← hpauses.1]
    rfl
  refine ⟨k, _, hdecides, hpauses, ?_, ?_, ?_, ?_⟩
  · rw [hcall]
    exact (c.outcome w k).yields_completion
  all_goals rw [hcall]

/-- A request is sent until an exchange settles the matter, with a pause before each time but the
first, and what it comes to depends on that exchange alone. -/
theorem complete_spec (hcreate : create key base referer title maxRetries = .ok c)
    (hsend : (c.webRequest r).isSendable = true) {x : Float} (hjitter : w.jitter = .real x) :
    c.policy = { RetryPolicy.standard with maxRetries := maxRetries.toNat } ∧
      ∃ k pauses, c.Completes r w k pauses := by
  have hpolicy := policy_of_create hcreate
  refine ⟨hpolicy, completes_of_paces ?_ hsend⟩
  rw [hpolicy, hjitter]
  exact RetryPolicy.paces_standard _ x

/-- A request without messages. -/
def bare : ChatRequest := ⟨"m", [], .real 0.0, none, none, []⟩

def answering (e : Exchange) : Wire := ⟨fun _ => e, 0, .real 1.0⟩

/-- A service that is never reached. -/
theorem complete_spec_unreachable : ∃ c, create "k" standardUrl none none (-1) = .ok c ∧
    (c.webRequest bare).isSendable = true ∧
    c.policy = { RetryPolicy.standard with maxRetries := 0 } ∧
    ∃ k pauses, c.Completes bare (answering (.fault false)) k pauses := by
  have hmade : (create "k" standardUrl none none (-1)).toOption.isSome = true := by decide +kernel
  have hsend : bare.payload.isFinite = true := by decide +kernel
  cases hcreate : create "k" standardUrl none none (-1) with
  | error e => simp [hcreate, Except.toOption] at hmade
  | ok c => exact ⟨c, rfl, hsend, complete_spec hcreate hsend rfl⟩

/-- A response of a failed request, in a charset with units of two bytes, without a mark that tells
their order. -/
def unmarked : Response :=
  ⟨400, [("Content-Type", "text/plain; charset=utf-16")], [0x61, 0x62]⟩

/-- Its words cannot be made out, and this is no error of any family. -/
theorem not_refused_of_complete : ∃ c, create "k" standardUrl none none 3 = .ok c ∧
    (c.webRequest bare).isSendable = true ∧
    (c.complete bare (answering (.response unmarked))).1 =
      .error (.accident (.charset (.noMark 16))) := by
  have hrun : (create "k" standardUrl none none 3).toOption.map
      (fun c => failure? (c.complete bare (answering (.response unmarked))).1) =
        some (some (.accident (.charset (.noMark 16)))) := by decide +kernel
  have hsend : bare.payload.isFinite = true := by decide +kernel
  cases hcreate : create "k" standardUrl none none 3 with
  | error e => simp [hcreate, Except.toOption] at hrun
  | ok c =>
    rw [hcreate] at hrun
    exact ⟨c, rfl, hsend, failure?_eq_some_iff.mp (Option.some.inj hrun)⟩

end Client

end Synopsis
