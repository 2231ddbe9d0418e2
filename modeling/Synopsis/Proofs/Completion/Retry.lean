import Synopsis.Completion.Retry

namespace Synopsis

namespace Number

/-- A number with a fraction makes one of every number that it is multiplied with, unless that is
too large. -/
theorem times?_real {a : Number} (h : a.toFloat?.isSome = true) (x : Float) :
    ∃ y, a.times? (.real x) = some (.real y) := by
  obtain ⟨z, hz⟩ := Option.isSome_iff_exists.mp h
  have hx : (real x).toFloat? = some x := rfl
  refine ⟨z * x, ?_⟩
  cases a <;> simp only [times?, combine?, hz, hx]

theorem plus?_real (x y : Float) : (real x).plus? (.real y) = some (.real (x + y)) := rfl

theorem isLess_sixteen {n : Int} (h : 16 < n) : (real 16.0).isLess (.whole n) = true := by
  have hnan : (16.0 : Float).isNaN = false := by decide +kernel
  have hinf : (16.0 : Float).isInf = false := by decide +kernel
  have hpart : wholePart 16.0 = 16 := by decide +kernel
  have hne : n ≠ 16 := by omega
  have hnot : ¬ n < 16 := by omega
  have hbelow : (false == decide (n < 16)) = true := by simp [hnot]
  rw [isLess, compareWhole, hnan, hinf, hpart, if_neg Bool.false_ne_true,
    if_neg Bool.false_ne_true]
  simp only [ne_eq, hne, not_false_eq_true, if_true]
  exact hbelow

/-- Powers of two count up to sixteen. -/
theorem toFloat?_least_twoToThe (n : Nat) :
    ((twoToThe n).least (.real 16.0)).toFloat?.isSome = true := by
  have hpower : twoToThe n = .whole (Nat.pow 2 n) := by simp [twoToThe]
  rcases Nat.lt_or_ge n 5 with hfew | hmany
  · have hsmall : ∀ m < 5, ((twoToThe (m : Nat)).least (.real 16.0)).toFloat?.isSome = true := by
      decide +kernel
    exact hsmall n hfew
  · have hlarge : (16 : Int) < Nat.pow 2 n := by
      have hpow : Nat.pow 2 5 ≤ Nat.pow 2 n := Nat.pow_le_pow_right (by decide) hmany
      have hvalue : Nat.pow 2 5 = 32 := by decide
      omega
    rw [hpower, least, if_pos (isLess_sixteen hlarge)]
    rfl

end Number

namespace RetryPolicy

variable {p : RetryPolicy} {jitter : Number} {exchange : Nat → Exchange}

/-- Every pause can be computed. -/
def Paces (p : RetryPolicy) (jitter : Number) : Prop :=
  ∀ (attempt : Nat) (retryAfter : Option Text),
    ∃ pause, p.delay jitter attempt retryAfter = .ok pause

theorem paces_standard (maxRetries : Nat) (x : Float) :
    { standard with maxRetries }.Paces (.real x) := by
  intro attempt retryAfter
  obtain ⟨y, hy⟩ := Number.times?_real (Number.toFloat?_least_twoToThe attempt) x
  have hwait : ((Number.twoToThe attempt).least standard.maxBackoff).times? (.real x) =
      some (.real y) := hy
  cases hmore : retryAfter.bind readFloat? with
  | none =>
    refine ⟨standard.minDelay.greatest (.real y), ?_⟩
    simp only [delay, hwait, hmore]
  | some more =>
    refine ⟨standard.minDelay.greatest (.real (y + more)), ?_⟩
    simp only [delay, hwait, hmore, Option.bind_some, Number.plus?_real]

/-- Whether a request is worth sending again after an exchange. -/
def Repeats (p : RetryPolicy) : Exchange → Prop
  | .response r => r.status ∈ p.statuses
  | .fault _ => True
  | .accident _ => False

theorem pause?_of_not_repeats {e : Exchange} (h : ¬ p.Repeats e) (jitter : Number)
    (attempt : Nat) : p.pause? jitter attempt e = none := by
  cases e with
  | response r =>
    rw [pause?, if_neg]
    exact h
  | fault timedOut => exact absurd trivial h
  | accident f => rfl

theorem pause?_of_repeats (hp : p.Paces jitter) {e : Exchange} (h : p.Repeats e) (attempt : Nat) :
    ∃ pause, p.pause? jitter attempt e = some (.ok pause) := by
  cases e with
  | response r =>
    obtain ⟨pause, hpause⟩ := hp attempt (r.header? "Retry-After")
    exact ⟨pause, by rw [pause?, if_pos (show r.status ∈ p.statuses from h), hpause]⟩
  | fault timedOut =>
    obtain ⟨pause, hpause⟩ := hp attempt none
    exact ⟨pause, by rw [pause?, hpause]⟩
  | accident f => exact h.elim

/-- The exchange that settles the matter, told by its number: all before it were worth repeating,
and it is not, or may not be repeated once more. -/
structure Decides (p : RetryPolicy) (exchange : Nat → Exchange) (k : Nat) : Prop where
  allowed : k ≤ p.maxRetries
  before : ∀ n < k, p.Repeats (exchange n)
  last : k < p.maxRetries → ¬ p.Repeats (exchange k)

theorem Decides.unique {k k' : Nat} (h : p.Decides exchange k) (h' : p.Decides exchange k') :
    k = k' := by
  rcases Nat.lt_trichotomy k k' with hlt | heq | hlt
  · have hallowed := h'.allowed
    exact absurd (h'.before k hlt) (h.last (by omega))
  · exact heq
  · have hallowed := h.allowed
    exact absurd (h.before k' hlt) (h'.last (by omega))

/-- The pauses in front of the exchange of some number, each of them the one that is due. -/
def Pauses (p : RetryPolicy) (jitter : Number) (exchange : Nat → Exchange) (pauses : List Number)
    (k : Nat) : Prop :=
  pauses.length = k ∧
    ∀ n < k, ∃ pause, pauses[n]? = some pause ∧ p.pause? jitter n (exchange n) = some (.ok pause)

/-- With the exchanges counted from a later one on. -/
theorem settle_from (hp : p.Paces jitter) (exchange : Nat → Exchange) (left attempt : Nat) :
    ∃ k ≤ left,
    (∀ n < k, p.Repeats (exchange (attempt + n))) ∧
    (k < left → ¬ p.Repeats (exchange (attempt + k))) ∧
    (p.settle jitter exchange left attempt).2 = exchange (attempt + k) ∧
    (p.settle jitter exchange left attempt).1.length = k ∧
    ∀ n < k, ∃ pause, (p.settle jitter exchange left attempt).1[n]? = some pause ∧
      p.pause? jitter (attempt + n) (exchange (attempt + n)) = some (.ok pause) := by
  induction left generalizing attempt with
  | zero => exact ⟨0, Nat.le_refl 0, by simp, by simp, rfl, rfl, by simp⟩
  | succ left ih =>
    by_cases hrepeats : p.Repeats (exchange attempt)
    · obtain ⟨pause, hpause⟩ := pause?_of_repeats hp hrepeats attempt
      obtain ⟨k, hk, hbefore, hlast, hsettled, hlength, hpauses⟩ := ih (attempt + 1)
      have hnext (n : Nat) : attempt + 1 + n = attempt + (n + 1) := by omega
      have hstep : p.settle jitter exchange (left + 1) attempt =
          (pause :: (p.settle jitter exchange left (attempt + 1)).1,
            (p.settle jitter exchange left (attempt + 1)).2) := by
        rw [settle, hpause]
      simp only [hnext] at hbefore hlast hsettled hpauses
      refine ⟨k + 1, by omega, ?_, fun hlt => hlast (by omega), ?_, ?_, ?_⟩
      · intro n hn
        cases n with
        | zero => exact hrepeats
        | succ n => exact hbefore n (by omega)
      · rw [hstep, hsettled]
      · rw [hstep, List.length_cons, hlength]
      · intro n hn
        rw [hstep]
        cases n with
        | zero => exact ⟨pause, rfl, hpause⟩
        | succ n => exact hpauses n (by omega)
    · refine ⟨0, Nat.zero_le _, by simp, fun _ => hrepeats, ?_, ?_, by simp⟩
      · rw [settle, pause?_of_not_repeats hrepeats]
        rfl
      · rw [settle, pause?_of_not_repeats hrepeats]
        rfl

/-- The exchange that counts is the first that is not worth repeating, or the last that is allowed.
Between two requests there is one pause, and behind the last there is none. -/
theorem settle_spec (hp : p.Paces jitter) (exchange : Nat → Exchange) :
    ∃ k, p.Decides exchange k ∧
      (p.settle jitter exchange p.maxRetries 0).2 = exchange k ∧
      p.Pauses jitter exchange (p.settle jitter exchange p.maxRetries 0).1 k := by
  obtain ⟨k, hk, hbefore, hlast, hsettled, hlength, hpauses⟩ :=
    settle_from hp exchange p.maxRetries 0
  simp only [Nat.zero_add] at hbefore hlast hsettled hpauses
  exact ⟨k, ⟨hk, hbefore, hlast⟩, hsettled, hlength, hpauses⟩

end RetryPolicy

end Synopsis
