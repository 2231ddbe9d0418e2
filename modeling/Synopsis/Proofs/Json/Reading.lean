import Synopsis.Proofs.Json.Fields
import Synopsis.Proofs.Json.Grammar
import Synopsis.Proofs.Json.Spelling

namespace Synopsis.Json

variable {stack stack' : List Frame} {focus focus' : Focus} {t : Token} {ts : List Token}
  {s : Text} {v : Json} {f : Fault}

/-- A text of tokens that denote a value. -/
def Written (s : Text) (v : Json) : Prop :=
  ∃ ts, Spells s.toList ts ∧ Denotes depthLimit ts v

theorem step_junk : step stack focus .junk = .error .malformed := by
  unfold step
  split <;> simp_all [startValue]

theorem exists_step_overlong (digits : Nat) :
    ∃ f, step stack focus (.overlong digits) = .error f := by
  unfold step
  split <;> simp_all [startValue]

theorem exists_run_error (hmem : t ∈ ts)
    (ht : ∀ (stack : List Frame) (focus : Focus), ∃ f, step stack focus t = .error f) :
    ∃ f, run stack focus ts = .error f := by
  induction ts generalizing stack focus with
  | nil => simp at hmem
  | cons u r ih =>
    rw [run]
    split
    · exact ⟨_, rfl⟩
    · rename_i hstep
      rcases List.mem_cons.mp hmem with rfl | hmem
      · obtain ⟨f, hf⟩ := ht stack focus
        simp [hf] at hstep
      · exact ih hmem

theorem not_mem_of_ofTokens (h : ofTokens ts = .ok v)
    (ht : ∀ (stack : List Frame) (focus : Focus), ∃ f, step stack focus t = .error f) :
    t ∉ ts := by
  intro hmem
  have hrun : ∃ f, run [] .value ts = .error f := exists_run_error hmem ht
  obtain ⟨f, hf⟩ := hrun
  simp [ofTokens, hf] at h

/-- A text is read as the value that it is written as, and no other text is read. -/
theorem read_eq_ok_iff : read s = .ok v ↔ Written s v := by
  constructor
  · intro h
    have hjunk : .junk ∉ scan .between s.toList :=
      not_mem_of_ofTokens h fun _ _ => ⟨_, step_junk⟩
    have hlong (digits : Nat) : .overlong digits ∉ scan .between s.toList :=
      not_mem_of_ofTokens h fun _ _ => exists_step_overlong digits
    exact ⟨_, spells_scan hjunk hlong, ofTokens_eq_ok_iff.mp h⟩
  · rintro ⟨ts, hspells, hdenotes⟩
    rw [read, scan_of_spells hspells]
    exact ofTokens_eq_ok_iff.mpr hdenotes

/-- How many more arrays and objects are open behind a token. -/
def Token.rise : Token → Int
  | .openObject => 1
  | .openArray => 1
  | .closeObject => -1
  | .closeArray => -1
  | _ => 0

/-- How many arrays and objects are open behind some tokens. -/
def nesting (ts : List Token) : Int := (ts.map Token.rise).sum

/-- The limit that a text goes beyond: it has a number of too many digits, or a bracket where too
many are open already. -/
inductive Exceeds (s : Text) : Fault → Prop where
  | overlong {digits : Nat} (h : .overlong digits ∈ scan .between s.toList)
    (hmany : digitLimit < digits) : Exceeds s (.overlong digits)
  | tooDeep {front rest : List Token} {inObject : Bool}
    (h : scan .between s.toList =
      front ++ (if inObject then .openObject else .openArray) :: rest)
    (hdeep : depthLimit ≤ nesting front) : Exceeds s (.tooDeep inObject)

/-- An object is open before a frame is there for it. -/
def Focus.rise : Focus → Int
  | .key .. => 1
  | .colon .. => 1
  | _ => 0

theorem rise_startValue (h : startValue stack t = .ok (stack', focus')) :
    stack'.length + focus'.rise = stack.length + t.rise := by
  unfold startValue at h
  split at h
  · obtain ⟨rfl, rfl⟩ := Prod.mk.inj (Except.ok.inj h)
    rfl
  · obtain ⟨rfl, rfl⟩ := Prod.mk.inj (Except.ok.inj h)
    rfl
  · simp at h
  · split at h
    · simp at h
    · obtain ⟨rfl, rfl⟩ := Prod.mk.inj (Except.ok.inj h)
      simp [Focus.rise, Token.rise]
  · split at h
    · simp at h
    · obtain ⟨rfl, rfl⟩ := Prod.mk.inj (Except.ok.inj h)
      rfl
  · simp at h

/-- A step opens and closes as many brackets as its token says. -/
theorem rise_step (h : step stack focus t = .ok (stack', focus')) :
    stack'.length + focus'.rise = stack.length + focus.rise + t.rise := by
  unfold step at h
  split at h
  · obtain ⟨rfl, rfl⟩ := Prod.mk.inj (Except.ok.inj h)
    simp [Focus.rise, Token.rise]
  · simpa [Focus.rise] using rise_startValue h
  · simpa [Focus.rise] using rise_startValue h
  case h_11 => simp at h
  all_goals
    obtain ⟨rfl, rfl⟩ := Prod.mk.inj (Except.ok.inj h)
    simp [Focus.rise, Token.rise]

theorem rise_run (h : run stack focus ts = .ok (stack', focus')) :
    stack'.length + focus'.rise = stack.length + focus.rise + nesting ts := by
  induction ts generalizing stack focus with
  | nil =>
    obtain ⟨rfl, rfl⟩ := Prod.mk.inj (Except.ok.inj h)
    simp [nesting]
  | cons t r ih =>
    rw [run] at h
    split at h
    · simp at h
    · rename_i hstep
      have hlater := ih h
      have hnow := rise_step hstep
      have hsum : nesting (t :: r) = t.rise + nesting r := by simp [nesting]
      omega

theorem startValue_eq_error (h : startValue stack t = .error f) : f = .malformed ∨
    (∃ digits, f = .overlong digits ∧ t = .overlong digits) ∨
    ∃ inObject : Bool, f = .tooDeep inObject ∧
      t = (if inObject then .openObject else .openArray) ∧ depthLimit ≤ stack.length := by
  unfold startValue at h
  split at h
  · simp at h
  · simp at h
  · rename_i digits
    exact .inr (.inl ⟨digits, (Except.error.inj h).symm, rfl⟩)
  · split at h
    · rename_i hdeep
      exact .inr (.inr ⟨false, (Except.error.inj h).symm, rfl, hdeep⟩)
    · simp at h
  · split at h
    · rename_i hdeep
      exact .inr (.inr ⟨true, (Except.error.inj h).symm, rfl, hdeep⟩)
    · simp at h
  · exact .inl (Except.error.inj h).symm

/-- Only where a value may start is there anything but malformed. -/
theorem step_eq_error (h : step stack focus t = .error f) :
    f = .malformed ∨ startValue stack t = .error f ∧ focus.rise = 0 := by
  unfold step at h
  split at h
  case h_2 => exact .inr ⟨h, rfl⟩
  case h_3 => exact .inr ⟨h, rfl⟩
  case h_11 => exact .inl (Except.error.inj h).symm
  all_goals simp at h

theorem run_eq_error (h : run stack focus ts = .error f) : ∃ front t rest stack' focus',
    ts = front ++ t :: rest ∧ run stack focus front = .ok (stack', focus') ∧
      step stack' focus' t = .error f := by
  induction ts generalizing stack focus with
  | nil => simp [run] at h
  | cons t r ih =>
    cases hstep : step stack focus t with
    | error e =>
      rw [run, hstep, Except.error.injEq] at h
      exact ⟨[], t, r, stack, focus, rfl, rfl, hstep.trans (congrArg Except.error h)⟩
    | ok next =>
      obtain ⟨stack₁, focus₁⟩ := next
      rw [run, hstep] at h
      obtain ⟨front, u, rest, stack', focus', rfl, hrun, hfails⟩ := ih h
      refine ⟨t :: front, u, rest, stack', focus', rfl, ?_, hfails⟩
      rw [run, hstep]
      exact hrun

theorem digitLimit_lt_of_scan {cs : List Rune} {mode : Mode} {digits : Nat}
    (h : .overlong digits ∈ scan mode cs) : digitLimit < digits := by
  have hword : (Token.overlong digits).IsWord := trivial
  obtain ⟨w, hw⟩ := eq_wordToken_of_scan hword h
  exact (wordToken_eq_overlong_iff.mp hw).1

/-- A text that is not read is malformed, as far as the reader gets, or goes beyond a limit. -/
theorem exceeds_of_read (h : read s = .error f) : f = .malformed ∨ Exceeds s f := by
  unfold read ofTokens at h
  split at h
  · simp at h
  · exact .inl (Except.error.inj h).symm
  · rename_i e hrun
    obtain rfl : e = f := Except.error.inj h
    obtain ⟨front, t, rest, stack', focus', hscan, hfront, hstep⟩ := run_eq_error hrun
    have hrise := rise_run hfront
    rcases step_eq_error hstep with hmalformed | ⟨hstart, hzero⟩
    · exact .inl hmalformed
    rcases startValue_eq_error hstart with hmalformed | ⟨digits, rfl, rfl⟩ | ⟨_, rfl, rfl, hdeep⟩
    · exact .inl hmalformed
    · have hmem : .overlong digits ∈ scan .between s.toList := by simp [hscan]
      exact .inr (.overlong hmem (digitLimit_lt_of_scan hmem))
    · refine .inr (.tooDeep hscan ?_)
      have hstarts : Focus.value.rise = 0 := rfl
      rw [hzero, hstarts, List.length_nil] at hrise
      omega

end Synopsis.Json
