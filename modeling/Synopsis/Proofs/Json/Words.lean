import Synopsis.Json.Token

namespace Synopsis.Json

def Digits (cs : List Rune) : Prop := cs ≠ [] ∧ ∀ c ∈ cs, c.isDigit = true

/-- A text that does not start with a digit. -/
def NoDigit (cs : List Rune) : Prop := ∀ c ∈ cs.head?, c.isDigit = false

theorem dropWhile_isDigit {ds r : List Rune} (h : ∀ c ∈ ds, c.isDigit = true) (hr : NoDigit r) :
    (ds ++ r).dropWhile Rune.isDigit = r := by
  induction ds with
  | nil =>
    cases r with
    | nil => rfl
    | cons c r =>
      have hc : c.isDigit = false := hr c rfl
      simp [hc]
  | cons d ds ih =>
    have hd : d.isDigit = true := h d List.mem_cons_self
    simpa [hd] using ih fun c hc => h c (List.mem_cons_of_mem _ hc)

theorem noDigit_dropWhile (cs : List Rune) : NoDigit (cs.dropWhile Rune.isDigit) := by
  induction cs with
  | nil => simp [NoDigit]
  | cons c r ih =>
    cases hc : c.isDigit with
    | true => simpa [hc] using ih
    | false => simp [NoDigit, hc]

theorem afterDigits?_eq_some_iff {cs r : List Rune} :
    afterDigits? cs = some r ↔ ∃ ds, Digits ds ∧ NoDigit r ∧ cs = ds ++ r := by
  unfold afterDigits?
  constructor
  · intro h
    split at h
    · rename_i hhead
      obtain rfl := Option.some.inj h
      refine ⟨cs.takeWhile Rune.isDigit, ⟨?_, fun c hc => ?_⟩, noDigit_dropWhile cs,
        List.takeWhile_append_dropWhile.symm⟩
      · cases cs with
        | nil => simp at hhead
        | cons c r =>
          have hc : c.isDigit = true := by simpa using hhead
          simp [hc]
      · exact List.all_eq_true.mp List.all_takeWhile c hc
    · simp at h
  · rintro ⟨ds, ⟨hne, hds⟩, hr, rfl⟩
    cases ds with
    | nil => exact absurd rfl hne
    | cons d ds =>
      have hd : d.isDigit = true := hds d List.mem_cons_self
      rw [if_pos (by simp [hd]), dropWhile_isDigit hds hr]

/-- A power of ten behind a number. -/
structure Power where
  letter : Rune
  sign : Option Rune
  digits : List Rune

namespace Power

structure Lawful (e : Power) : Prop where
  letter : e.letter = 'e' ∨ e.letter = 'E'
  sign : e.sign = none ∨ e.sign = some (.char '+') ∨ e.sign = some (.char '-')
  digits : Digits e.digits

def chars (e : Power) : List Rune := e.letter :: (e.sign.toList ++ e.digits)

end Power

/-- The parts of a number. -/
structure Numeral where
  minus : Bool
  whole : List Rune
  fraction : Option (List Rune)
  power : Option Power

namespace Numeral

/-- No zero stands in front of other digits, and a point has digits on both sides. -/
structure Lawful (n : Numeral) : Prop where
  whole : n.whole = [.char '0'] ∨ Digits n.whole ∧ n.whole.head? ≠ some (.char '0')
  fraction : ∀ ds ∈ n.fraction, Digits ds
  power : ∀ e ∈ n.power, e.Lawful

def sign (n : Numeral) : List Rune := if n.minus then [.char '-'] else []

def point (n : Numeral) : List Rune := (n.fraction.map (.char '.' :: ·)).getD []

def scale (n : Numeral) : List Rune := (n.power.map Power.chars).getD []

def chars (n : Numeral) : List Rune := n.sign ++ (n.whole ++ (n.point ++ n.scale))

variable {n : Numeral}

theorem Lawful.digits (h : n.Lawful) : Digits n.whole := by
  rcases h.whole with hzero | ⟨hdigits, -⟩
  · rw [hzero]
    refine ⟨by simp, fun c hc => ?_⟩
    rw [List.mem_singleton.mp hc]
    rfl
  · exact hdigits

theorem Lawful.noDigit_scale (h : n.Lawful) : NoDigit n.scale := by
  unfold scale
  cases hpower : n.power with
  | none => simp [NoDigit]
  | some e =>
    intro c hc
    obtain rfl : e.letter = c := by simpa [Power.chars] using hc
    rcases (h.power e hpower).letter with hletter | hletter <;> rw [hletter] <;> decide

theorem Lawful.noDigit_point (h : n.Lawful) : NoDigit (n.point ++ n.scale) := by
  unfold point
  cases hfraction : n.fraction with
  | none => simpa [hfraction] using h.noDigit_scale
  | some ds =>
    intro c hc
    obtain rfl : '.' = c := by simpa [hfraction] using hc
    decide

end Numeral

theorem afterWhole?_eq_some_iff {cs r : List Rune} : afterWhole? cs = some r ↔ ∃ whole,
    (whole = [.char '0'] ∨ Digits whole ∧ whole.head? ≠ some (.char '0') ∧ NoDigit r) ∧
      cs = whole ++ r := by
  constructor
  · intro h
    unfold afterWhole? at h
    split at h
    · rename_i rest
      obtain rfl := Option.some.inj h
      exact ⟨[.char '0'], .inl rfl, rfl⟩
    · rename_i hzero
      obtain ⟨ds, hds, hr, rfl⟩ := afterDigits?_eq_some_iff.mp h
      refine ⟨ds, .inr ⟨hds, ?_, hr⟩, rfl⟩
      cases ds with
      | nil => exact absurd rfl hds.1
      | cons d ds =>
        intro hhead
        obtain rfl : d = '0' := by simpa using hhead
        exact hzero _ rfl
  · rintro ⟨whole, rfl | ⟨hds, hzero, hr⟩, rfl⟩
    · rfl
    · unfold afterWhole?
      split
      · rename_i rest hcs
        cases whole with
        | nil => exact absurd rfl hds.1
        | cons d ds =>
          obtain ⟨rfl, -⟩ : d = '0' ∧ _ := by simpa using hcs
          exact absurd rfl hzero
      · exact afterDigits?_eq_some_iff.mpr ⟨whole, hds, hr, rfl⟩

theorem afterFraction?_eq_some_iff {cs r : List Rune} : afterFraction? cs = some r ↔
    (cs.head? ≠ some (.char '.') ∧ r = cs) ∨
      ∃ ds, Digits ds ∧ NoDigit r ∧ cs = .char '.' :: (ds ++ r) := by
  unfold afterFraction?
  split
  · rename_i rest
    rw [afterDigits?_eq_some_iff]
    simp
  · rename_i hpoint
    have hhead : cs.head? ≠ some (.char '.') := by
      cases cs with
      | nil => simp
      | cons c rest =>
        intro h
        obtain rfl : c = '.' := by simpa using h
        exact hpoint rest rfl
    simp only [Option.some.injEq, hhead, ne_eq, not_false_eq_true, true_and]
    constructor
    · rintro rfl
      exact .inl rfl
    · rintro (rfl | ⟨ds, -, -, rfl⟩)
      · rfl
      · exact absurd rfl (hpoint _)

theorem sign_cases (cs : List Rune) : ∃ sign : Option Rune,
    (sign = none ∨ sign = some (.char '+') ∨ sign = some (.char '-')) ∧
      cs = sign.toList ++ (Decimal.sign cs).2 := by
  unfold Decimal.sign
  split
  · exact ⟨some (.char '-'), by simp, rfl⟩
  · exact ⟨some (.char '+'), by simp, rfl⟩
  · exact ⟨none, by simp, rfl⟩

theorem sign_append {sign : Option Rune}
    (h : sign = none ∨ sign = some (.char '+') ∨ sign = some (.char '-'))
    {ds : List Rune} (hds : Digits ds) (r : List Rune) :
    Decimal.sign (sign.toList ++ (ds ++ r)) = (decide (sign = some (.char '-')), ds ++ r) := by
  obtain ⟨hne, hdigits⟩ := hds
  rcases h with rfl | rfl | rfl
  · cases ds with
    | nil => exact absurd rfl hne
    | cons d ds =>
      have hd := hdigits d List.mem_cons_self
      unfold Decimal.sign
      split
      · rename_i heq
        obtain ⟨rfl, -⟩ : d = '-' ∧ _ := by simpa using heq
        exact absurd hd (by decide)
      · rename_i heq
        obtain ⟨rfl, -⟩ : d = '+' ∧ _ := by simpa using heq
        exact absurd hd (by decide)
      · simp
  · rfl
  · rfl

theorem afterExponent?_eq_nil_iff {cs : List Rune} :
    afterExponent? cs = some [] ↔ cs = [] ∨ ∃ e : Power, e.Lawful ∧ cs = e.chars := by
  cases cs with
  | nil => simp [afterExponent?]
  | cons c r =>
    by_cases hletter : c = 'e' ∨ c = 'E'
    · rw [afterExponent?, if_pos hletter, afterDigits?_eq_some_iff]
      constructor
      · rintro ⟨ds, hds, -, hr⟩
        obtain ⟨sign, hsign, hcs⟩ := sign_cases r
        refine .inr ⟨⟨c, sign, ds⟩, ⟨hletter, hsign, hds⟩, ?_⟩
        rw [Power.chars, hcs, hr, List.append_nil]
      · rintro (h | ⟨e, he, hcs⟩)
        · cases h
        · obtain ⟨-, rfl⟩ := List.cons.inj hcs
          refine ⟨e.digits, he.digits, by simp [NoDigit], ?_⟩
          have hsplit := sign_append he.sign he.digits []
          rw [List.append_nil] at hsplit
          rw [hsplit, List.append_nil]
    · rw [afterExponent?, if_neg hletter]
      constructor
      · intro h
        cases h
      · rintro (h | ⟨e, he, hcs⟩)
        · cases h
        · obtain ⟨rfl, -⟩ := List.cons.inj hcs
          exact absurd he.letter hletter

theorem withoutMinus_cases (cs : List Rune) :
    ∃ minus : Bool, cs = (if minus then [.char '-'] else []) ++ withoutMinus cs := by
  unfold withoutMinus
  split
  · exact ⟨true, rfl⟩
  · exact ⟨false, rfl⟩

namespace Numeral

variable {n : Numeral}

theorem withoutMinus_chars (h : n.Lawful) :
    withoutMinus n.chars = n.whole ++ (n.point ++ n.scale) := by
  unfold chars sign
  cases n.minus with
  | true => rfl
  | false =>
    obtain ⟨hne, hdigits⟩ := h.digits
    cases hwhole : n.whole with
    | nil => exact absurd hwhole hne
    | cons d ds =>
      have hd : d.isDigit = true := hdigits d (by simp [hwhole])
      unfold withoutMinus
      split
      · rename_i heq
        obtain ⟨rfl, -⟩ : d = '-' ∧ _ := by simpa using heq
        exact absurd hd (by decide)
      · rfl

theorem afterWhole?_chars (h : n.Lawful) :
    afterWhole? (n.whole ++ (n.point ++ n.scale)) = some (n.point ++ n.scale) := by
  refine afterWhole?_eq_some_iff.mpr ⟨n.whole, ?_, rfl⟩
  exact h.whole.imp_right fun ⟨hdigits, hzero⟩ => ⟨hdigits, hzero, h.noDigit_point⟩

theorem head?_scale (h : n.Lawful) : n.scale.head? ≠ some (.char '.') := by
  unfold scale
  cases hpower : n.power with
  | none => simp
  | some e =>
    rcases (h.power e hpower).letter with hletter | hletter <;> simp [Power.chars, hletter]

theorem afterFraction?_chars (h : n.Lawful) :
    afterFraction? (n.point ++ n.scale) = some n.scale := by
  rw [afterFraction?_eq_some_iff]
  unfold point
  cases hfraction : n.fraction with
  | none => exact .inl ⟨by simpa using head?_scale h, by simp⟩
  | some ds => exact .inr ⟨ds, h.fraction ds hfraction, h.noDigit_scale, by simp⟩

theorem afterExponent?_chars (h : n.Lawful) : afterExponent? n.scale = some [] := by
  rw [afterExponent?_eq_nil_iff]
  unfold scale
  cases hpower : n.power with
  | none => exact .inl rfl
  | some e => exact .inr ⟨e, h.power e hpower, rfl⟩

end Numeral

/-- The form of a number. -/
theorem isNumber_iff {cs : List Rune} :
    isNumber cs = true ↔ ∃ n : Numeral, n.Lawful ∧ cs = n.chars := by
  have hform : isNumber cs = true ↔
      ((afterWhole? (withoutMinus cs)).bind afterFraction?).bind afterExponent? = some [] := by
    rw [isNumber, beq_iff_eq]
  rw [hform]
  constructor
  · intro h
    obtain ⟨rest, hrest, hpower⟩ := Option.bind_eq_some_iff.mp h
    obtain ⟨behind, hbehind, hfraction⟩ := Option.bind_eq_some_iff.mp hrest
    obtain ⟨minus, hminus⟩ := withoutMinus_cases cs
    obtain ⟨whole, hwhole, hcs⟩ := afterWhole?_eq_some_iff.mp hbehind
    have hlawful : whole = [.char '0'] ∨ Digits whole ∧ whole.head? ≠ some (.char '0') :=
      hwhole.imp_right fun h => ⟨h.1, h.2.1⟩
    obtain ⟨power, hpower', hrest'⟩ : ∃ power : Option Power, (∀ e ∈ power, e.Lawful) ∧
        rest = (power.map Power.chars).getD [] := by
      rcases afterExponent?_eq_nil_iff.mp hpower with rfl | ⟨e, he, rfl⟩
      · exact ⟨none, by simp, rfl⟩
      · exact ⟨some e, by simpa using he, rfl⟩
    obtain ⟨fraction, hfraction', hbehind'⟩ : ∃ fraction : Option (List Rune),
        (∀ ds ∈ fraction, Digits ds) ∧
          behind = (fraction.map (.char '.' :: ·)).getD [] ++ rest := by
      rcases afterFraction?_eq_some_iff.mp hfraction with ⟨-, rfl⟩ | ⟨ds, hds, -, rfl⟩
      · exact ⟨none, by simp, rfl⟩
      · exact ⟨some ds, by simpa using hds, rfl⟩
    refine ⟨⟨minus, whole, fraction, power⟩, ⟨hlawful, hfraction', hpower'⟩, ?_⟩
    rw [hminus, hcs, hbehind', hrest']
    rfl
  · rintro ⟨n, hn, rfl⟩
    rw [Numeral.withoutMinus_chars hn, Numeral.afterWhole?_chars hn, Option.bind_some,
      Numeral.afterFraction?_chars hn, Option.bind_some, Numeral.afterExponent?_chars hn]

/-- The value of a digit of ASCII. -/
def digitOf (c : Rune) : Nat := c.toNat - 0x30

def natOf (ds : List Rune) : Nat := Decimal.natOfDigits (ds.map digitOf)

def Power.value (e : Power) : Int :=
  if e.sign = some (.char '-') then -(natOf e.digits : Int) else natOf e.digits

namespace Numeral

/-- The number as a decimal, with the digits behind the point counted in. -/
def decimal (n : Numeral) : Decimal where
  negative := n.minus
  mantissa := natOf (n.whole ++ n.fraction.getD [])
  exponent := (n.power.map Power.value).getD 0 - (n.fraction.getD []).length

/-- Without a fraction and a power a number is whole. -/
def value (n : Numeral) : Json :=
  if n.fraction = none ∧ n.power = none then
    .int (if n.minus then -(natOf n.whole : Int) else natOf n.whole)
  else .real n.decimal.toFloat

end Numeral

theorem digitValue?_of_isDigit {c : Rune} (h : c.isDigit = true) :
    Text.digitValue? c = some (digitOf c) := by
  have hrange : 0x30 ≤ c.toNat ∧ c.toNat < 0x30 + 10 := by
    cases c with
    | half n => cases h
    | char d =>
      simp only [Rune.isDigit, Rune.meets, Char.isDigit, Bool.and_eq_true, decide_eq_true_eq] at h
      obtain ⟨hlow, hhigh⟩ := h
      have hlow' : 0x30 ≤ (Rune.char d).toNat := hlow
      have hhigh' : (Rune.char d).toNat ≤ 0x39 := hhigh
      omega
  have hzeros : Text.digitZeros = 0x30 :: Text.digitZeros.tail := rfl
  rw [Text.digitValue?, hzeros, List.find?_cons_of_pos (by simp [hrange])]
  rfl

/-- A text that goes on with neither a digit nor an underscore. -/
def Stops (cs : List Rune) : Prop := ∀ c ∈ cs.head?, Text.digitValue? c = none ∧ c ≠ '_'

theorem digitRun_append {ds r : List Rune} (hds : ∀ c ∈ ds, c.isDigit = true) (hr : Stops r)
    (afterDigit : Bool) : Decimal.digitRun afterDigit (ds ++ r) = (ds.map digitOf, r) := by
  induction ds generalizing afterDigit with
  | nil =>
    cases r with
    | nil => rfl
    | cons c r =>
      obtain ⟨hnone, hscore⟩ := hr c rfl
      simp [Decimal.digitRun, hnone, hscore]
  | cons d ds ih =>
    have hd := digitValue?_of_isDigit (hds d List.mem_cons_self)
    have htail := ih (fun c hc => hds c (List.mem_cons_of_mem _ hc)) true
    rw [List.cons_append, Decimal.digitRun, hd, htail]
    rfl

namespace Numeral

variable {n : Numeral}

theorem stops_scale (h : n.Lawful) : Stops n.scale := by
  unfold scale
  cases hpower : n.power with
  | none => simp [Stops]
  | some e =>
    intro c hc
    obtain rfl : e.letter = c := by simpa [Power.chars] using hc
    rcases (h.power e hpower).letter with hletter | hletter <;> rw [hletter] <;> decide

theorem stops_point (h : n.Lawful) : Stops (n.point ++ n.scale) := by
  unfold point
  cases hfraction : n.fraction with
  | none => simpa using stops_scale h
  | some ds =>
    intro c hc
    obtain rfl : '.' = c := by simpa using hc
    decide

theorem fraction_chars (h : n.Lawful) :
    Decimal.fraction (n.point ++ n.scale) = ((n.fraction.getD []).map digitOf, n.scale) := by
  unfold point
  cases hfraction : n.fraction with
  | some ds => exact digitRun_append (h.fraction ds hfraction).2 (stops_scale h) false
  | none =>
    have hhead := head?_scale h
    unfold Decimal.fraction
    split
    · rename_i heq
      simp only [Option.map_none, Option.getD_none, List.nil_append] at heq
      simp [heq] at hhead
    · rfl

theorem exponent?_chars (h : n.Lawful) :
    Decimal.exponent? n.scale = some ((n.power.map Power.value).getD 0) := by
  unfold scale
  cases hpower : n.power with
  | none => rfl
  | some e =>
    obtain ⟨hletter, hsign, hdigits⟩ := h.power e hpower
    have hsplit := sign_append hsign hdigits []
    have hrun := digitRun_append (r := []) hdigits.2 (by simp [Stops]) false
    rw [List.append_nil] at hsplit hrun
    simp only [Option.map_some, Option.getD_some, Power.chars, Decimal.exponent?]
    rw [if_pos hletter, hsplit]
    simp only [hrun]
    cases hdigits' : e.digits with
    | nil => exact absurd hdigits' hdigits.1
    | cons d ds => simp [Power.value, natOf, hdigits']

theorem sign_chars (h : n.Lawful) :
    Decimal.sign n.chars = (n.minus, n.whole ++ (n.point ++ n.scale)) := by
  unfold chars sign
  cases n.minus with
  | true => rfl
  | false => exact sign_append (.inl rfl) h.digits _

/-- A number is read as what its parts say. -/
theorem ofChars?_chars (h : n.Lawful) : Decimal.ofChars? n.chars = some n.decimal := by
  have hwhole := digitRun_append h.digits.2 (stops_point h) false
  have hne : ¬ (n.whole.map digitOf = [] ∧ (n.fraction.getD []).map digitOf = []) := by
    rintro ⟨hnil, -⟩
    exact h.digits.1 (List.map_eq_nil_iff.mp hnil)
  simp only [Decimal.ofChars?, sign_chars h, hwhole, fraction_chars h, exponent?_chars h,
    if_neg hne, Option.map_some, decimal, natOf, List.map_append, List.length_map]

theorem any_chars (h : n.Lawful) : (n.chars.any fun c => c = '.' ∨ c = 'e' ∨ c = 'E') =
    !decide (n.fraction = none ∧ n.power = none) := by
  have hwhole : (n.whole.any fun c => c = '.' ∨ c = 'e' ∨ c = 'E') = false := by
    rw [List.any_eq_false]
    intro c hc hmark
    have hdigit := h.digits.2 c hc
    rcases of_decide_eq_true hmark with rfl | rfl | rfl <;> exact absurd hdigit (by decide)
  have hsign : (n.sign.any fun c => c = '.' ∨ c = 'e' ∨ c = 'E') = false := by
    unfold sign
    cases n.minus <;> rfl
  have hpoint : (n.point.any fun c => c = '.' ∨ c = 'e' ∨ c = 'E') = n.fraction.isSome := by
    unfold point
    cases n.fraction <;> simp
  have hscale : (n.scale.any fun c => c = '.' ∨ c = 'e' ∨ c = 'E') = n.power.isSome := by
    unfold scale
    cases hpower : n.power with
    | none => rfl
    | some e =>
      rcases (h.power e hpower).letter with hletter | hletter <;> simp [Power.chars, hletter]
  rw [chars, List.any_append, List.any_append, List.any_append, hsign, hwhole, hpoint, hscale]
  cases n.fraction <;> cases n.power <;> rfl

theorem number?_chars (h : n.Lawful) : number? n.chars = some n.value := by
  have hform : isNumber n.chars = true := isNumber_iff.mpr ⟨n, h, rfl⟩
  rw [number?, if_pos hform, ofChars?_chars h, any_chars h]
  unfold value
  by_cases hplain : n.fraction = none ∧ n.power = none
  · simp [hplain, decimal]
  · simp [hplain]

/-- Only whole numbers have their digits counted. -/
theorem wholeDigits_chars (h : n.Lawful) : wholeDigits n.chars =
    if n.fraction = none ∧ n.power = none then n.whole.length else 0 := by
  have hnil : n.fraction = none → n.point = [] := fun hnone => by simp [point, hnone]
  simp only [wholeDigits, withoutMinus_chars h, afterWhole?_chars h, afterFraction?_chars h,
    Option.map_some, Option.getD_some]
  cases hfraction : n.fraction with
  | some ds =>
    have hgoes : (n.scale != n.point ++ n.scale) = true := by
      rw [bne_iff_ne]
      intro heq
      have hlength := congrArg List.length heq
      simp [point, hfraction] at hlength
      omega
    simp [hgoes]
  | none =>
    rw [hnil hfraction, List.nil_append, afterExponent?_chars h]
    cases hpower : n.power with
    | none => simp [scale, hpower]
    | some e => simp [scale, hpower, Power.chars]

end Numeral

/-- The words that stand for values, and their values. -/
inductive Literal : List Rune → Json → Prop where
  | null : Literal ("null" : Text).toList .null
  | yes : Literal ("true" : Text).toList (.bool true)
  | no : Literal ("false" : Text).toList (.bool false)
  | undefined : Literal ("NaN" : Text).toList (.real (0.0 / 0.0))
  | infinite : Literal ("Infinity" : Text).toList (.real (1.0 / 0.0))
  | minusInfinite : Literal ("-Infinity" : Text).toList (.real (-1.0 / 0.0))
  | number (n : Numeral) (h : n.Lawful)
    (hlimit : n.fraction = none → n.power = none → n.whole.length ≤ digitLimit) :
    Literal n.chars n.value

theorem atom?_chars {n : Numeral} (h : n.Lawful) : atom? n.chars = some n.value := by
  have hform : isNumber n.chars = true := isNumber_iff.mpr ⟨n, h, rfl⟩
  have hname (name : Text) (hword : isNumber name.toList = false) :
      Text.ofList n.chars ≠ name := by
    rintro rfl
    simp [hform] at hword
  have hnumber := Numeral.number?_chars h
  simp only [atom?, hname "null" (by decide), hname "true" (by decide), hname "false" (by decide),
    hname "NaN" (by decide), hname "Infinity" (by decide), hname "-Infinity" (by decide), if_false,
    hnumber]

theorem wordToken_cases (w : List Rune) :
    (∃ v, wordToken w = .atom v) ∨ (∃ digits, wordToken w = .overlong digits) ∨
      wordToken w = .junk := by
  simp only [wordToken]
  split
  · exact .inr (.inl ⟨_, rfl⟩)
  · split
    · exact .inl ⟨_, rfl⟩
    · exact .inr (.inr rfl)

theorem exists_numeral_of_number? {cs : List Rune} {v : Json} (h : number? cs = some v) :
    ∃ n : Numeral, n.Lawful ∧ cs = n.chars ∧ v = n.value := by
  have hform : isNumber cs = true := by
    unfold number? at h
    split at h
    · assumption
    · simp at h
  obtain ⟨n, hn, rfl⟩ := isNumber_iff.mp hform
  rw [Numeral.number?_chars hn, Option.some.injEq] at h
  exact ⟨n, hn, rfl, h.symm⟩

theorem literal_of_atom? {cs : List Rune} {v : Json} (h : atom? cs = some v)
    (hdigits : wholeDigits cs ≤ digitLimit) : Literal cs v := by
  have hword {name : Text} {w : Json} (hname : Text.ofList cs = name) (hw : some w = some v)
      (hliteral : Literal name.toList w) : Literal cs v := by
    rw [← Option.some.inj hw, ← @Text.toList_ofList cs, hname]
    exact hliteral
  simp only [atom?] at h
  split at h
  · exact hword ‹_› h .null
  split at h
  · exact hword ‹_› h .yes
  split at h
  · exact hword ‹_› h .no
  split at h
  · exact hword ‹_› h .undefined
  split at h
  · exact hword ‹_› h .infinite
  split at h
  · exact hword ‹_› h .minusInfinite
  · obtain ⟨n, hn, rfl, rfl⟩ := exists_numeral_of_number? h
    refine .number n hn fun hfraction hpower => ?_
    rwa [Numeral.wholeDigits_chars hn, if_pos ⟨hfraction, hpower⟩] at hdigits

theorem wholeDigits_le_of_literal {cs : List Rune} {v : Json} (h : Literal cs v) :
    wholeDigits cs ≤ digitLimit := by
  cases h with
  | number n hn hlimit =>
    rw [Numeral.wholeDigits_chars hn]
    split
    · rename_i hplain
      exact hlimit hplain.1 hplain.2
    · exact Nat.zero_le _
  | _ => exact Nat.zero_le _

/-- The words that stand for values: names and numbers in their one spelling. -/
theorem wordToken_eq_atom_iff {cs : List Rune} {v : Json} :
    wordToken cs = .atom v ↔ Literal cs v := by
  constructor
  · intro h
    simp only [wordToken] at h
    split at h
    · simp at h
    · rename_i hdigits
      split at h
      · rename_i hatom
        obtain rfl := Token.atom.inj h
        exact literal_of_atom? hatom (Nat.le_of_not_lt hdigits)
      · simp at h
  · intro h
    have hdigits := Nat.not_lt.mpr (wholeDigits_le_of_literal h)
    cases h with
    | number n hn => simp only [wordToken, if_neg hdigits, atom?_chars hn]
    | _ => rfl

theorem wordToken_eq_overlong_iff {cs : List Rune} {digits : Nat} :
    wordToken cs = .overlong digits ↔ digitLimit < digits ∧ wholeDigits cs = digits := by
  simp only [wordToken]
  by_cases hlong : digitLimit < wholeDigits cs
  · rw [if_pos hlong]
    simp only [Token.overlong.injEq]
    constructor
    · rintro rfl
      exact ⟨hlong, rfl⟩
    · exact And.right
  · rw [if_neg hlong]
    have hnever : ¬ (digitLimit < digits ∧ wholeDigits cs = digits) := by
      rintro ⟨hmany, rfl⟩
      exact hlong hmany
    cases atom? cs <;> simp [hnever]

theorem isWordChar_of_isDigit {c : Rune} (h : c.isDigit = true) : isWordChar c = true := by
  have halphanum : c.isAlphanum = true := by
    cases c with
    | half n => cases h
    | char d =>
      have hdigit : d.isDigit = true := h
      simp [Rune.isAlphanum, Rune.meets, Char.isAlphanum, hdigit]
  simp [isWordChar, halphanum]

theorem Power.isWordChar_of_mem {e : Power} (h : e.Lawful) {c : Rune} (hc : c ∈ e.chars) :
    isWordChar c = true := by
  simp only [Power.chars, List.mem_cons, List.mem_append] at hc
  rcases hc with rfl | hc | hc
  · rcases h.letter with hletter | hletter <;> rw [hletter] <;> decide
  · rcases h.sign with hsign | hsign | hsign
    · simp [hsign] at hc
    · obtain rfl : c = '+' := by simpa [hsign] using hc
      decide
    · obtain rfl : c = '-' := by simpa [hsign] using hc
      decide
  · exact isWordChar_of_isDigit (h.digits.2 c hc)

namespace Numeral

variable {n : Numeral}

theorem chars_ne_nil (h : n.Lawful) : n.chars ≠ [] := by
  intro hnil
  have hlength := congrArg List.length hnil
  simp only [chars, List.length_append, List.length_nil] at hlength
  exact h.digits.1 (List.length_eq_zero_iff.mp (by omega))

theorem isWordChar_of_mem_point (h : n.Lawful) {c : Rune} (hc : c ∈ n.point) :
    isWordChar c = true := by
  unfold point at hc
  cases hfraction : n.fraction with
  | none => simp [hfraction] at hc
  | some ds =>
    simp only [hfraction, Option.map_some, Option.getD_some, List.mem_cons] at hc
    rcases hc with rfl | hc
    · decide
    · exact isWordChar_of_isDigit ((h.fraction ds hfraction).2 c hc)

theorem isWordChar_of_mem_scale (h : n.Lawful) {c : Rune} (hc : c ∈ n.scale) :
    isWordChar c = true := by
  unfold scale at hc
  cases hpower : n.power with
  | none => simp [hpower] at hc
  | some e =>
    simp only [hpower, Option.map_some, Option.getD_some] at hc
    exact Power.isWordChar_of_mem (h.power e hpower) hc

theorem isWordChar_of_mem (h : n.Lawful) {c : Rune} (hc : c ∈ n.chars) : isWordChar c = true := by
  simp only [chars, List.mem_append] at hc
  rcases hc with hc | hc | hc | hc
  · unfold sign at hc
    cases hminus : n.minus with
    | false => simp [hminus] at hc
    | true =>
      obtain rfl : c = '-' := by simpa [hminus] using hc
      decide
  · exact isWordChar_of_isDigit (h.digits.2 c hc)
  · exact isWordChar_of_mem_point h hc
  · exact isWordChar_of_mem_scale h hc

end Numeral

/-- A word is made of characters that go on with one. -/
theorem isWordChar_of_literal {cs : List Rune} {v : Json} (h : Literal cs v) :
    cs ≠ [] ∧ ∀ c ∈ cs, isWordChar c = true := by
  cases h with
  | number n hn => exact ⟨Numeral.chars_ne_nil hn, fun c hc => Numeral.isWordChar_of_mem hn hc⟩
  | _ => exact ⟨by decide, List.all_eq_true.mp rfl⟩

end Synopsis.Json
