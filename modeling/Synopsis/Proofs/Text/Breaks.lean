import Synopsis.Proofs.Text.Mixed

namespace Synopsis.Text

variable {c : Rune} {cs r : List Rune}

/-- A carriage return with a line feed behind it. -/
def HasPair (cs : List Rune) : Prop := [.char '\r', .char '\n'] <:+: cs

/-- A line feed at the start, or behind another character than a carriage return. -/
def HasLoneLf (cs : List Rune) : Prop :=
  ∃ a b, cs = a ++ .char '\n' :: b ∧ a.getLast? ≠ some (.char '\r')

/-- Line breaks of both kinds in one text. -/
def IsMixed (s : Text) : Prop := HasPair s.toList ∧ HasLoneLf s.toList

theorem hasPair_cons_iff :
    HasPair (c :: r) ↔ (c = '\r' ∧ r.head? = some (.char '\n')) ∨ HasPair r := by
  have hstart : [.char '\n'] <+: r ↔ r.head? = some (.char '\n') := by
    cases r with
    | nil => simp
    | cons d r => simp [List.cons_prefix_cons, eq_comm]
  rw [HasPair, List.infix_cons_iff, List.cons_prefix_cons, hstart, eq_comm]
  rfl

theorem hasCrlf_iff : hasCrlf cs = true ↔ HasPair cs := by
  induction cs with
  | nil => simp [hasCrlf, HasPair]
  | cons c r ih =>
    rw [hasPair_cons_iff]
    by_cases hpair : c ≠ '\r' ∨ r.head? ≠ some (.char '\n')
    · have hnot : ¬ (c = '\r' ∧ r.head? = some (.char '\n')) :=
        fun hboth => hpair.elim (fun hne => hne hboth.1) fun hne => hne hboth.2
      rw [hasCrlf_cons_of_ne hpair, ih]
      simp [hnot]
    · obtain ⟨t, ht⟩ := eq_pair_of_not hpair
      obtain ⟨rfl, rfl⟩ := List.cons.inj ht
      simp [hasCrlf]

theorem getLast?_cons_ne_iff {a : List Rune} : (c :: a).getLast? ≠ some (.char '\r') ↔
    (a = [] → c ≠ '\r') ∧ a.getLast? ≠ some (.char '\r') := by
  cases a with
  | nil => simp
  | cons d a => simp [List.getLast?_cons_cons]

theorem hasLoneLf_lf_cons (r : List Rune) : HasLoneLf (.char '\n' :: r) := ⟨[], r, rfl, by simp⟩

/-- A character in front changes a line feed only if it makes a pair with it. -/
theorem hasLoneLf_cons_iff (hc : c ≠ '\n') (h : c ≠ '\r' ∨ r.head? ≠ some (.char '\n')) :
    HasLoneLf (c :: r) ↔ HasLoneLf r := by
  constructor
  · rintro ⟨a, b, hr, hlast⟩
    cases a with
    | nil => exact absurd (List.cons.inj hr).1 hc
    | cons d a =>
      obtain ⟨rfl, rfl⟩ := List.cons.inj hr
      exact ⟨a, b, rfl, (getLast?_cons_ne_iff.mp hlast).2⟩
  · rintro ⟨a, b, rfl, hlast⟩
    refine ⟨c :: a, b, rfl, getLast?_cons_ne_iff.mpr ⟨?_, hlast⟩⟩
    rintro rfl
    simpa using h

theorem hasLoneLf_pair_cons_iff : HasLoneLf (.char '\r' :: .char '\n' :: r) ↔ HasLoneLf r := by
  constructor
  · rintro ⟨a, b, hr, hlast⟩
    rcases a with _ | ⟨d, _ | ⟨e, a⟩⟩
    · simp at hr
    · obtain ⟨rfl, -⟩ := List.cons.inj hr
      simp at hlast
    · obtain ⟨-, hr⟩ := List.cons.inj hr
      obtain ⟨-, rfl⟩ := List.cons.inj hr
      exact ⟨a, b, rfl, (getLast?_cons_ne_iff.mp (getLast?_cons_ne_iff.mp hlast).2).2⟩
  · rintro ⟨a, b, rfl, hlast⟩
    have hbehind : (.char '\n' :: a).getLast? ≠ some (.char '\r') :=
      getLast?_cons_ne_iff.mpr ⟨fun _ => by decide, hlast⟩
    exact ⟨.char '\r' :: .char '\n' :: a, b, rfl, getLast?_cons_ne_iff.mpr ⟨by simp, hbehind⟩⟩

theorem hasBareLf_iff : hasBareLf cs = true ↔ HasLoneLf cs := by
  induction cs using hasBareLf.induct with
  | case1 => simp [hasBareLf, HasLoneLf]
  | case2 r ih => rw [hasBareLf, ih, hasLoneLf_pair_cons_iff]
  | case3 c r hpair ih =>
    have hne : c ≠ '\r' ∨ r.head? ≠ some (.char '\n') := ne_of_not_pair hpair
    rw [hasBareLf_cons_of_ne hne, Bool.or_eq_true, decide_eq_true_iff, ih]
    by_cases hc : c = '\n'
    · subst hc
      simp [hasLoneLf_lf_cons]
    · simp [hc, hasLoneLf_cons_iff hc hne]

theorem isMixed_iff {s : Text} :
    IsMixed s ↔ hasCrlf s.toList = true ∧ hasBareLf s.toList = true := by
  rw [IsMixed, hasCrlf_iff, hasBareLf_iff]

theorem not_isMixed_iff {s : Text} :
    ¬ IsMixed s ↔ hasCrlf s.toList = false ∨ hasBareLf s.toList = false := by
  rw [isMixed_iff, Classical.not_and_iff_not_or_not, Bool.not_eq_true, Bool.not_eq_true]

namespace LineBreak

/-- Whatever the line break of a text is taken for, all its pairs are read as line feeds. -/
theorem undo_ofText (raw : Text) : (ofText raw).undo raw = LineBreak.crlf.undo raw := by
  rw [ofText]
  cases hpair : hasCrlf raw.toList with
  | true => rfl
  | false => exact (undo_crlf_eq_self_iff.mpr hpair).symm

theorem undo_crlf_apply_crlf (s : Text) : LineBreak.crlf.undo (LineBreak.crlf.apply s) = s := by
  rw [undo, apply, Text.toList_ofList, lfOfCrlf_crlfOfLf, Text.ofList_toList]

/-- A text of line feeds that is written and read is the same if it was written with pairs, and else
if it holds none. -/
theorem undo_apply_iff (b : LineBreak) (s : Text) :
    (ofText (b.apply s)).undo (b.apply s) = s ↔ b = .crlf ∨ ¬ HasPair s.toList := by
  rw [undo_ofText, ← hasCrlf_iff]
  cases b with
  | lf => simp [apply, undo_crlf_eq_self_iff]
  | crlf => simp [undo_crlf_apply_crlf]

end LineBreak

end Synopsis.Text
