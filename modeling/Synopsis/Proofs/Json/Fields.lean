import Synopsis.Json.Reader
import Synopsis.Proofs.Keyed

namespace Synopsis.Json

theorem field?_eq_some_iff {v w : Json} {key : Text} :
    v.field? key = some w ↔ ∃ fields, v = .obj fields ∧ Keyed.get? fields key = some w := by
  cases v <;> simp [field?]

theorem str?_eq_some_iff {v : Json} {s : Text} : v.str? = some s ↔ v = .str s := by
  cases v <;> simp [str?]

/-- Every object in a value has each of its keys once. -/
inductive Distinct : Json → Prop where
  | leaf {v : Json} (harr : ∀ items, v ≠ .arr items) (hobj : ∀ fields, v ≠ .obj fields) : Distinct v
  | arr {items : List Json} (hitems : ∀ v ∈ items, Distinct v) : Distinct (.arr items)
  | obj {fields : Keyed Json} (hkeys : (Keyed.keys fields).Nodup)
    (hfields : ∀ e ∈ fields, Distinct e.2) : Distinct (.obj fields)

theorem distinct_obj_set {fields : Keyed Json} {v : Json} (h : Distinct (.obj fields))
    (hv : Distinct v) (key : Text) : Distinct (.obj (Keyed.set fields key v)) := by
  cases h with
  | leaf _ hobj => exact absurd rfl (hobj fields)
  | obj hkeys hfields =>
    refine .obj (Keyed.nodup_keys_set hkeys key v) ?_
    intro e he
    rcases Keyed.mem_of_mem_set he with rfl | he
    · exact hv
    · exact hfields e he

theorem nodup_keys_of_distinct {fields : Keyed Json} (h : Distinct (.obj fields)) :
    (Keyed.keys fields).Nodup := by
  cases h with
  | leaf _ hobj => exact absurd rfl (hobj fields)
  | obj hkeys _ => exact hkeys

theorem distinct_atom? {cs : List Rune} {v : Json} (h : atom? cs = some v) : v.Distinct := by
  simp only [atom?] at h
  iterate 6
    split at h
    · rw [← Option.some.inj h]
      exact .leaf (by simp) (by simp)
  unfold number? at h
  split at h
  · obtain ⟨d, -, rfl⟩ := Option.map_eq_some_iff.mp h
    split <;> exact .leaf (by simp) (by simp)
  · simp at h

theorem distinct_of_wordToken {cs : List Rune} {v : Json} (h : wordToken cs = .atom v) :
    v.Distinct := by
  simp only [wordToken] at h
  split at h
  · simp at h
  · split at h
    · rename_i hatom
      rw [Token.atom.injEq] at h
      exact distinct_atom? (h ▸ hatom)
    · simp at h

/-- The tokens that are cut out of a text as words. -/
def Token.IsWord : Token → Prop
  | .atom _ => True
  | .overlong _ => True
  | _ => False

theorem not_mem_begin? {c : Rune} {ts : List Token} {mode : Mode} {t : Token}
    (h : begin? c = some (ts, mode)) (ht : t.IsWord) : t ∉ ts := by
  unfold begin? at h
  cases t with
  | atom v => grind
  | overlong digits => grind
  | _ => exact ht.elim

/-- Of the tokens that a character ends, only a word can be a value. -/
theorem eq_wordToken_of_scanChar {mode mode' : Mode} {c : Rune} {ts : List Token} {t : Token}
    (h : scanChar mode c = some (ts, mode')) (ht : t.IsWord) (hmem : t ∈ ts) :
    ∃ word, wordToken word = t := by
  have hjunk : t ≠ .junk := by
    rintro rfl
    exact ht
  cases mode with
  | between => exact absurd hmem (not_mem_begin? h ht)
  | word seen =>
    rw [scanChar] at h
    split at h
    · simp [← (Prod.mk.inj (Option.some.inj h)).1] at hmem
    · split at h
      · rename_i hbegin
        rw [← (Prod.mk.inj (Option.some.inj h)).1] at hmem
        rcases List.mem_cons.mp hmem with hword | hmem
        · exact ⟨_, hword.symm⟩
        · exact absurd hmem (not_mem_begin? hbegin ht)
      · rw [← (Prod.mk.inj (Option.some.inj h)).1] at hmem
        rcases List.mem_cons.mp hmem with hword | hmem
        · exact ⟨_, hword.symm⟩
        · exact absurd (List.mem_singleton.mp hmem) hjunk
  | text seen =>
    have htext (s : Text) : t ≠ .text s := by
      rintro rfl
      exact ht
    rw [scanChar] at h
    grind
  | escape seen =>
    rw [scanChar] at h
    split at h
    · simp [← (Prod.mk.inj (Option.some.inj h)).1] at hmem
    · obtain ⟨u, -, hu⟩ := Option.map_eq_some_iff.mp h
      simp [← (Prod.mk.inj hu).1] at hmem
  | hex seen value owed =>
    rw [scanChar] at h
    obtain ⟨d, -, hd⟩ := Option.map_eq_some_iff.mp h
    simp [← (Prod.mk.inj hd).1] at hmem

theorem eq_wordToken_of_scan {mode : Mode} {cs : List Rune} {t : Token} (ht : t.IsWord)
    (hmem : t ∈ scan mode cs) : ∃ word, wordToken word = t := by
  have hjunk : t ≠ .junk := by
    rintro rfl
    exact ht
  induction cs generalizing mode with
  | nil =>
    cases mode with
    | word seen => exact ⟨_, (List.mem_singleton.mp hmem).symm⟩
    | _ => simp [scan, hjunk] at hmem
  | cons c r ih =>
    rw [scan] at hmem
    split at hmem
    · simp [hjunk] at hmem
    · rename_i hchar
      rcases List.mem_append.mp hmem with hmem | hmem
      · exact eq_wordToken_of_scanChar hchar ht hmem
      · exact ih hmem

theorem distinct_of_scan {mode : Mode} {cs : List Rune} {v : Json}
    (hv : .atom v ∈ scan mode cs) : v.Distinct := by
  have hkind : (Token.atom v).IsWord := trivial
  obtain ⟨word, hword⟩ := eq_wordToken_of_scan hkind hv
  exact distinct_of_wordToken hword

def Frame.Distinct : Frame → Prop
  | .items seen => ∀ v ∈ seen, v.Distinct
  | .fields seen _ => (Json.obj seen).Distinct

def Focus.Distinct : Focus → Prop
  | .key seen _ => (Json.obj seen).Distinct
  | .colon seen _ => (Json.obj seen).Distinct
  | .whole v => v.Distinct
  | _ => True

theorem distinct_items_cons {seen : List Json} {item : Json} (h : (Frame.items seen).Distinct)
    (hv : item.Distinct) : ∀ v ∈ item :: seen, v.Distinct :=
  List.forall_mem_cons.mpr ⟨hv, h⟩

variable {stack stack' : List Frame} {focus focus' : Focus} {t : Token}

theorem distinct_of_startValue (h : startValue stack t = .ok (stack', focus'))
    (hstack : ∀ f ∈ stack, f.Distinct) (ht : ∀ v, t = .atom v → v.Distinct) :
    (∀ f ∈ stack', f.Distinct) ∧ focus'.Distinct := by
  have hempty : (Json.obj []).Distinct := .obj List.nodup_nil (by simp)
  unfold startValue at h
  split at h
  · obtain ⟨rfl, rfl⟩ := Prod.mk.inj (Except.ok.inj h)
    exact ⟨hstack, .leaf (by simp) (by simp)⟩
  · obtain ⟨rfl, rfl⟩ := Prod.mk.inj (Except.ok.inj h)
    exact ⟨hstack, ht _ rfl⟩
  · simp at h
  · split at h
    · simp at h
    · obtain ⟨rfl, rfl⟩ := Prod.mk.inj (Except.ok.inj h)
      exact ⟨List.forall_mem_cons.mpr ⟨by simp [Frame.Distinct], hstack⟩, trivial⟩
  · split at h
    · simp at h
    · obtain ⟨rfl, rfl⟩ := Prod.mk.inj (Except.ok.inj h)
      exact ⟨hstack, hempty⟩
  · simp at h

theorem distinct_of_step (h : step stack focus t = .ok (stack', focus'))
    (hstack : ∀ f ∈ stack, f.Distinct) (hfocus : focus.Distinct)
    (ht : ∀ v, t = .atom v → v.Distinct) :
    (∀ f ∈ stack', f.Distinct) ∧ focus'.Distinct := by
  unfold step at h
  split at h
  · obtain ⟨rfl, rfl⟩ := Prod.mk.inj (Except.ok.inj h)
    exact ⟨(List.forall_mem_cons.mp hstack).2, .arr (by simp)⟩
  · exact distinct_of_startValue h hstack ht
  · exact distinct_of_startValue h hstack ht
  · obtain ⟨rfl, rfl⟩ := Prod.mk.inj (Except.ok.inj h)
    exact ⟨hstack, hfocus⟩
  · obtain ⟨rfl, rfl⟩ := Prod.mk.inj (Except.ok.inj h)
    exact ⟨hstack, hfocus⟩
  · obtain ⟨rfl, rfl⟩ := Prod.mk.inj (Except.ok.inj h)
    exact ⟨List.forall_mem_cons.mpr ⟨hfocus, hstack⟩, trivial⟩
  · obtain ⟨rfl, rfl⟩ := Prod.mk.inj (Except.ok.inj h)
    obtain ⟨hseen, hrest⟩ := List.forall_mem_cons.mp hstack
    exact ⟨List.forall_mem_cons.mpr ⟨distinct_items_cons hseen hfocus, hrest⟩, trivial⟩
  · obtain ⟨rfl, rfl⟩ := Prod.mk.inj (Except.ok.inj h)
    obtain ⟨hseen, hrest⟩ := List.forall_mem_cons.mp hstack
    refine ⟨hrest, .arr ?_⟩
    intro v hv
    exact distinct_items_cons hseen hfocus v (List.mem_reverse.mp hv)
  · obtain ⟨rfl, rfl⟩ := Prod.mk.inj (Except.ok.inj h)
    obtain ⟨hseen, hrest⟩ := List.forall_mem_cons.mp hstack
    exact ⟨hrest, distinct_obj_set hseen hfocus _⟩
  · obtain ⟨rfl, rfl⟩ := Prod.mk.inj (Except.ok.inj h)
    obtain ⟨hseen, hrest⟩ := List.forall_mem_cons.mp hstack
    exact ⟨hrest, distinct_obj_set hseen hfocus _⟩
  · simp at h

theorem distinct_of_run {ts : List Token} (h : run stack focus ts = .ok (stack', focus'))
    (hstack : ∀ f ∈ stack, f.Distinct) (hfocus : focus.Distinct)
    (hts : ∀ v, .atom v ∈ ts → v.Distinct) :
    (∀ f ∈ stack', f.Distinct) ∧ focus'.Distinct := by
  induction ts generalizing stack focus with
  | nil =>
    obtain ⟨rfl, rfl⟩ := Prod.mk.inj (Except.ok.inj h)
    exact ⟨hstack, hfocus⟩
  | cons t r ih =>
    rw [run] at h
    split at h
    · simp at h
    · rename_i hstep
      obtain ⟨hmid, hnext⟩ := distinct_of_step hstep hstack hfocus
        fun v hv => hts v (hv ▸ List.mem_cons_self)
      exact ih h hmid hnext fun v hv => hts v (List.mem_cons_of_mem _ hv)

/-- A value that was read has each key of its objects once, however often the text repeats it. -/
theorem distinct_of_read {s : Text} {v : Json} (h : read s = .ok v) : v.Distinct := by
  unfold read ofTokens at h
  split at h
  · rename_i hrun
    rw [← Except.ok.inj h]
    exact (distinct_of_run hrun (by simp) trivial fun v hv => distinct_of_scan hv).2
  · simp at h
  · simp at h

end Synopsis.Json
