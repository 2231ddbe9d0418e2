import Mathlib.Data.List.Forall2
import Synopsis.Proofs.Index.Store

namespace Synopsis.Index

variable {index former : Index} {results again : List Annotation} {prune : Bool} {path : Text}

/-- Every entry names the key that it lies under. -/
def WellKeyed (index : Index) : Prop := ∀ e ∈ index, e.2.path = e.1

theorem wellKeyed_ofFields {fields : List (Text × Json)} (h : ofFields fields = .ok index) :
    WellKeyed index := by
  induction fields generalizing index with
  | nil =>
    simp only [ofFields, Except.ok.injEq] at h
    subst h
    exact fun e he => by simp at he
  | cons field r ih =>
    obtain ⟨key, value⟩ := field
    rw [ofFields] at h
    cases hentry : entryOf key value with
    | error f => simp [hentry] at h
    | ok entry =>
      cases hrest : ofFields r with
      | error f => simp [hentry, hrest] at h
      | ok rest =>
        simp only [hentry, hrest, Except.ok.injEq] at h
        subst h
        have hpath : entry.path = key := by
          unfold entryOf at hentry
          split at hentry
          · split at hentry
            · simp at hentry
            · simp at hentry
            · split at hentry
              · simp only [Except.ok.injEq] at hentry
                subst hentry
                assumption
              · simp at hentry
          · simp at hentry
        intro e he
        rcases List.mem_cons.mp he with rfl | he
        · exact hpath
        · exact ih hrest e he

theorem wellKeyed_load {t : Tree} {p : Path} {found : Bool} (h : load t p = .ok (index, found)) :
    WellKeyed index := by
  unfold load at h
  split at h
  · simp at h
  · simp only [Except.ok.injEq, Prod.mk.injEq] at h
    rw [← h.1]
    exact fun e he => by simp at he
  · split at h
    · simp at h
    · split at h
      · simp at h
      · simp at h
      · rename_i v _
        cases v with
        | obj fields =>
          simp only [ofJson] at h
          cases hfields : ofFields fields with
          | error flaw => simp [hfields] at h
          | ok made =>
            simp only [hfields, Except.ok.injEq, Prod.mk.injEq] at h
            rw [← h.1]
            exact wellKeyed_ofFields hfields
        | _ => simp [ofJson] at h

theorem wellKeyed_enter (h : WellKeyed index) (a : Annotation) : WellKeyed (enter index a) := by
  unfold enter
  split
  · intro e he
    rcases Keyed.mem_of_mem_set he with rfl | he
    · rfl
    · exact h e he
  · exact h

theorem nodup_keys_enter (h : (Keyed.keys index).Nodup) (a : Annotation) :
    (Keyed.keys (enter index a)).Nodup := by
  unfold enter
  split
  · exact Keyed.nodup_keys_set h _ _
  · exact h

/-- What is left of the former entries: each key once, and none that was set before. -/
theorem foldl_setDefault (made former : Index) : ∃ rest : Index,
    former.foldl (fun index e => Keyed.setDefault index e.1 e.2) made = made ++ rest ∧
      (∀ e ∈ rest, e ∈ former) ∧ (Keyed.keys rest).Nodup ∧
      ∀ key ∈ Keyed.keys rest, key ∉ Keyed.keys made := by
  induction former generalizing made with
  | nil => exact ⟨[], by simp, by simp, List.nodup_nil, by simp [Keyed.keys]⟩
  | cons e r ih =>
    rw [List.foldl_cons]
    by_cases hmem : e.1 ∈ Keyed.keys made
    · rw [Keyed.setDefault_of_mem hmem]
      obtain ⟨rest, hfold, hfrom, hnodup, hnew⟩ := ih made
      exact ⟨rest, hfold, fun x hx => List.mem_cons_of_mem _ (hfrom x hx), hnodup, hnew⟩
    · rw [Keyed.setDefault_of_not_mem hmem]
      obtain ⟨rest, hfold, hfrom, hnodup, hnew⟩ := ih (made ++ [(e.1, e.2)])
      have hkeys : Keyed.keys (made ++ [(e.1, e.2)]) = Keyed.keys made ++ [e.1] := by
        simp [Keyed.keys]
      rw [hkeys] at hnew
      refine ⟨e :: rest, by simpa using hfold, ?_, ?_, ?_⟩
      · intro x hx
        rcases List.mem_cons.mp hx with rfl | hx
        · exact List.mem_cons_self
        · exact List.mem_cons_of_mem _ (hfrom x hx)
      · have hfresh : e.1 ∉ Keyed.keys rest := by
          intro hin
          exact hnew e.1 hin (by simp)
        exact List.nodup_cons.mpr ⟨hfresh, hnodup⟩
      · intro key hkey
        rcases List.mem_cons.mp hkey with rfl | hkey
        · exact hmem
        · exact fun hin => hnew key hkey (List.mem_append_left _ hin)

/-- The entries that a run made, and the former ones behind them. -/
theorem compile_eq (prune : Bool) (results : List Annotation) (former : Index) :
    ∃ rest : Index, compile prune results former = results.foldl enter [] ++ rest ∧
      (∀ e ∈ rest, e ∈ former) ∧ (Keyed.keys rest).Nodup ∧
      ∀ key ∈ Keyed.keys rest, key ∉ Keyed.keys (results.foldl enter []) := by
  cases prune with
  | true => exact ⟨[], by simp [compile], by simp, List.nodup_nil, by simp [Keyed.keys]⟩
  | false => exact foldl_setDefault _ _

theorem foldl_enter_induct {motive : Index → Prop} (results : List Annotation)
    (hstart : motive index) (hstep : ∀ m a, motive m → motive (enter m a)) :
    motive (results.foldl enter index) := by
  induction results generalizing index with
  | nil => exact hstart
  | cons a r ih => exact ih (hstep index a hstart)

theorem wellKeyed_compile (h : WellKeyed former) : WellKeyed (compile prune results former) := by
  obtain ⟨rest, heq, hfrom, -, -⟩ := compile_eq prune results former
  have hmade : WellKeyed (results.foldl enter []) :=
    foldl_enter_induct results (fun e he => by simp at he) fun m a hm => wellKeyed_enter hm a
  rw [heq]
  intro e he
  rcases List.mem_append.mp he with he | he
  · exact hmade e he
  · exact h e (hfrom e he)

theorem nodup_keys_made (results : List Annotation) :
    (Keyed.keys (results.foldl enter [])).Nodup :=
  foldl_enter_induct (motive := fun m => (Keyed.keys m).Nodup) results List.nodup_nil
    fun _ a hm => nodup_keys_enter hm a

theorem nodup_keys_compile (prune : Bool) (results : List Annotation) (former : Index) :
    (Keyed.keys (compile prune results former)).Nodup := by
  obtain ⟨rest, heq, -, hnodup, hnew⟩ := compile_eq prune results former
  have hkeys : Keyed.keys (results.foldl enter [] ++ rest) =
      Keyed.keys (results.foldl enter []) ++ Keyed.keys rest := by simp [Keyed.keys]
  rw [heq, hkeys]
  exact List.nodup_append.mpr ⟨nodup_keys_made results, hnodup,
    fun x hx y hy hxy => hnew y hy (hxy ▸ hx)⟩

theorem summaries_map_snd (h : WellKeyed index) (hnodup : (Keyed.keys index).Nodup) :
    (summaries (index.map Prod.snd)).map (fun e => (e.1, (⟨e.1, e.2⟩ : Entry))) = index := by
  have hpaths : (index.map Prod.snd).map Entry.path = Keyed.keys index := by
    rw [List.map_map, Keyed.keys]
    exact List.map_congr_left fun e he => h e he
  have hfold := Keyed.foldl_set_of_nodup (l := []) Entry.path Entry.summary (index.map Prod.snd)
    (hpaths ▸ hnodup) (fun b _ => by simp [Keyed.keys])
  rw [summaries, hfold, List.nil_append, List.map_map, List.map_map]
  conv_rhs => rw [← List.map_id index]
  apply List.map_congr_left
  intro e he
  have hpath := h e he
  obtain ⟨key, entryPath, summary⟩ := e
  simp only at hpath
  subst hpath
  rfl

theorem load_store_index {t t' : Tree} {p : Path} (h : WellKeyed index)
    (hnodup : (Keyed.keys index).Nodup) (hstore : store t p (index.map Prod.snd) = (.ok (), t'))
    (hread : MayLoad t p) : load t' p = .ok (index, true) := by
  rw [load_store hstore hread, summaries_map_snd h hnodup]

theorem get?_enter_of_ne {a : Annotation} (h : a.path ≠ path) :
    Keyed.get? (enter index a) path = Keyed.get? index path := by
  unfold enter
  split
  · exact Keyed.get?_set_of_ne _ _ (Ne.symm h)
  · rfl

theorem get?_foldl_enter_of_not_mem (h : ∀ a ∈ results, a.path ≠ path) :
    Keyed.get? (results.foldl enter index) path = Keyed.get? index path := by
  induction results generalizing index with
  | nil => rfl
  | cons a r ih =>
    rw [List.foldl_cons, ih fun b hb => h b (List.mem_cons_of_mem _ hb)]
    exact get?_enter_of_ne (h a List.mem_cons_self)

/-- All summaries of a path are the same one, and there is one. -/
theorem get?_foldl_enter {summary : Text}
    (hall : ∀ a ∈ results, a.path = path → ∀ s, a.outcome.summary? = some s → s = summary)
    (hone : Keyed.get? index path = some ⟨path, summary⟩ ∨
      ∃ a ∈ results, a.path = path ∧ a.outcome.summary? = some summary) :
    Keyed.get? (results.foldl enter index) path = some ⟨path, summary⟩ := by
  induction results generalizing index with
  | nil => simpa using hone
  | cons a r ih =>
    refine ih (fun b hb => hall b (List.mem_cons_of_mem _ hb)) ?_
    by_cases hpath : a.path = path
    · have ha := hall a List.mem_cons_self hpath
      cases hs : a.outcome.summary? with
      | some s =>
        refine .inl ?_
        rw [enter, hs, ha s hs, hpath]
        exact Keyed.get?_set_self _ _ _
      | none =>
        have hsame : enter index a = index := by rw [enter, hs]
        rw [hsame]
        refine hone.imp id ?_
        rintro ⟨b, hb, hbpath, hbs⟩
        rcases List.mem_cons.mp hb with rfl | hb
        · simp [hs] at hbs
        · exact ⟨b, hb, hbpath, hbs⟩
    · rw [get?_enter_of_ne hpath]
      refine hone.imp id ?_
      rintro ⟨b, hb, hbpath, hbs⟩
      rcases List.mem_cons.mp hb with rfl | hb
      · exact absurd hbpath hpath
      · exact ⟨b, hb, hbpath, hbs⟩

theorem get?_compile {a : Annotation} {summary : Text} (ha : a ∈ results)
    (hs : a.outcome.summary? = some summary) (hone : ∀ b ∈ results, b.path = a.path → b = a) :
    Keyed.get? (compile prune results former) a.path = some ⟨a.path, summary⟩ := by
  obtain ⟨rest, heq, -, -, -⟩ := compile_eq prune results former
  have hmade : Keyed.get? (results.foldl enter []) a.path = some ⟨a.path, summary⟩ := by
    apply get?_foldl_enter ?_ (.inr ⟨a, ha, rfl, hs⟩)
    intro b hb hpath s hbs
    rw [hone b hb hpath, hs, Option.some.injEq] at hbs
    exact hbs.symm
  rw [heq, Keyed.get?_append_left (Keyed.mem_keys_iff.mpr ⟨_, hmade⟩), hmade]

theorem get?_foldl_setDefault (made former : Index) (path : Text) : Keyed.get?
    (former.foldl (fun index e => Keyed.setDefault index e.1 e.2) made) path =
      (Keyed.get? made path).or (Keyed.get? former path) := by
  induction former generalizing made with
  | nil => simp [Keyed.get?]
  | cons e r ih =>
    obtain ⟨key, entry⟩ := e
    rw [List.foldl_cons, ih]
    by_cases hmem : key ∈ Keyed.keys made
    · rw [Keyed.setDefault_of_mem hmem]
      by_cases hkey : key = path
      · obtain ⟨v, hv⟩ := Keyed.mem_keys_iff.mp (hkey ▸ hmem)
        simp [hv]
      · simp [Keyed.get?, hkey]
    · rw [Keyed.setDefault_of_not_mem hmem]
      by_cases hkey : key = path
      · subst hkey
        rw [Keyed.get?_append_right hmem, Keyed.get?_eq_none_iff.mpr hmem]
        simp [Keyed.get?]
      · by_cases hin : path ∈ Keyed.keys made
        · rw [Keyed.get?_append_left hin]
          simp [Keyed.get?, hkey]
        · rw [Keyed.get?_append_right hin, Keyed.get?_eq_none_iff.mpr hin]
          simp [Keyed.get?, hkey]

theorem get?_compile_of_not_mem (h : ∀ a ∈ results, a.path ≠ path) :
    Keyed.get? (compile false results former) path = Keyed.get? former path := by
  have hmade : Keyed.get? (results.foldl enter []) path = none := get?_foldl_enter_of_not_mem h
  simp only [compile, Bool.false_eq_true, if_false, get?_foldl_setDefault, hmade, Option.none_or]

/-- A later result has a summary if the earlier one has, and it is the one in the index. -/
structure Repeats (index : Index) (a b : Annotation) : Prop where
  path : b.path = a.path
  found : b.outcome.summary?.isSome = a.outcome.summary?.isSome
  known (s : Text) : b.outcome.summary? = some s → Keyed.get? index b.path = some ⟨b.path, s⟩

end Synopsis.Index
