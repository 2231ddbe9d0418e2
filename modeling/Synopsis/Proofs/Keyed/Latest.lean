import Mathlib.Data.List.Induction
import Synopsis.Proofs.Keyed

namespace Synopsis.Keyed

variable {α β : Type}

/-- Each key once, at its first place, and under it the value that came last. -/
def latest (l : Keyed α) : Keyed α :=
  (keys l).eraseDups.filterMap fun key => (get? l.reverse key).map fun v => (key, v)

example : latest [(("a" : Text), 1), ("b", 2), ("a", 3)] = [(("a" : Text), 3), ("b", 2)] := by
  decide

theorem get?_filterMap (ks : List Text) (f : Text → Option α) (key : Text) :
    get? (ks.filterMap fun k => (f k).map fun v => (k, v)) key =
      if key ∈ ks then f key else none := by
  induction ks with
  | nil => rfl
  | cons k r ih =>
    by_cases hkey : k = key
    · subst hkey
      cases hf : f k with
      | none => simp [hf, ih]
      | some v => simp [hf, get?]
    · cases hf : f k with
      | none => simp [hf, ih, Ne.symm hkey]
      | some v => simp [hf, get?, hkey, ih, Ne.symm hkey]

theorem keys_filterMap (ks : List Text) (f : Text → Option α)
    (h : ∀ key ∈ ks, (f key).isSome) :
    keys (ks.filterMap fun k => (f k).map fun v => (k, v)) = ks := by
  induction ks with
  | nil => rfl
  | cons k r ih =>
    obtain ⟨v, hv⟩ := Option.isSome_iff_exists.mp (h k List.mem_cons_self)
    have hrest := ih fun key hkey => h key (List.mem_cons_of_mem _ hkey)
    simp only [keys] at hrest ⊢
    simp [hv, hrest]

theorem mem_keys_reverse {l : Keyed α} {key : Text} : key ∈ keys l.reverse ↔ key ∈ keys l := by
  simp [keys]

theorem keys_latest (l : Keyed α) : keys (latest l) = (keys l).eraseDups := by
  apply keys_filterMap
  intro key hkey
  have hmem := mem_keys_reverse.mpr (List.mem_eraseDups.mp hkey)
  obtain ⟨v, hv⟩ := mem_keys_iff.mp hmem
  simp [hv]

/-- The last value is the one that is found first from the end. -/
theorem get?_latest (l : Keyed α) (key : Text) : get? (latest l) key = get? l.reverse key := by
  rw [latest, get?_filterMap]
  split
  · rfl
  · rename_i hnot
    symm
    rw [get?_eq_none_iff, mem_keys_reverse]
    intro hkey
    exact hnot (List.mem_eraseDups.mpr hkey)

theorem keys_foldl_set (l : Keyed α) :
    keys (l.foldl (fun m e => set m e.1 e.2) []) = (keys l).eraseDups := by
  induction l using List.reverseRecOn with
  | nil => rfl
  | append_singleton l e ih =>
    have hkeys : keys (l ++ [e]) = keys l ++ [e.1] := by simp [keys]
    rw [List.foldl_append, List.foldl_cons, List.foldl_nil, keys_set, ih, hkeys,
      List.eraseDups_append]
    by_cases hmem : e.1 ∈ keys l
    · simp [hmem, List.removeAll]
    · simp [hmem, List.removeAll, List.eraseDups_cons]

theorem nodup_keys_foldl_set (l : Keyed α) :
    (keys (l.foldl (fun m e => set m e.1 e.2) [])).Nodup := by
  induction l using List.reverseRecOn with
  | nil => exact List.nodup_nil
  | append_singleton l e ih =>
    rw [List.foldl_append, List.foldl_cons, List.foldl_nil]
    exact nodup_keys_set ih e.1 e.2

theorem get?_foldl_set (l : Keyed α) (key : Text) :
    get? (l.foldl (fun m e => set m e.1 e.2) []) key = get? l.reverse key := by
  induction l using List.reverseRecOn with
  | nil => rfl
  | append_singleton l e ih =>
    rw [List.foldl_append, List.foldl_cons, List.foldl_nil, List.reverse_append]
    by_cases hkey : key = e.1
    · rw [hkey, get?_set_self]
      simp [get?]
    · rw [get?_set_of_ne _ _ hkey, ih]
      simp [get?, Ne.symm hkey]

theorem foldl_set_eq_latest (l : Keyed α) :
    l.foldl (fun m e => set m e.1 e.2) [] = latest l := by
  apply ext_of_keys
  · rw [keys_foldl_set, keys_latest]
  · exact nodup_keys_foldl_set l
  · intro key _
    rw [get?_foldl_set, get?_latest]

theorem keys_map (l : Keyed α) (f : Text → α → β) :
    keys (l.map fun e => (e.1, f e.1 e.2)) = keys l := by
  simp [keys]

theorem get?_map (l : Keyed α) (f : Text → α → β) (key : Text) :
    get? (l.map fun e => (e.1, f e.1 e.2)) key = (get? l key).map (f key) := by
  induction l with
  | nil => rfl
  | cons e r ih =>
    by_cases hkey : e.1 = key
    · subst hkey
      simp [get?]
    · simp [get?, hkey, ih]

theorem latest_map (l : Keyed α) (f : Text → α → β) :
    latest (l.map fun e => (e.1, f e.1 e.2)) = (latest l).map fun e => (e.1, f e.1 e.2) := by
  have hnodup := nodup_keys_foldl_set (l.map fun e => (e.1, f e.1 e.2))
  rw [foldl_set_eq_latest] at hnodup
  apply ext_of_keys
  · rw [keys_latest, keys_map, keys_map, keys_latest]
  · exact hnodup
  · intro key _
    rw [get?_latest, get?_map, get?_latest, ← List.map_reverse, get?_map]

end Synopsis.Keyed
