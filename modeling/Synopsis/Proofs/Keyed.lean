import Synopsis.Keyed

namespace Synopsis.Keyed

variable {α : Type} {l : Keyed α} {key other : Text} {v w : α}

theorem set_set (l : Keyed α) (key : Text) (v w : α) :
    set (set l key v) key w = set l key w := by
  induction l with
  | nil => simp [set]
  | cons e r ih =>
    obtain ⟨k, u⟩ := e
    by_cases h : k = key <;> simp [set, h, ih]

theorem set_of_get? (h : get? l key = some v) : set l key v = l := by
  induction l with
  | nil => simp [get?] at h
  | cons e r ih =>
    obtain ⟨k, u⟩ := e
    by_cases hk : k = key
    · simp_all [get?, set]
    · simp only [get?, hk, if_false] at h
      simp [set, hk, ih h]

/-- A key that is there keeps its place, so other keys may be set before or after it. -/
theorem set_comm (h : (get? l key).isSome) (hne : other ≠ key) :
    set (set l key v) other w = set (set l other w) key v := by
  induction l with
  | nil => simp [get?] at h
  | cons e r ih =>
    obtain ⟨k, u⟩ := e
    by_cases hk : k = key
    · have hko : k ≠ other := fun he => hne (he.symm.trans hk)
      subst hk
      simp [set, hko]
    · simp only [get?, hk, if_false] at h
      by_cases hko : k = other
      · subst hko
        simp [set, hk]
      · simp [set, hk, hko, ih h]

theorem erase_set_set (h : get? l key = none) (hne : other ≠ key) :
    erase (set (set l key v) other w) key = set l other w := by
  induction l with
  | nil => simp [set, erase, hne.symm]
  | cons e r ih =>
    obtain ⟨k, u⟩ := e
    by_cases hk : k = key
    · simp [get?, hk] at h
    · simp only [get?, hk, if_false] at h
      by_cases hko : k = other
      · subst hko
        simp [set, erase, hk, erase_set_of_get?_none v h]
      · simp [set, erase, hk, hko, ih h]

theorem get?_eq_none_iff : get? l key = none ↔ key ∉ keys l := by
  induction l with
  | nil => simp [get?, keys]
  | cons e r ih =>
    obtain ⟨k, u⟩ := e
    by_cases hk : k = key
    · simp [get?, keys, hk]
    · simpa [get?, keys, hk, Ne.symm hk] using ih

theorem mem_of_get? (h : get? l key = some v) : (key, v) ∈ l := by
  induction l with
  | nil => simp [get?] at h
  | cons e r ih =>
    obtain ⟨k, u⟩ := e
    rw [get?] at h
    split at h
    · rename_i hkey
      obtain rfl : u = v := Option.some.inj h
      exact hkey ▸ List.mem_cons_self
    · exact List.mem_cons_of_mem _ (ih h)

theorem mem_keys_iff : key ∈ keys l ↔ ∃ v, get? l key = some v := by
  have hnone : key ∉ keys l ↔ get? l key = none := get?_eq_none_iff.symm
  cases hget : get? l key <;> simp_all

theorem set_of_not_mem (h : key ∉ keys l) : set l key v = l ++ [(key, v)] := by
  induction l with
  | nil => rfl
  | cons e r ih =>
    obtain ⟨k, u⟩ := e
    simp only [keys, List.map_cons, List.mem_cons, not_or] at h
    simp [set, Ne.symm h.1, ih h.2]

theorem keys_set (l : Keyed α) (key : Text) (v : α) :
    keys (set l key v) = if key ∈ keys l then keys l else keys l ++ [key] := by
  induction l with
  | nil => simp [set, keys]
  | cons e r ih =>
    obtain ⟨k, u⟩ := e
    by_cases hk : k = key
    · simp [set, keys, hk]
    · have hset : set ((k, u) :: r) key v = (k, u) :: set r key v := by simp [set, hk]
      have hcons (u : α) (r : Keyed α) : keys ((k, u) :: r) = k :: keys r := rfl
      rw [hset, hcons, hcons, ih]
      by_cases hmem : key ∈ keys r <;> simp [hmem, Ne.symm hk]

theorem nodup_keys_set (h : (keys l).Nodup) (key : Text) (v : α) :
    (keys (set l key v)).Nodup := by
  rw [keys_set]
  split
  · exact h
  · rename_i hmem
    exact List.nodup_append.mpr ⟨h, by simp, fun x hx y hy hxy => by
      rw [List.mem_singleton.mp hy] at hxy
      exact hmem (hxy ▸ hx)⟩

/-- What is set is there, or was there before. -/
theorem mem_of_mem_set {e : Text × α} (h : e ∈ set l key v) : e = (key, v) ∨ e ∈ l := by
  induction l with
  | nil => simpa [set] using h
  | cons e' r ih =>
    obtain ⟨k, u⟩ := e'
    by_cases hk : k = key
    · rw [set, if_pos hk] at h
      rcases List.mem_cons.mp h with rfl | h
      · exact .inl (by rw [hk])
      · exact .inr (List.mem_cons_of_mem _ h)
    · rw [set, if_neg hk] at h
      rcases List.mem_cons.mp h with rfl | h
      · exact .inr List.mem_cons_self
      · exact (ih h).imp id (List.mem_cons_of_mem _)

/-- New keys, each once, are lined up behind the others. -/
theorem foldl_set_of_nodup {β : Type} (key : β → Text) (value : β → α) (new : List β)
    (hnodup : (new.map key).Nodup) (hnew : ∀ b ∈ new, key b ∉ keys l) :
    new.foldl (fun m b => set m (key b) (value b)) l = l ++ new.map fun b => (key b, value b) := by
  induction new generalizing l with
  | nil => simp
  | cons b r ih =>
    rw [List.map_cons, List.nodup_cons] at hnodup
    have hb := hnew b List.mem_cons_self
    rw [List.foldl_cons, set_of_not_mem hb, ih hnodup.2]
    · simp
    · intro c hc
      have hkeys : keys (l ++ [(key b, value b)]) = keys l ++ [key b] := by simp [keys]
      rw [hkeys, List.mem_append, List.mem_singleton, not_or]
      exact ⟨hnew c (List.mem_cons_of_mem _ hc),
        fun he => hnodup.1 (he ▸ List.mem_map_of_mem hc)⟩

theorem ext_of_keys {l' : Keyed α} (hkeys : keys l = keys l') (hnodup : (keys l).Nodup)
    (hget : ∀ key ∈ keys l, get? l key = get? l' key) : l = l' := by
  induction l generalizing l' with
  | nil =>
    cases l' with
    | nil => rfl
    | cons e r => simp [keys] at hkeys
  | cons e r ih =>
    cases l' with
    | nil => simp [keys] at hkeys
    | cons e' r' =>
      obtain ⟨k, u⟩ := e
      obtain ⟨k', u'⟩ := e'
      simp only [keys, List.map_cons, List.cons.injEq] at hkeys
      obtain ⟨rfl, htail⟩ := hkeys
      simp only [keys, List.map_cons, List.nodup_cons] at hnodup
      have hhead := hget k (by simp [keys])
      simp only [get?, if_true, Option.some.injEq] at hhead
      have hrest : r = r' := by
        apply ih htail hnodup.2
        intro key hkey
        have hne : k ≠ key := by
          rintro rfl
          exact hnodup.1 hkey
        have hboth := hget key (List.mem_cons_of_mem _ hkey)
        simpa [get?, hne] using hboth
      rw [hhead, hrest]

theorem setDefault_of_mem (h : key ∈ keys l) : setDefault l key v = l := by
  obtain ⟨u, hu⟩ := mem_keys_iff.mp h
  rw [setDefault, hu]

theorem setDefault_of_not_mem (h : key ∉ keys l) : setDefault l key v = l ++ [(key, v)] := by
  rw [setDefault, get?_eq_none_iff.mpr h]

theorem get?_append_left {r : Keyed α} (h : key ∈ keys l) : get? (l ++ r) key = get? l key := by
  induction l with
  | nil => simp [keys] at h
  | cons e l ih =>
    obtain ⟨k, u⟩ := e
    by_cases hk : k = key
    · simp [get?, hk]
    · have hmem : key ∈ keys l := by simpa [keys, Ne.symm hk] using h
      simp [get?, hk, ih hmem]

theorem get?_append_right {r : Keyed α} (h : key ∉ keys l) : get? (l ++ r) key = get? r key := by
  induction l with
  | nil => rfl
  | cons e l ih =>
    obtain ⟨k, u⟩ := e
    simp only [keys, List.map_cons, List.mem_cons, not_or] at h
    simp [get?, Ne.symm h.1, ih h.2]

end Synopsis.Keyed
