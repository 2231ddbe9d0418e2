import Synopsis.Keyed
import Synopsis.Yaml.Value

namespace Synopsis

namespace Datum

variable {entries : List (Datum × Datum)} {key value : Datum}

/-- No key stands twice. -/
def KeysApart (entries : List (Datum × Datum)) : Prop :=
  (entries.map Prod.fst).Pairwise fun k k' => k.sameKey k' = false

theorem keys_setEntry (entries : List (Datum × Datum)) (key value : Datum) :
    (setEntry entries key value).map Prod.fst = entries.map Prod.fst ∨
      (setEntry entries key value).map Prod.fst = entries.map Prod.fst ++ [key] ∧
        ∀ k ∈ entries.map Prod.fst, k.sameKey key = false := by
  induction entries with
  | nil => exact .inr ⟨rfl, by simp⟩
  | cons e r ih =>
    rw [setEntry]
    split
    · exact .inl rfl
    · rename_i hother
      refine ih.imp (fun h => by simp [h]) fun ⟨h, hapart⟩ => ⟨by simp [h], ?_⟩
      rw [List.map_cons, List.forall_mem_cons]
      exact ⟨by simpa using hother, hapart⟩

theorem KeysApart.setEntry (h : KeysApart entries) (key value : Datum) :
    KeysApart (setEntry entries key value) := by
  rcases keys_setEntry entries key value with hkeys | ⟨hkeys, hapart⟩
  · rw [KeysApart, hkeys]
    exact h
  · rw [KeysApart, hkeys, List.pairwise_append]
    refine ⟨h, List.pairwise_singleton _ _, fun k hk k' hk' => ?_⟩
    rw [List.mem_singleton.mp hk']
    exact hapart k hk

theorem KeysApart.nodup {texts : Keyed Datum}
    (h : KeysApart (texts.map fun e => (.text e.1, e.2))) : (Keyed.keys texts).Nodup := by
  rw [KeysApart, List.map_map, List.pairwise_map] at h
  rw [Keyed.keys, List.Nodup, List.pairwise_map]
  refine h.imp fun {e e'} hapart hsame => ?_
  simp [sameKey, whole?, number?, hsame] at hapart

end Datum

namespace Yaml

variable {n : Node} {m : List (Datum × Datum)} {s : Text}

theorem keysApart_mappingOf (entries : List (Datum × Datum)) :
    Datum.KeysApart (mappingOf entries) := by
  have hfold (start : List (Datum × Datum)) (h : Datum.KeysApart start) :
      Datum.KeysApart (entries.foldl (fun m e => Datum.setEntry m e.1 e.2) start) := by
    induction entries generalizing start with
    | nil => exact h
    | cons e r ih => exact ih _ (h.setEntry e.1 e.2)
  exact hfold [] List.Pairwise.nil

/-- A text alone is no mapping. -/
theorem scalar_ne_map (tag : Tag) (s : Text) : scalar tag s ≠ .ok (.map m) := by
  have hmapped {α : Type} {x : Except Fault α} {f : α → Datum} (hf : ∀ a, f a ≠ .map m) :
      x.map f ≠ .ok (.map m) := by
    intro h
    cases x with
    | error e => cases h
    | ok a => exact hf a (Except.ok.inj h)
  cases tag with
  | truth =>
    intro h
    simp only [scalar, readTruth] at h
    split at h
    · cases h
    · split at h <;> cases h
  | whole => exact hmapped fun n h => by cases h
  | real => exact hmapped fun x h => by cases h
  | time =>
    intro h
    simp only [scalar, readTime] at h
    split at h
    · cases h
    · split at h <;> cases h
  | bytes =>
    intro h
    simp only [scalar, readBytes] at h
    split at h
    · split at h <;> cases h
    · cases h
  | _ =>
    intro h
    cases h

theorem single_ne_map (tag : Tag) (n : Node) : single tag n ≠ .ok (.map m) := by
  intro h
  unfold single at h
  split at h
  · cases h
  · generalize hscalar : scalar _ _ = result at h
    cases result with
    | error f => cases h
    | ok d => exact scalar_ne_map _ _ (hscalar.trans (congrArg Except.ok (Except.ok.inj h)))
  · cases h

theorem gathered_eq_ok {merged : Option (List (Outcome Datum × Outcome Datum))}
    {own : List (Outcome Datum × Outcome Datum)} (h : gathered merged own = .ok m) :
    ∃ entries, m = mappingOf entries := by
  unfold gathered at h
  split at h
  · rename_i merged
    generalize Outcome.all _ = all at h
    cases all with
    | error f => cases h
    | ok entries => exact ⟨entries, (Except.ok.inj h).symm⟩
  · cases h

theorem below_map_eq_ok {α : Type} {x : Outcome α} {f : α → Datum} {d : Datum}
    (h : Outcome.below (x.map f) = .ok d) : ∃ a, x = .ok a ∧ f a = d := by
  cases x with
  | error e => cases h
  | ok a => exact ⟨a, rfl, Except.ok.inj h⟩

/-- A mapping comes of its entries taken in one after the other. -/
theorem value_eq_map (h : value n = .ok (.map m)) : ∃ entries, m = mappingOf entries := by
  unfold value at h
  split at h
  · simp only at h
    split at h
    · cases h
    · exact absurd h (single_ne_map _ _)
  · split at h
    · obtain ⟨items, -, hlist⟩ := below_map_eq_ok h
      cases hlist
    · obtain ⟨items, -, hlist⟩ := below_map_eq_ok h
      cases hlist
    · split at h <;> cases h
  · split at h
    · obtain ⟨entries, hgathered, hmap⟩ := below_map_eq_ok h
      obtain rfl := Datum.map.inj hmap
      exact gathered_eq_ok hgathered
    · obtain ⟨items, -, hset⟩ := below_map_eq_ok h
      cases hset
    · split at h
      · cases h
      · exact absurd h (single_ne_map _ _)

/-- The keys of a mapping that a text holds stand once each. -/
theorem keysApart_of_read (h : read s = .ok (.map m)) : Datum.KeysApart m := by
  unfold read at h
  split at h
  · cases h
  · cases h
  · rename_i n _
    cases hvalue : value n with
    | error f =>
      rw [hvalue] at h
      cases h
    | ok d =>
      rw [hvalue] at h
      obtain ⟨entries, rfl⟩ := value_eq_map (hvalue.trans (congrArg Except.ok (Except.ok.inj h)))
      exact keysApart_mappingOf entries

end Yaml
end Synopsis
