import Synopsis.Proofs.Settings.Layers

namespace Synopsis.Settings

variable {source key : Text} {s s' : Settings} {value : Datum} {entries : List (Datum × Datum)}

/-- Only one key tells whether an index is pruned. -/
theorem assign_prune (h : assign source s key value = .ok s') :
    if key = "prune" then truth? value = some s'.prune else s'.prune = s.prune := by
  obtain ⟨-, rule, v, hrule, hreads, htable⟩ := assign_ok h
  have hprune : Keyed.get? (Keyed.set s.table key v) "prune" = some (.truth s'.prune) := by
    rw [← htable]
    rfl
  split
  · rename_i hkey
    subst hkey
    rw [Keyed.get?_set_self, Option.some.injEq] at hprune
    subst hprune
    obtain rfl : .truth = rule := Option.some.inj hrule
    cases hreads
    rfl
  · rename_i hkey
    have hformer : Keyed.get? s.table "prune" = some (.truth s.prune) := rfl
    rw [Keyed.get?_set_of_ne _ _ (Ne.symm hkey), hformer, Option.some.injEq,
      Setting.truth.injEq] at hprune
    exact hprune.symm

theorem assignAll_prune (hall : ∀ e ∈ entries, e.1 = .text "prune" → e.2 = .bool true)
    (hset : s.prune = true ∨ (.text "prune", .bool true) ∈ entries)
    (h : assignAll source s entries = .ok s') : s'.prune = true := by
  induction entries generalizing s with
  | nil =>
    obtain rfl := Except.ok.inj h
    simpa using hset
  | cons e r ih =>
    obtain ⟨key, value⟩ := e
    rw [assignAll] at h
    cases hone : assign source s (key.text?.getD "") value with
    | error f => simp [hone] at h
    | ok next =>
      rw [hone] at h
      have hrest : ∀ e ∈ r, e.1 = .text "prune" → e.2 = .bool true :=
        fun e he => hall e (List.mem_cons_of_mem _ he)
      refine ih hrest ?_ h
      have hassigned := assign_prune hone
      by_cases hkey : key = .text "prune"
      · have hvalue : value = .bool true := hall _ List.mem_cons_self hkey
        left
        rw [hkey, hvalue] at hassigned
        exact (Option.some.inj hassigned).symm
      · have hother : key.text?.getD "" ≠ "prune" := by
          have hempty : ("" : Text) ≠ "prune" := by decide
          intro hsame
          cases key with
          | text word => exact hkey (congrArg Datum.text hsame)
          | _ => exact hempty hsame
        rw [if_neg hother] at hassigned
        rw [hassigned]
        exact hset.imp id fun hmem => by
          rcases List.mem_cons.mp hmem with heq | hmem
          · exact absurd (Prod.mk.inj heq).1.symm hkey
          · exact hmem

/-- An index is pruned where the command line says so. -/
theorem prune_of_load {h : Host} {t : Tree} {root : Path} {options : RunOptions}
    {document : Option Path} (hprune : options.prune = true)
    (hload : load h t root options.overrides document = .ok s) : s.prune = true := by
  unfold load at hload
  cases hexpand : h.expand root with
  | error f => simp [hexpand] at hload
  | ok place =>
    cases hfile : standard.overlayFile t (document.getD (place / documentPath)) with
    | error f => simp [hexpand, hfile] at hload
    | ok base =>
      simp only [hexpand, hfile] at hload
      split at hload
      · simp at hload
      · rename_i made hover
        have hgiven : ∀ e ∈ options.overrides, e.1 = "prune" → e.2 = .bool true := by
          simp [RunOptions.overrides, hprune]
        have hmade : made.prune = true := by
          unfold overlay at hover
          split at hover
          · refine assignAll_prune ?_ (.inr ?_) hover
            · intro e he hkey
              obtain ⟨given, hmem, rfl⟩ := List.mem_map.mp he
              exact hgiven given (List.mem_filter.mp hmem).1 (Datum.text.inj hkey)
            · simp [RunOptions.overrides, hprune, Datum.isNull]
          · simp at hover
        rw [← Except.ok.inj hload]
        exact hmade

end Synopsis.Settings
