import Synopsis.Discovery
import Synopsis.Proofs.Text.Basic

namespace Synopsis.Discovery

variable {h : Host} {t : Tree} {root : Path} {extensions all paths : List Text}
  {path : Text} {notes : List Note}

theorem nodup_eraseDups (paths : List Text) : paths.eraseDups.Nodup := by
  cases paths with
  | nil => simp
  | cons path r =>
    rw [List.eraseDups_cons, List.nodup_cons]
    refine ⟨?_, nodup_eraseDups _⟩
    simp [List.mem_eraseDups]
termination_by paths.length
decreasing_by
  have hle := List.length_filter_le (fun other => !other == path) r
  simp only [List.length_cons]
  omega

theorem eraseDups_of_nodup (hnodup : paths.Nodup) : paths.eraseDups = paths := by
  induction paths with
  | nil => simp
  | cons path r ih =>
    obtain ⟨hnot, hrest⟩ := List.nodup_cons.mp hnodup
    have hkept : r.filter (fun other => !other == path) = r := by
      apply List.filter_eq_self.mpr
      intro other hother
      have hne : other ≠ path := fun heq => hnot (heq ▸ hother)
      simp [hne]
    rw [List.eraseDups_cons, hkept, ih hrest]

theorem nodup_inOrder (paths : List Text) : (inOrder paths).Nodup := nodup_eraseDups _

theorem mem_inOrder_iff : path ∈ inOrder paths ↔ path ∈ paths := by
  rw [inOrder, List.mem_eraseDups, List.mem_mergeSort]

theorem sublist_eraseDups (paths : List Text) : paths.eraseDups.Sublist paths := by
  cases paths with
  | nil => simp
  | cons path r =>
    rw [List.eraseDups_cons]
    exact ((sublist_eraseDups _).trans List.filter_sublist).cons_cons path
termination_by paths.length
decreasing_by
  have hle := List.length_filter_le (fun other => !other == path) r
  simp only [List.length_cons]
  omega

/-- The order is that of the characters, and no path comes twice. -/
theorem pairwise_inOrder (paths : List Text) : (inOrder paths).Pairwise (· < ·) := by
  have hsorted : (paths.mergeSort fun a b => decide (a ≤ b)).Pairwise
      fun a b => decide (a ≤ b) = true :=
    List.pairwise_mergeSort (by simpa using fun _ _ _ => Text.le_trans)
      (by simpa using Text.le_total) paths
  have hordered := (hsorted.sublist (sublist_eraseDups _)).and (nodup_inOrder paths)
  exact hordered.imp fun ⟨hle, hne⟩ => Text.lt_of_le_of_ne (by simpa using hle) hne

/-- There is but one list in this order. -/
theorem eq_of_pairwise {paths' : List Text} (h : paths.Pairwise (· < ·))
    (h' : paths'.Pairwise (· < ·)) (hmem : ∀ path, path ∈ paths ↔ path ∈ paths') :
    paths = paths' := by
  have hne {a b : Text} (hlt : a < b) : a ≠ b := by
    rintro rfl
    exact Text.lt_irrefl _ hlt
  have hnodup {l : List Text} (hl : l.Pairwise (· < ·)) : l.Nodup := hl.imp hne
  have hperm := (List.perm_ext_iff_of_nodup (hnodup h) (hnodup h')).mpr hmem
  exact hperm.eq_of_pairwise (fun _ _ _ _ hab hba => absurd hba (Text.lt_asymm hab)) h h'

theorem isWanted_eq_true_iff : isWanted t root extensions path = .ok true ↔
    Path.extension path ∈ extensions ∧ isIgnored path = false ∧
      t.isFile (root / path) = .ok true := by
  unfold isWanted
  by_cases hcounts : Path.extension path ∈ extensions ∧ (!isIgnored path) = true
  · have hnot : isIgnored path = false := by simpa using hcounts.2
    simp [hcounts.1, hnot]
  · rw [if_neg hcounts]
    simp only [Except.ok.injEq, Bool.false_eq_true, false_iff]
    rintro ⟨hextension, hnot, -⟩
    exact hcounts ⟨hextension, by simp [hnot]⟩

theorem mem_wanted_iff (hwanted : wanted t root extensions all = .ok paths) :
    path ∈ paths ↔ path ∈ all ∧ isWanted t root extensions path = .ok true := by
  induction all generalizing paths with
  | nil =>
    obtain rfl := Except.ok.inj hwanted
    simp
  | cons candidate r ih =>
    rw [wanted] at hwanted
    cases hone : isWanted t root extensions candidate with
    | error f => simp [hone] at hwanted
    | ok keep =>
      cases hrest : wanted t root extensions r with
      | error f => simp [hone, hrest, Except.map] at hwanted
      | ok rest =>
        have hpaths : (if keep then candidate :: rest else rest) = paths := by
          simpa [hone, hrest, Except.map] using hwanted
        rw [← hpaths, List.mem_cons]
        by_cases hsame : path = candidate
        · subst hsame
          cases keep <;> simp [hone, ih hrest]
        · cases keep <;> simp [hsame, ih hrest]

theorem wanted_ok (h : ∀ path ∈ all, ∃ keep, isWanted t root extensions path = .ok keep) :
    ∃ paths, wanted t root extensions all = .ok paths := by
  induction all with
  | nil => exact ⟨[], rfl⟩
  | cons path r ih =>
    obtain ⟨keep, hkeep⟩ := h path List.mem_cons_self
    obtain ⟨rest, hrest⟩ := ih fun other hother => h other (List.mem_cons_of_mem _ hother)
    exact ⟨_, by rw [wanted, hkeep, hrest]; rfl⟩

/-- Something is found if the paths that may count can be had, and each of them can be looked at. -/
theorem discover_eq_ok_iff : (discover h t root extensions).1 = .ok paths ↔
    ∃ top all kept, h.expand root = .ok top ∧ (candidates h t top).1 = .ok all ∧
      wanted t top extensions all = .ok kept ∧ paths = inOrder kept := by
  unfold discover
  cases h.expand root with
  | error f => simp
  | ok top =>
    rcases hall : candidates h t top with ⟨f | all, notes⟩
    · simp [hall]
    · cases hkept : wanted t top extensions all with
      | error f => simp [hall, hkept]
      | ok kept => simp [hall, hkept, eq_comm]

/-- What is found are those of the paths that may count that do, each of them once. -/
theorem discover_ok (hfound : discover h t root extensions = (.ok paths, notes)) :
    ∃ top, h.expand root = .ok top ∧ paths.Nodup ∧ ∀ path, path ∈ paths ↔
      (∃ all, (candidates h t top).1 = .ok all ∧ path ∈ all) ∧ Path.extension path ∈ extensions ∧
        isIgnored path = false ∧ t.isFile (top / path) = .ok true := by
  obtain ⟨top, all, kept, hexpand, hall, hkept, rfl⟩ :=
    discover_eq_ok_iff.mp (congrArg Prod.fst hfound)
  refine ⟨top, hexpand, nodup_inOrder kept, fun path => ?_⟩
  rw [mem_inOrder_iff, mem_wanted_iff hkept, isWanted_eq_true_iff, hall]
  simp

end Synopsis.Discovery
