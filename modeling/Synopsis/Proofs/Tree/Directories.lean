import Synopsis.Proofs.Tree.Slot

namespace Synopsis.Tree

variable {t t' : Tree} {p : Path} {loc : Location}

/-- A tree with more directories than another one, and the same files. -/
abbrev Grows : Tree → Tree → Prop := Spares fun _ => False

theorem isDir_eq_true_iff : t.isDir p = .ok true ↔
    ∃ loc, t.locate p = .ok loc ∧ t.top.item? loc = some .dir := by
  unfold isDir look? look
  cases t.locate p with
  | error e => cases e <;> simp [Except.map]
  | ok loc =>
    cases hn : t.top.get? loc with
    | none => simp [Except.map, Node.item?, hn]
    | some n => cases n <;> simp [Except.map, Node.item?, Node.item, Node.isDir, hn]

theorem isDir_extends (hhere : t'.here = t.here) (he : Node.Extends t.top t'.top)
    (h : t.isDir p = .ok true) : t'.isDir p = .ok true := by
  obtain ⟨loc, hloc, hdir⟩ := isDir_eq_true_iff.mp h
  exact isDir_eq_true_iff.mpr ⟨loc, locate_extends hhere he hloc, he.dir loc hdir⟩

theorem makeDir_eq_ok_iff : t.makeDir p = .ok t' ↔ isNamed p = true ∧ ∃ dir, t.Reaches p dir ∧
    t.top.get? (dir ++ [p.name]) = none ∧
    t' = { t with top := t.top.set (dir ++ [p.name]) (.dir []) } := by
  rw [makeDir]
  cases hslot : t.slot p with
  | error e =>
    have hno : ¬ ∃ dir, t.Reaches p dir := by
      rintro ⟨dir, hreach⟩
      rw [slot_eq_ok_iff.mpr ⟨dir, hreach, rfl, rfl⟩] at hslot
      simp at hslot
    simp only [reduceCtorEq, false_iff]
    rintro ⟨-, dir, hreach, -⟩
    exact hno ⟨dir, hreach⟩
  | ok place =>
    obtain ⟨loc, old⟩ := place
    obtain ⟨dir, hreach, rfl, rfl⟩ := slot_eq_ok_iff.mp hslot
    have hdir (other : Location) (h : t.Reaches p other) : other = dir := by
      have hway := h.way
      rw [hreach.way, Except.ok.injEq] at hway
      exact hway.symm
    constructor
    · intro h
      by_cases hnew : isNamed p = true ∧ t.top.get? (dir ++ [p.name]) = none
      · simp only [hnew.1, hnew.2, Option.isNone_none, Bool.and_self, if_true,
          Except.ok.injEq] at h
        exact ⟨hnew.1, dir, hreach, hnew.2, h.symm⟩
      · have hold : ¬ (isNamed p && (t.top.get? (dir ++ [p.name])).isNone) = true := by
          simpa [Option.isNone_iff_eq_none] using hnew
        simp [hold] at h
    · rintro ⟨hnamed, other, hother, hnone, rfl⟩
      obtain rfl := hdir other hother
      simp [hnamed, hnone]

theorem item?_set_dir {dir : Location} {name : Text} (hdir : t.top.item? dir = some .dir)
    (hnone : t.top.get? (dir ++ [name]) = none) (loc : Location) :
    (t.top.set (dir ++ [name]) (.dir [])).item? loc =
      if loc = dir ++ [name] then some .dir else t.top.item? loc := by
  have hfree : t.top.item? (dir ++ [name]) ≠ some .dir := by
    rw [Node.item?_eq_none_iff.mpr hnone]
    simp
  exact Node.item?_set hdir hfree (fun x r => by simp [Node.get?_cons, Keyed.get?]) loc

theorem makeDir_grows (h : t.makeDir p = .ok t') : Grows t t' := by
  obtain ⟨-, dir, hreach, hnone, rfl⟩ := makeDir_eq_ok_iff.mp h
  have hfree := Node.item?_eq_none_iff.mpr hnone
  have hitem := item?_set_dir hreach.isDir hnone
  refine ⟨rfl, rfl, ⟨?_, ?_⟩, ?_⟩
  · intro loc hdir
    rw [hitem loc]
    split
    · rfl
    · exact hdir
  · intro loc hthere
    rw [hitem loc]
    split
    · rfl
    · exact hthere
  · intro loc _ content mode
    rw [hitem loc]
    split
    · rename_i heq
      rw [heq, hfree]
      simp
    · exact Iff.rfl

theorem isDir_makeDir (h : t.makeDir p = .ok t') : t'.isDir p = .ok true := by
  have hgrows := makeDir_grows h
  obtain ⟨hnamed, dir, hreach, hnone, rfl⟩ := makeDir_eq_ok_iff.mp h
  have hitem := item?_set_dir hreach.isDir hnone (dir ++ [p.name])
  rw [if_pos rfl] at hitem
  have hreach' := hreach.extends hgrows.here hgrows.more
  refine isDir_eq_true_iff.mpr ⟨_, ?_, hitem⟩
  rw [hreach'.locate hnamed, hitem]
  rfl

theorem settle_eq (t : Tree) (p : Path) (e : Refusal) : t.settle p e = (.ok (), t) ∧
    t.isDir p = .ok true ∨ ∃ f, t.settle p e = (.error f, t) := by
  rw [settle]
  cases hdir : t.isDir p with
  | error f => exact .inr ⟨_, rfl⟩
  | ok b =>
    cases b with
    | false => exact .inr ⟨_, rfl⟩
    | true => exact .inl ⟨rfl, rfl⟩

/-- Every outcome: directories were added, and if all went well the last of them is there. -/
theorem makeDirsBack_spec (t : Tree) (anchor : Anchor) (parts : List Text) :
    Grows t (t.makeDirsBack anchor parts).2 ∧ ((t.makeDirsBack anchor parts).1 = .ok () →
      (t.makeDirsBack anchor parts).2.isDir ⟨anchor, parts.reverse⟩ = .ok true) := by
  have hsettle (s : Tree) (p : Path) (e : Refusal) (hs : Grows t s) :
      Grows t (s.settle p e).2 ∧ ((s.settle p e).1 = .ok () →
        (s.settle p e).2.isDir p = .ok true) := by
    rcases settle_eq s p e with ⟨hs', hdir⟩ | ⟨f, hs'⟩
    · rw [hs']
      exact ⟨hs, fun _ => hdir⟩
    · rw [hs']
      exact ⟨hs, fun h => by simp at h⟩
  induction parts with
  | nil => exact hsettle t _ _ (.refl _ t)
  | cons name up ih =>
    rw [makeDirsBack]
    cases hmake : t.makeDir ⟨anchor, (name :: up).reverse⟩ with
    | ok made => exact ⟨makeDir_grows hmake, fun _ => isDir_makeDir hmake⟩
    | error e =>
      cases e with
      | missing =>
        cases habove : t.makeDirsBack anchor up with
        | mk done above =>
          rw [habove] at ih
          cases done with
          | error f => exact ⟨ih.1, fun h => by simp at h⟩
          | ok _ =>
            simp only
            cases hmake' : above.makeDir ⟨anchor, (name :: up).reverse⟩ with
            | ok made =>
              exact ⟨ih.1.trans (makeDir_grows hmake'), fun _ => isDir_makeDir hmake'⟩
            | error e' =>
              cases e' with
              | missing => exact ⟨ih.1, fun h => by simp at h⟩
              | _ => exact hsettle above _ _ ih.1
      | _ => exact hsettle t _ _ (.refl _ t)

theorem makeDirs_grows {done : Except Fault Unit} (h : t.makeDirs p = (done, t')) :
    Grows t t' := by
  have hspec := (makeDirsBack_spec t p.anchor p.parts.reverse).1
  rwa [← makeDirs, h] at hspec

theorem isDir_makeDirs (h : t.makeDirs p = (.ok (), t')) : t'.isDir p = .ok true := by
  have hspec := (makeDirsBack_spec t p.anchor p.parts.reverse).2
  rw [← makeDirs, h, List.reverse_reverse] at hspec
  exact hspec rfl

/-- The slot of a directory that is there already is taken. -/
theorem makeDir_of_isDir (hparts : p.parts ≠ []) (h : t.isDir p = .ok true) :
    t.makeDir p = .error .occupied := by
  obtain ⟨loc, hloc, hdir⟩ := isDir_eq_true_iff.mp h
  obtain ⟨hnone, hwalk⟩ := locate_eq_ok_iff.mp hloc
  have hlast : p.name = p.parts.getLast hparts := by
    rw [Path.name, List.getLast?_eq_some_getLast hparts, Option.getD_some]
  rw [← List.dropLast_concat_getLast hparts, walk_append, ← hlast] at hwalk
  cases hway : walk t.top (t.start p) p.parts.dropLast with
  | error e => simp [hway, Except.bind] at hwalk
  | ok dir =>
    rw [hway] at hwalk
    obtain ⟨next, hnext, hend⟩ := walk_cons_eq_ok_iff.mp hwalk
    obtain rfl := walk_nil_eq_ok_iff.mp hend
    obtain ⟨hplace, hclimb, hpart⟩ := enter_eq_ok_iff.mp hnext
    have hshort : p.name.fileSize ≤ nameLimit := by
      rcases hpart with hup | hpart
      · rw [hup]
        decide
      · exact hpart.1
    have hslot := slot_eq_ok_iff.mpr ⟨dir, ⟨hnone, hshort, hway, hplace⟩, rfl, rfl⟩
    rw [makeDir, hslot]
    by_cases hup : p.name = ".."
    · simp [isNamed, hup]
    · have hthere := (hpart.resolve_left hup).2
      obtain ⟨n, hn⟩ : ∃ n, t.top.get? (dir ++ [p.name]) = some n := by
        simpa [Node.item?, Option.isSome_iff_exists] using hthere
      simp [hn]

theorem makeDirs_of_isDir (h : t.isDir p = .ok true) : t.makeDirs p = (.ok (), t) := by
  have hsettle (e : Refusal) : t.settle p e = (.ok (), t) := by rw [settle, h]
  rw [makeDirs]
  cases hback : p.parts.reverse with
  | nil =>
    have hp : p = ⟨p.anchor, []⟩ := by
      rw [← List.reverse_eq_nil_iff.mp hback]
    rw [makeDirsBack, ← hp, hsettle]
  | cons name up =>
    have hparts : p.parts = (name :: up).reverse := by rw [← hback, List.reverse_reverse]
    have hp : p = ⟨p.anchor, (name :: up).reverse⟩ := by rw [← hparts]
    have hmake := makeDir_of_isDir (by rw [hparts]; simp) h
    rw [makeDirsBack, ← hp, hmake]
    exact hsettle .occupied

end Synopsis.Tree
