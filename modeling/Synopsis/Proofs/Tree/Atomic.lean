import Synopsis.Proofs.Tree.Alike

namespace Synopsis

/-- An error of the operating system, which is not asked about a path that names nothing. -/
def Fault.IsSystem (f : Fault) : Prop := ∀ why, f.refusal ≠ .unnameable why

namespace Tree

variable {t t' : Tree} {p temp : Path} {loc : Location} {content : List UInt8} {text : Text}

/-- The path has a part that can be no name, or the working directory has. -/
def HasUnnameable (t : Tree) (p : Path) : Prop := ∃ part ∈ t.here ++ p.parts, ¬ Nameable part

theorem slot_eq_unnameable {why : NameFault} (h : t.slot p = .error (.unnameable why)) :
    ∃ part ∈ p.parts, ¬ Nameable part := by
  unfold slot at h
  cases hobstacle : obstacle? p with
  | some e =>
    simp only [hobstacle, Except.error.injEq] at h
    have hnot : ¬ ∀ part ∈ p.parts, Nameable part := fun hall =>
      nameable_parts_iff.mp hall why (hobstacle.trans (congrArg some h))
    simpa using hnot
  | none =>
    simp only [hobstacle] at h
    cases hway : walk t.top (t.start p) p.parts.dropLast with
    | error e =>
      simp only [hway, Except.error.injEq] at h
      exact absurd (hway.trans (congrArg Except.error h)) (walk_ne_unnameable _ _ _ _)
    | ok dir =>
      simp only [hway] at h
      split at h
      · split at h <;> simp at h
      · simp at h
      · simp at h

theorem mem_absolute {part : Text} (h : part ∈ (t.absolute p).parts) :
    part ∈ t.here ++ p.parts := by
  have hfold (parts : List Text) (place : Location) (h : part ∈ parts.foldl climb place) :
      part ∈ place ++ parts := by
    induction parts generalizing place with
    | nil => simpa using h
    | cons other r ih =>
      have hlater := ih _ h
      rw [List.mem_append] at hlater ⊢
      rcases hlater with hplace | hr
      · unfold climb at hplace
        split at hplace
        · exact .inl ((List.dropLast_sublist place).subset hplace)
        · rcases List.mem_append.mp hplace with hplace | hown
          · exact .inl hplace
          · exact .inr (List.mem_cons.mpr (.inl (List.mem_singleton.mp hown)))
      · exact .inr (List.mem_cons_of_mem _ hr)
  have hparts : part ∈ p.parts.foldl climb (t.start p) := by
    rw [← destination_eq]
    exact h
  have hstart := hfold _ _ hparts
  rw [List.mem_append] at hstart ⊢
  refine hstart.imp_left fun h => ?_
  unfold start at h
  split at h
  · simp at h
  · exact h

theorem mem_of_mem_partsOf {cs : List Rune} {part : Text} {c : Rune}
    (h : part ∈ Path.partsOf cs) (hc : c ∈ part.toList) : c ∈ cs := by
  obtain ⟨l, hl, rfl⟩ := List.mem_map.mp h
  rw [Text.toList_ofList] at hc
  rw [← Text.joinChars_splitChars '/' cs]
  exact Text.mem_joinChars_of_mem (List.mem_filter.mp hl).1 hc

theorem nameable_stamp (n : Nat) : Nameable (stamp n) := by
  refine nameable_iff_chars.mpr fun c hc => ?_
  rcases char_of_mem_stamp hc with rfl | hdigit
  · decide
  · cases c with
    | half n => cases hdigit
    | char d =>
      refine ⟨rfl, ?_⟩
      rintro ⟨⟩
      cases hdigit

/-- The name of the file beside the target adds nothing that can be in no name. -/
theorem hasUnnameable_of_temporary {n : Nat} {part : Text} (h : part ∈ (t.temporary p n).parts)
    (hnot : ¬ Nameable part) : t.HasUnnameable p := by
  have hname (h : part ∈ Path.partsOf ("." ++ p.name ++ "." ++ stamp n ++ ".tmp" : Text).toList) :
      t.HasUnnameable p := by
    have hown : ¬ Nameable p.name := by
      intro hname
      refine hnot (nameable_iff_chars.mpr fun c hc => ?_)
      have hchar := mem_of_mem_partsOf h hc
      simp only [Text.toList_append, List.mem_append] at hchar
      have hpoint : Nameable "." := by decide
      have hending : Nameable ".tmp" := by decide
      rcases hchar with (((hchar | hchar) | hchar) | hchar) | hchar
      · exact nameable_iff_chars.mp hpoint c hchar
      · exact nameable_iff_chars.mp hname c hchar
      · exact nameable_iff_chars.mp hpoint c hchar
      · exact nameable_iff_chars.mp (nameable_stamp n) c hchar
      · exact nameable_iff_chars.mp hending c hchar
    cases hlast : p.parts.getLast? with
    | none =>
      rw [Path.name, hlast] at hown
      have hempty : Nameable "" := by decide
      exact absurd hempty hown
    | some last =>
      rw [Path.name, hlast] at hown
      exact ⟨last, List.mem_append_right _ (List.mem_of_getLast? hlast), hown⟩
  have hparent (h : part ∈ (t.absolute p.parent).parts) : t.HasUnnameable p := by
    have hmem := mem_absolute h
    rw [List.mem_append] at hmem
    exact ⟨part, List.mem_append.mpr (hmem.imp_right fun h => (List.dropLast_sublist _).subset h),
      hnot⟩
  change part ∈ (Path.join _ (Path.ofText _)).parts at h
  unfold Path.join at h
  split at h
  · exact hname h
  · exact (List.mem_append.mp h).elim hparent hname

theorem createBeside_eq_error {tries n : Nat} {f : Fault}
    (h : t.createBeside p content tries n = .error f) : f.IsSystem ∨ t.HasUnnameable p := by
  induction tries generalizing n with
  | zero =>
    rw [createBeside, Except.error.injEq] at h
    rw [← h]
    exact .inl (by simp [Fault.IsSystem, Fault.refusal])
  | succ tries ih =>
    rw [createBeside] at h
    cases hslot : t.slot (t.temporary p n) with
    | ok place =>
      obtain ⟨found, old⟩ := place
      cases old with
      | none => simp [hslot] at h
      | some node =>
        simp only [hslot] at h
        exact ih h
    | error e =>
      simp only [hslot, Except.error.injEq] at h
      rw [← h]
      by_cases hnamed : ∀ why, e ≠ .unnameable why
      · exact .inl hnamed
      · obtain ⟨why, hwhy⟩ := Classical.not_forall_not.mp hnamed
        obtain ⟨part, hpart, hnot⟩ := slot_eq_unnameable (hwhy ▸ hslot)
        exact .inr (hasUnnameable_of_temporary hpart hnot)

theorem modeFor_eq_error {f : Fault} (h : t.modeFor p = .error f) : f.IsSystem := by
  unfold modeFor look? at h
  cases hlook : t.look p with
  | ok n => cases n <;> simp [hlook, Except.map] at h
  | error e =>
    cases e <;> simp [hlook, Except.map] at h <;> rw [← h] <;> simp [Fault.IsSystem, Fault.refusal]

theorem moveOver_eq_error {f : Fault} (h : t.moveOver temp loc p = .error f) :
    f.IsSystem ∨ ∃ part ∈ p.parts, ¬ Nameable part := by
  unfold moveOver at h
  cases hslot : t.slot p with
  | error e =>
    simp only [hslot, Except.error.injEq] at h
    rw [← h]
    by_cases hnamed : ∀ why, e ≠ .unnameable why
    · exact .inl hnamed
    · obtain ⟨why, hwhy⟩ := Classical.not_forall_not.mp hnamed
      exact .inr (slot_eq_unnameable (hwhy ▸ hslot))
  | ok place =>
    obtain ⟨target, old⟩ := place
    left
    simp only [hslot] at h
    split at h
    · rw [← Except.error.inj h]
      simp [Fault.IsSystem, Fault.refusal]
    · split at h
      · rw [← Except.error.inj h]
        simp [Fault.IsSystem, Fault.refusal]
      · simp at h
      · rw [← Except.error.inj h]
        simp [Fault.IsSystem, Fault.refusal]

theorem replaceFile_fails {f : Fault} (h : t.replaceFile p content = (.error f, t')) :
    f.IsSystem ∨ t.HasUnnameable p := by
  cases hcreate : t.createBeside p content 10000 0 with
  | error e =>
    rw [replaceFile, hcreate] at h
    obtain rfl : e = f := Except.error.inj (Prod.mk.inj h).1
    exact createBeside_eq_error hcreate
  | ok beside =>
    obtain ⟨temp, loc, written⟩ := beside
    obtain ⟨hb, rfl⟩ := createBeside_eq_ok hcreate
    rw [hb.replaceFile_eq hcreate] at h
    split at h
    · rename_i e hmode
      obtain rfl : e = f := Except.error.inj (Prod.mk.inj h).1
      exact .inl (modeFor_eq_error hmode)
    · split at h
      · simp at h
      · rename_i e hmove
        obtain rfl : e = f := Except.error.inj (Prod.mk.inj h).1
        refine (moveOver_eq_error hmove).imp_right ?_
        rintro ⟨part, hpart, hnot⟩
        exact ⟨part, List.mem_append_right _ hpart, hnot⟩

theorem replaceText_fails {f : Fault} (h : t.replaceText p text = (.error (.file f), t')) :
    f.IsSystem ∨ t.HasUnnameable p := by
  rw [replaceText] at h
  cases hfault : Text.Encoding.utf8.fault? text with
  | none =>
    cases hfile : t.replaceFile p (Utf8.encode text) with
    | mk done last =>
      simp only [hfault, hfile] at h
      cases done with
      | ok _ => cases (Prod.mk.inj h).1
      | error e =>
        obtain rfl : e = f := WriteFault.file.inj (Except.error.inj (Prod.mk.inj h).1)
        exact replaceFile_fails hfile
  | some e =>
    cases hcreate : t.createBeside p [] 10000 0 with
    | error e' =>
      simp only [hfault, hcreate] at h
      obtain rfl : e' = f := WriteFault.file.inj (Except.error.inj (Prod.mk.inj h).1)
      exact createBeside_eq_error hcreate
    | ok beside =>
      simp only [hfault, hcreate] at h
      cases (Prod.mk.inj h).1

/-- A directory without an entry of that name. -/
def IsFree (t : Tree) (q : Path) : Prop :=
  ∃ dir, t.Reaches q dir ∧ t.top.item? (dir ++ [q.name]) = none

def IsUsed (t : Tree) (q : Path) : Prop :=
  ∃ dir, t.Reaches q dir ∧ (t.top.item? (dir ++ [q.name])).isSome

theorem slot_of_isFree {q : Path} : t.IsFree q ↔ ∃ place, t.slot q = .ok (place, none) := by
  simp only [IsFree, slot_eq_ok_iff, Node.item?_eq_none_iff]
  constructor
  · rintro ⟨dir, hreach, hnone⟩
    exact ⟨_, dir, hreach, rfl, hnone.symm⟩
  · rintro ⟨_, dir, hreach, rfl, hnone⟩
    exact ⟨dir, hreach, hnone.symm⟩

theorem slot_of_isUsed {q : Path} :
    t.IsUsed q ↔ ∃ place node, t.slot q = .ok (place, some node) := by
  simp only [IsUsed, slot_eq_ok_iff, Node.item?, Option.isSome_map, Option.isSome_iff_exists]
  constructor
  · rintro ⟨dir, hreach, node, hnode⟩
    exact ⟨_, node, dir, hreach, rfl, hnode.symm⟩
  · rintro ⟨_, node, dir, hreach, rfl, hnode⟩
    exact ⟨dir, hreach, node, hnode.symm⟩

/-- The names are tried one after the other, as long as they are in use. -/
theorem exists_createBeside_iff {tries n : Nat} :
    (∃ beside, t.createBeside p content tries n = .ok beside) ↔
      ∃ m < tries, t.IsFree (t.temporary p (n + m)) ∧
        ∀ i < m, t.IsUsed (t.temporary p (n + i)) := by
  induction tries generalizing n with
  | zero => simp [createBeside]
  | succ tries ih =>
    have hnext (i : Nat) : n + 1 + i = n + (i + 1) := by omega
    rw [createBeside]
    cases hslot : t.slot (t.temporary p n) with
    | error e =>
      simp only [reduceCtorEq, exists_false, false_iff]
      rintro ⟨m, -, hfree, hused⟩
      cases m with
      | zero =>
        obtain ⟨place, hplace⟩ := slot_of_isFree.mp hfree
        simp [hslot] at hplace
      | succ m =>
        obtain ⟨place, node, hplace⟩ := slot_of_isUsed.mp (hused 0 (by omega))
        simp [hslot] at hplace
    | ok place =>
      obtain ⟨found, old⟩ := place
      cases old with
      | none =>
        refine iff_of_true ⟨_, rfl⟩ ⟨0, by omega, slot_of_isFree.mpr ⟨found, hslot⟩, ?_⟩
        intro i hi
        omega
      | some node =>
        have hhere : t.IsUsed (t.temporary p n) := slot_of_isUsed.mpr ⟨found, node, hslot⟩
        simp only [ih, hnext]
        constructor
        · rintro ⟨m, hm, hfree, hused⟩
          refine ⟨m + 1, by omega, hfree, fun i hi => ?_⟩
          cases i with
          | zero => exact hhere
          | succ i => exact hused i (by omega)
        · rintro ⟨m, hm, hfree, hused⟩
          cases m with
          | zero =>
            obtain ⟨place, hplace⟩ := slot_of_isFree.mp hfree
            simp [hslot] at hplace
          | succ m => exact ⟨m, by omega, hfree, fun i hi => hused (i + 1) (by omega)⟩

/-- What replacing the text of a file comes to, and the tree that it leaves. A new file may be read
and written by all, less what the mask takes away. -/
inductive Replaces (t : Tree) (p : Path) (text : Text) : Except WriteFault Unit → Tree → Prop where
  | done (loc : Location) (t' : Tree) (mode : Nat) (htakes : t.Takes p loc)
    (hholds : Text.Encoding.utf8.fault? text = none) (hhere : t'.here = t.here)
    (hmask : t'.mask = t.mask)
    (htarget : t'.top.item? loc = some (.file (Utf8.encode text) mode))
    (hkept : ∀ content old, t.top.item? loc = some (.file content old) → mode = old)
    (hnew : t.top.item? loc = none →
      ∀ bit, mode.testBit bit = ((0o666 : Nat).testBit bit && !t.mask.testBit bit))
    (hothers : ∀ other, other ≠ loc → t'.top.item? other = t.top.item? other) :
    Replaces t p text (.ok ()) t'
  | refused (f : Fault) (hsystem : f.IsSystem) : Replaces t p text (.error (.file f)) t
  | unnameable (f : Fault) (hpart : t.HasUnnameable p) : Replaces t p text (.error (.file f)) t
  | unencodable (f : Text.EncodingFault) (hfault : Text.Encoding.utf8.fault? text = some f) :
    Replaces t p text (.error (.encoding f)) t

theorem testBit_newMode (t : Tree) (bit : Nat) :
    t.newMode.testBit bit = ((0o666 : Nat).testBit bit && !t.mask.testBit bit) := by
  rw [newMode, Nat.testBit_xor, Nat.testBit_and]
  cases (0o666 : Nat).testBit bit <;> cases t.mask.testBit bit <;> rfl

theorem replaces_replaceText (t : Tree) (p : Path) (text : Text) :
    Replaces t p text (t.replaceText p text).1 (t.replaceText p text).2 := by
  cases hreplace : t.replaceText p text with
  | mk done last =>
    cases done with
    | ok _ =>
      obtain ⟨loc, htakes, rfl⟩ := replaceText_takes hreplace
      refine .done loc _ _ htakes (replaceText_eq_ok_iff.mp hreplace).1 rfl rfl
        (htakes.item?_withFile _) (fun content old hold => ?_) (fun hnone => ?_) fun other hne => ?_
      · exact modeAt_of_item? hold
      · rw [modeAt_of_new hnone]
        exact testBit_newMode t
      · exact (htakes.sameBut_withFile _).same other hne
    | error f =>
      obtain rfl := replaceText_error hreplace
      cases f with
      | file f =>
        rcases replaceText_fails hreplace with hsystem | hpart
        · exact .refused f hsystem
        · exact .unnameable f hpart
      | encoding f => exact .unencodable f (fault?_of_replaceText (congrArg Prod.fst hreplace))

theorem replaceText_done_iff : (t.replaceText p text).1 = .ok () ↔
    Text.Encoding.utf8.fault? text = none ∧ (∃ loc, t.Takes p loc) ∧
      ∃ n < 10000, t.IsFree (t.temporary p n) ∧ ∀ m < n, t.IsUsed (t.temporary p m) := by
  have hbeside : (∃ beside, t.createBeside p (Utf8.encode text) 10000 0 = .ok beside) ↔
      ∃ n < 10000, t.IsFree (t.temporary p n) ∧ ∀ m < n, t.IsUsed (t.temporary p m) := by
    simpa using @exists_createBeside_iff t p (Utf8.encode text) 10000 0
  rw [← hbeside]
  constructor
  · intro h
    obtain ⟨hholds, hfile⟩ := replaceText_eq_ok_iff.mp
      (Prod.ext h rfl : t.replaceText p text = (.ok (), (t.replaceText p text).2))
    obtain ⟨hcreate, loc, htakes, -⟩ := replaceFile_eq_ok_iff.mp hfile
    exact ⟨hholds, ⟨loc, htakes⟩, hcreate⟩
  · rintro ⟨hholds, ⟨loc, htakes⟩, hcreate⟩
    rw [replaceText_eq_ok_iff.mpr ⟨hholds, replaceFile_eq_ok_iff.mpr
      ⟨hcreate, loc, htakes, rfl⟩⟩]

/-- It is done or nothing has happened, and it is done if the path takes a file, the text can be
encoded, and the file has a free name before it is moved. -/
theorem replaceText_spec (t : Tree) (p : Path) (text : Text) :
    Replaces t p text (t.replaceText p text).1 (t.replaceText p text).2 ∧
      ((t.replaceText p text).1 = .ok () ↔ Text.Encoding.utf8.fault? text = none ∧
        (∃ loc, t.Takes p loc) ∧ ∃ n < 10000, t.IsFree (t.temporary p n) ∧
          ∀ m < n, t.IsUsed (t.temporary p m)) :=
  ⟨replaces_replaceText t p text, replaceText_done_iff⟩

/-- A path with a NUL fails, and not with an error of the operating system. -/
theorem not_isSystem_of_replaceText :
    ((⟨.dir [], [], 0o022⟩ : Tree).replaceText (.ofText "a\x00b") "x").1 =
      .error (.file (.of (.unnameable .nul) "/.a\x00b.XXXXXXXX.tmp")) ∧
    ¬ (Fault.of (.unnameable .nul) "/.a\x00b.XXXXXXXX.tmp").IsSystem := by
  exact ⟨rfl, fun h => h .nul rfl⟩

end Tree

end Synopsis
