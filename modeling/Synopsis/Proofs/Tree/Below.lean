import Synopsis.Proofs.Text.Basic
import Synopsis.Proofs.Text.Lines
import Synopsis.Proofs.Keyed
import Synopsis.Proofs.Tree.Walk

namespace Synopsis

/-- A name that a directory can have for what is in it. -/
structure ProperName (name : Text) : Prop where
  ne_empty : name ≠ ""
  ne_point : name ≠ "."
  ne_up : name ≠ ".."
  slash : ('/' : Rune) ∉ name.toList
  nameable : Nameable name
  short : name.fileSize ≤ Tree.nameLimit

/-- A location as the path to it from above. -/
def relativeText (loc : Location) : Text := Text.intercalate "/" loc

variable {loc : Location}

theorem toList_relativeText (loc : Location) :
    (relativeText loc).toList = Text.joinChars '/' (loc.map Text.toList) := by
  rw [relativeText, Text.toList_intercalate, Text.joinChars_eq_intercalate]
  rfl

theorem partsOf_relativeText (hproper : ∀ name ∈ loc, ProperName name) :
    Path.partsOf (relativeText loc).toList = loc := by
  cases loc with
  | nil => rfl
  | cons first r =>
    have hslash : ∀ part ∈ (first :: r).map Text.toList, ('/' : Rune) ∉ part := by
      intro part hpart
      obtain ⟨name, hname, rfl⟩ := List.mem_map.mp hpart
      exact (hproper name hname).slash
    have hcounts : ∀ part ∈ (first :: r).map Text.toList, part ≠ [] ∧ part ≠ [.char '.'] := by
      intro part hpart
      obtain ⟨name, hname, rfl⟩ := List.mem_map.mp hpart
      refine ⟨fun hnil => (hproper name hname).ne_empty ?_, fun hpoint =>
        (hproper name hname).ne_point ?_⟩
      · exact Text.toList_inj.mp hnil
      · exact Text.toList_inj.mp hpoint
    rw [Path.partsOf, toList_relativeText, Text.splitChars_joinChars (by simp) hslash,
      List.filter_eq_self.mpr (by simpa using hcounts), List.map_map]
    simp [Function.comp_def]

/-- The text of a location below a directory stands for that location. -/
theorem ofText_relativeText (hproper : ∀ name ∈ loc, ProperName name) :
    Path.ofText (relativeText loc) = ⟨.relative, loc⟩ := by
  have hanchor : Path.anchorOf (relativeText loc).toList = .relative := by
    cases loc with
    | nil => rfl
    | cons first r =>
      have hfirst := hproper first List.mem_cons_self
      have hhead : ∃ c cs, (relativeText (first :: r)).toList = c :: cs ∧ c ≠ '/' := by
        cases hchars : first.toList with
        | nil => exact absurd (Text.toList_inj.mp hchars) hfirst.ne_empty
        | cons c cs =>
          have hc : c ≠ '/' := by
            rintro rfl
            exact hfirst.slash (by simp [hchars])
          rw [toList_relativeText]
          cases r <;> simp [Text.joinChars, hchars, hc]
      obtain ⟨c, cs, hchars, hc⟩ := hhead
      rw [hchars]
      unfold Path.anchorOf
      split <;> simp_all
  rw [Path.ofText, hanchor, partsOf_relativeText hproper]

theorem join_relativeText (p : Path) (hproper : ∀ name ∈ loc, ProperName name) :
    p / relativeText loc = ⟨p.anchor, p.parts ++ loc⟩ := by
  change p.join (Path.ofText (relativeText loc)) = _
  rw [ofText_relativeText hproper, Path.join, if_neg (by simp [Path.isAbsolute])]

namespace Tree

variable {t : Tree} {top : Node} {place base next : Location} {p : Path}

theorem walk_of_get? (hproper : ∀ name ∈ loc, ProperName name)
    (hthere : (top.item? (place ++ loc)).isSome) : walk top place loc = .ok (place ++ loc) := by
  induction loc generalizing place with
  | nil => rw [walk, List.append_nil]
  | cons name r ih =>
    have hname := hproper name List.mem_cons_self
    have hsplit : place ++ name :: r = place ++ [name] ++ r := by simp
    have hgone {a b : Location} (hb : b ≠ []) (hitem : (top.item? (a ++ b)).isSome) :
        top.item? a = some .dir := Node.item?_of_prefix (by simpa [Node.item?] using hitem) hb
    have hchild : (top.item? (place ++ [name])).isSome := by
      cases r with
      | nil => exact hthere
      | cons child r =>
        rw [hsplit] at hthere
        rw [hgone (by simp) hthere]
        rfl
    have henter : enter top place name = .ok (place ++ [name]) := by
      refine enter_eq_ok_iff.mpr ⟨hgone (by simp) hthere, ?_, .inr ⟨hname.short, hchild⟩⟩
      rw [climb, if_neg hname.ne_up]
    rw [hsplit] at hthere ⊢
    exact walk_cons_eq_ok_iff.mpr
      ⟨_, henter, ih (fun name h => hproper name (List.mem_cons_of_mem _ h)) hthere⟩

theorem eq_append_of_walk (hdown : ∀ name ∈ loc, name ≠ "..")
    (h : walk top place loc = .ok next) : next = place ++ loc := by
  induction loc generalizing place with
  | nil => rw [walk_nil_eq_ok_iff.mp h, List.append_nil]
  | cons name r ih =>
    obtain ⟨mid, henter, hr⟩ := walk_cons_eq_ok_iff.mp h
    have hmid : mid = place ++ [name] := by
      rw [(enter_eq_ok_iff.mp henter).2.1, climb, if_neg (hdown name List.mem_cons_self)]
    rw [ih (fun name h => hdown name (List.mem_cons_of_mem _ h)) hr, hmid]
    simp

/-- Short names are refused only where nothing is, or a file. -/
theorem walk_refused {e : Refusal} (hshort : ∀ name ∈ loc, name.fileSize ≤ nameLimit)
    (h : walk top place loc = .error e) : e = .missing ∨ e = .notDirectory := by
  induction loc generalizing place with
  | nil => cases h
  | cons name r ih =>
    have hname : ¬ nameLimit < name.fileSize := by
      have hle := hshort name List.mem_cons_self
      omega
    rw [walk] at h
    cases henter : enter top place name with
    | ok mid =>
      rw [henter] at h
      exact ih (fun name hmem => hshort name (List.mem_cons_of_mem _ hmem)) h
    | error f =>
      simp only [henter, Except.error.injEq] at h
      subst h
      unfold enter at henter
      split at henter
      · by_cases hup : name = ".."
        · rw [if_pos hup] at henter
          cases henter
        · rw [if_neg hup, if_neg hname] at henter
          split at henter <;> simp_all
      · exact .inr (Except.error.inj henter).symm
      · exact .inl (Except.error.inj henter).symm

/-- A file below a directory is found under its location, and nothing else is. -/
theorem isFile_below (hbase : t.locate p = .ok base) (hproper : ∀ name ∈ loc, ProperName name)
    (hroom : (Path.mk p.anchor (p.parts ++ loc)).text.fileSize ≤ pathLimit) :
    t.isFile ⟨p.anchor, p.parts ++ loc⟩ = .ok ((t.top.get? (base ++ loc)).any Node.isFile) := by
  obtain ⟨hnone, hwalk⟩ := locate_eq_ok_iff.mp hbase
  have hfree : obstacle? ⟨p.anchor, p.parts ++ loc⟩ = none := by
    refine obstacle?_eq_none_iff.mpr ⟨fun name hname => ?_, hroom⟩
    rcases List.mem_append.mp hname with hname | hname
    · exact (obstacle?_eq_none_iff.mp hnone).1 name hname
    · exact (hproper name hname).nameable
  have hlocate : t.locate ⟨p.anchor, p.parts ++ loc⟩ = walk t.top base loc := by
    have hstart : t.start ⟨p.anchor, p.parts ++ loc⟩ = t.start p := rfl
    rw [locate, hfree, hstart, walk_append, hwalk]
    rfl
  rw [isFile, look?, look, hlocate]
  cases hdown : walk t.top base loc with
  | ok next =>
    obtain rfl := eq_append_of_walk (fun name h => (hproper name h).ne_up) hdown
    cases hn : t.top.get? (base ++ loc) <;> simp [hn, Except.map]
  | error e =>
    have hgone : t.top.get? (base ++ loc) = none := by
      cases hthere : t.top.get? (base ++ loc) with
      | none => rfl
      | some n =>
        have hfound : walk t.top base loc = .ok (base ++ loc) :=
          walk_of_get? hproper (by simp [Node.item?, hthere])
        rw [hdown] at hfound
        cases hfound
    rcases walk_refused (fun name h => (hproper name h).short) hdown with rfl | rfl <;>
      simp [hgone, Except.map]

end Tree

namespace Node

variable {enter : Text → Bool} {n : Node} {entries : List (Text × Node)}

theorem mem_filesOf_iff : loc ∈ filesOf enter entries ↔ ∃ e ∈ entries, loc ∈ filesAt enter e := by
  induction entries with
  | nil => simp [filesOf]
  | cons e r ih => simp [filesOf, ih]

theorem nil_not_mem_files : [] ∉ n.files enter := by
  cases n with
  | file content mode => simp [files]
  | dir entries =>
    rw [files, mem_filesOf_iff]
    rintro ⟨⟨name, child⟩, -, h⟩
    cases child with
    | file content mode => simp [filesAt] at h
    | dir inner =>
      rw [filesAt] at h
      split at h <;> simp at h

theorem cons_mem_files_iff {name : Text} {r : Location} :
    name :: r ∈ (dir entries).files enter ↔ ∃ child, (name, child) ∈ entries ∧
      (r = [] ∧ child.isFile = true ∨ enter name = true ∧ r ∈ child.files enter) := by
  rw [files, mem_filesOf_iff]
  constructor
  · rintro ⟨⟨other, child⟩, hmem, h⟩
    cases child with
    | file content mode =>
      obtain ⟨rfl, rfl⟩ : name = other ∧ r = [] := by simpa [filesAt] using h
      exact ⟨_, hmem, .inl ⟨rfl, rfl⟩⟩
    | dir inner =>
      rw [filesAt] at h
      split at h
      · rename_i henter
        obtain ⟨rest, hrest, heq⟩ := List.mem_map.mp h
        obtain ⟨rfl, rfl⟩ := List.cons.inj heq
        exact ⟨_, hmem, .inr ⟨henter, hrest⟩⟩
      · simp at h
  · rintro ⟨child, hmem, h⟩
    refine ⟨(name, child), hmem, ?_⟩
    cases child with
    | file content mode =>
      rcases h with ⟨rfl, -⟩ | ⟨-, hr⟩
      · simp [filesAt]
      · simp [files] at hr
    | dir inner =>
      rcases h with ⟨-, hfile⟩ | ⟨henter, hr⟩
      · simp [isFile] at hfile
      · rw [filesAt, if_pos henter]
        exact List.mem_map.mpr ⟨r, hr, rfl⟩

/-- A file is listed if all directories on the way to it are entered. -/
theorem mem_files_iff : loc ∈ n.files enter ↔
    loc ∈ n.files (fun _ => true) ∧ ∀ name ∈ loc.dropLast, enter name = true := by
  induction loc generalizing n with
  | nil => simp [nil_not_mem_files]
  | cons name r ih =>
    cases n with
    | file content mode => simp [files]
    | dir entries =>
      rw [cons_mem_files_iff, cons_mem_files_iff]
      cases r with
      | nil => simp [nil_not_mem_files]
      | cons next r =>
        rw [List.dropLast_cons_of_ne_nil (by simp)]
        simp only [List.forall_mem_cons, ih, reduceCtorEq, false_and, false_or, true_and]
        grind

theorem mem_files_of_get? {m : Node} (hm : m.isFile = true) (hne : loc ≠ [])
    (h : n.get? loc = some m) : loc ∈ n.files (fun _ => true) := by
  induction loc generalizing n with
  | nil => exact absurd rfl hne
  | cons name r ih =>
    cases n with
    | file content mode => simp [get?_file_cons] at h
    | dir entries =>
      rw [get?_cons, Option.bind_eq_some_iff] at h
      obtain ⟨child, hchild, hr⟩ := h
      refine cons_mem_files_iff.mpr ⟨child, Keyed.mem_of_get? hchild, ?_⟩
      cases r with
      | nil =>
        rw [get?_nil, Option.some.injEq] at hr
        exact .inl ⟨rfl, hr ▸ hm⟩
      | cons next r => exact .inr ⟨rfl, ih (by simp) hr⟩

end Node

namespace Tree

variable {t : Tree} {p : Path}

/-- A file below a directory, by its location from there. -/
def IsFileBelow (t : Tree) (p : Path) (loc : Location) : Prop :=
  loc ≠ [] ∧ ∃ base content mode,
    t.locate p = .ok base ∧ t.top.item? (base ++ loc) = some (.file content mode)

/-- The files below a directory have proper names, and those of them that are wanted have paths that
can be looked at. -/
structure Orderly (t : Tree) (p : Path) (wanted : Location → Prop) : Prop where
  proper (n : Node) : t.look p = .ok n → ∀ loc ∈ n.files (fun _ => true),
    ∀ name ∈ loc, ProperName name
  room (n : Node) : t.look p = .ok n → ∀ loc ∈ n.files (fun _ => true), wanted loc →
    (Path.mk p.anchor (p.parts ++ loc)).text.fileSize ≤ pathLimit

theorem look_eq_ok_iff {n : Node} :
    t.look p = .ok n ↔ ∃ base, t.locate p = .ok base ∧ t.top.get? base = some n := by
  unfold look
  cases t.locate p with
  | error e => simp
  | ok base => cases hn : t.top.get? base <;> simp [hn]

theorem IsFileBelow.look (h : t.IsFileBelow p loc) : ∃ n, t.look p = .ok n := by
  obtain ⟨-, base, content, mode, hbase, hitem⟩ := h
  have hfile := Node.item?_eq_file_iff.mp hitem
  rw [Node.get?_append, Option.bind_eq_some_iff] at hfile
  obtain ⟨n, hn, -⟩ := hfile
  exact ⟨n, look_eq_ok_iff.mpr ⟨base, hbase, hn⟩⟩

theorem isFileBelow_iff {n : Node} (h : t.look p = .ok n) : t.IsFileBelow p loc ↔
    loc ∈ n.files (fun _ => true) ∧ (n.get? loc).any Node.isFile = true := by
  obtain ⟨base, hbase, hn⟩ := look_eq_ok_iff.mp h
  have hget : t.top.get? (base ++ loc) = n.get? loc := by rw [Node.get?_append, hn]; rfl
  constructor
  · rintro ⟨hne, base', content, mode, hbase', hitem⟩
    obtain rfl := Except.ok.inj (hbase.symm.trans hbase')
    have hfile := Node.item?_eq_file_iff.mp hitem
    rw [hget] at hfile
    exact ⟨Node.mem_files_of_get? rfl hne hfile, by rw [hfile]; rfl⟩
  · rintro ⟨hmem, hfile⟩
    have hne : loc ≠ [] := by
      rintro rfl
      exact Node.nil_not_mem_files hmem
    cases hm : n.get? loc with
    | none => simp [hm] at hfile
    | some m =>
      cases m with
      | dir entries => simp [hm, Node.isFile] at hfile
      | file content mode =>
        exact ⟨hne, base, content, mode, hbase, Node.item?_eq_file_iff.mpr (hget.trans hm)⟩

end Tree

end Synopsis
