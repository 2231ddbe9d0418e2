import Synopsis.Proofs.Text.Lines
import Synopsis.Proofs.Text.Utf8
import Synopsis.Proofs.Tree.Slot

namespace Synopsis.Tree

variable {t t' : Tree} {p temp : Path} {loc : Location} {content : List UInt8}

theorem char_of_mem_stamp {n : Nat} {c : Rune} (h : c ∈ (stamp n).toList) :
    c = 'X' ∨ c.isDigit = true := by
  rw [stamp, Text.toList_ofChars, List.mem_map] at h
  obtain ⟨d, hd, rfl⟩ := h
  rcases List.mem_append.mp hd with hd | hd
  · rw [List.eq_of_mem_replicate hd]
    exact .inl rfl
  · split at hd
    · simp at hd
    · exact .inr (Nat.isDigit_of_mem_toDigits (by decide) (by decide) hd)

theorem slash_not_mem_stamp (n : Nat) : ('/' : Rune) ∉ (stamp n).toList := by
  intro h
  rcases char_of_mem_stamp h with hx | hdigit
  · exact absurd hx (by decide)
  · exact absurd hdigit (by decide)

/-- A relative path with a part of its own has the last of its parts as its name. -/
theorem name_join_ofText {q : Path} {s : Text} (habs : s.toList.head? ≠ some (.char '/'))
    (hne : Path.partsOf s.toList ≠ []) :
    (q / s).name = (Path.partsOf s.toList).getLast hne := by
  have hanchor : Path.anchorOf s.toList = .relative := by
    cases hs : s.toList with
    | nil => rfl
    | cons c r =>
      have hc : c ≠ '/' := by
        rintro rfl
        exact habs (by rw [hs]; rfl)
      unfold Path.anchorOf
      split <;> simp_all
  have hjoin : (q / s).parts = q.parts ++ Path.partsOf s.toList := by
    change (Path.join q (Path.ofText s)).parts = _
    rw [Path.join, if_neg (by simp [Path.isAbsolute, Path.ofText, hanchor])]
    rfl
  rw [Path.name, hjoin, List.getLast?_append, List.getLast?_eq_some_getLast hne]
  rfl

theorem slash_not_mem_of_mem_partsOf {cs : List Rune} {part : Text}
    (h : part ∈ Path.partsOf cs) : ('/' : Rune) ∉ part.toList := by
  obtain ⟨l, hl, rfl⟩ := List.mem_map.mp h
  rw [Text.toList_ofList]
  exact Text.not_mem_of_mem_splitChars (List.mem_filter.mp hl).1

theorem temporary_name_ne (t : Tree) (p : Path) (n : Nat) : (t.temporary p n).name ≠ p.name := by
  let s : Text := "." ++ p.name ++ "." ++ stamp n ++ ".tmp"
  have hs : s.toList = .char '.' :: p.name.toList ++
      .char '.' :: (stamp n).toList ++ (".tmp" : Text).toList := by
    simp [s]
  have habs : s.toList.head? ≠ some (.char '/') := by
    rw [hs]
    simp
  by_cases hslash : ('/' : Rune) ∈ p.name.toList
  · -- no name of the other path has a slash in it
    have hne : Path.partsOf s.toList ≠ [] := by
      have ht : ('t' : Rune) ∈ s.toList := by
        rw [hs]
        simp
      rw [← Text.joinChars_splitChars '/' s.toList] at ht
      rcases Text.mem_of_mem_joinChars ht with hc | ⟨l, hl, hc⟩
      · exact absurd hc (by decide)
      · have hkept : l ≠ [] ∧ l ≠ [.char '.'] := by
          constructor <;> rintro rfl <;> simp at hc
        exact List.ne_nil_of_mem
          (List.mem_map.mpr ⟨l, List.mem_filter.mpr ⟨hl, by simpa using hkept⟩, rfl⟩)
    intro heq
    have hname : (t.temporary p n).name = _ := name_join_ofText habs hne
    rw [hname] at heq
    exact slash_not_mem_of_mem_partsOf (List.getLast_mem hne) (heq ▸ hslash)
  · have hplain : ('/' : Rune) ∉ s.toList := by
      rw [hs]
      simp [hslash, slash_not_mem_stamp]
    have hparts : Path.partsOf s.toList = [s] := by
      have hkept : s.toList ≠ [] ∧ s.toList ≠ [.char '.'] := by
        rw [hs]
        simp
      rw [Path.partsOf, Text.splitChars_of_not_mem hplain]
      simp [hkept.1, hkept.2]
    have hname : (t.temporary p n).name = s := by
      have hlast : (t.temporary p n).name = _ := name_join_ofText habs (by simp [hparts])
      rw [hlast]
      simp [hparts]
    intro heq
    have hlength := congrArg List.length (hs.symm.trans (congrArg Text.toList (hname ▸ heq)))
    simp at hlength
    omega

/-- A free place under a temporary name. -/
structure Beside (t : Tree) (p temp : Path) (loc : Location) : Prop where
  name_ne : temp.name ≠ p.name
  reaches : ∃ dir, t.Reaches temp dir ∧ loc = dir ++ [temp.name]
  free : t.top.get? loc = none

theorem createBeside_eq_ok {tries n : Nat}
    (h : t.createBeside p content tries n = .ok (temp, loc, t')) :
    t.Beside p temp loc ∧ t' = { t with top := t.top.set loc (.file content 0o600) } := by
  induction tries generalizing n with
  | zero => simp [createBeside] at h
  | succ tries ih =>
    rw [createBeside] at h
    cases hslot : t.slot (t.temporary p n) with
    | error e => simp [hslot] at h
    | ok place =>
      obtain ⟨found, old⟩ := place
      cases old with
      | some node =>
        simp only [hslot] at h
        exact ih h
      | none =>
        simp only [hslot, Except.ok.injEq, Prod.mk.injEq] at h
        obtain ⟨rfl, rfl, rfl⟩ := h
        obtain ⟨dir, hreach, hloc, hold⟩ := slot_eq_ok_iff.mp hslot
        exact ⟨⟨temporary_name_ne t p n, ⟨dir, hreach, hloc⟩, hold.symm⟩, rfl⟩

/-- The same name is found to be free after a change somewhere else. -/
theorem createBeside_sameBut {s : Tree} {changed : Location} {content' : List UInt8}
    (hhere : s.here = t.here) (hs : Node.SameBut changed t.top s.top)
    (hname : changed.getLast? = some p.name) {tries n : Nat}
    (h : t.createBeside p content tries n = .ok (temp, loc, t')) :
    ∃ s', s.createBeside p content' tries n = .ok (temp, loc, s') := by
  induction tries generalizing n with
  | zero => simp [createBeside] at h
  | succ tries ih =>
    have htemp : s.temporary p n = t.temporary p n := by simp [temporary, absolute, hhere]
    rw [createBeside] at h ⊢
    cases hslot : t.slot (t.temporary p n) with
    | error e => simp [hslot] at h
    | ok place =>
      obtain ⟨found, old⟩ := place
      obtain ⟨dir, hreach, hfound, hold⟩ := slot_eq_ok_iff.mp hslot
      have hne : found ≠ changed := by
        rintro rfl
        rw [hfound, List.getLast?_concat, Option.some.injEq] at hname
        exact temporary_name_ne t p n hname
      have hitem : s.top.item? found = t.top.item? found := hs.same _ hne
      have hslot' : s.slot (s.temporary p n) = .ok (found, s.top.get? found) := by
        rw [htemp]
        exact slot_eq_ok_iff.mpr ⟨dir, hreach.sameBut hhere hs, hfound, rfl⟩
      rw [hslot']
      cases old with
      | none =>
        have hnone : s.top.get? found = none := by
          rw [← Node.item?_eq_none_iff, hitem, Node.item?_eq_none_iff, ← hold]
        simp only [hslot, Except.ok.injEq, Prod.mk.injEq] at h
        obtain ⟨rfl, rfl, -⟩ := h
        simp [hnone, htemp]
      | some node =>
        have hsome : ∃ m, s.top.get? found = some m := by
          have hthere : (s.top.item? found).isSome := by
            rw [hitem, Node.item?, ← hold]
            rfl
          simpa [Node.item?, Option.isSome_iff_exists] using hthere
        obtain ⟨m, hm⟩ := hsome
        simp only [hslot] at h
        simpa only [hm] using ih h

/-- The target and the file beside it, neither of them below the other. -/
theorem Beside.apart {target : Location} (hb : t.Beside p temp loc) (hp : t.Takes p target) :
    ¬ loc <+: target ∧ ¬ target <+: loc := by
  obtain ⟨dir, hreach, rfl⟩ := hp.reaches
  obtain ⟨dir', hreach', rfl⟩ := hb.reaches
  have hlast : dir' ++ [temp.name] ≠ dir ++ [p.name] := by
    intro heq
    exact hb.name_ne (List.append_inj_right' heq rfl |> List.cons.inj |>.1)
  constructor
  · intro hprefix
    -- what is free has no directory below it
    obtain ⟨r, hr⟩ := (List.prefix_concat_iff.mp hprefix).resolve_left hlast
    have hthere : (t.top.get? (dir' ++ [temp.name] ++ r)).isSome := by
      obtain ⟨entries, hdir⟩ := Node.item?_eq_dir_iff.mp hreach.isDir
      simp [hr, hdir]
    rw [Node.get?_append, hb.free] at hthere
    simp at hthere
  · intro hprefix
    -- and the target is no directory
    obtain ⟨r, hr⟩ := (List.prefix_concat_iff.mp hprefix).resolve_left (Ne.symm hlast)
    have hdir := hreach'.isDir
    rw [← hr] at hdir
    cases r with
    | nil => exact hp.free (by simpa using hdir)
    | cons x xs =>
      obtain ⟨entries, hentries⟩ := Node.item?_eq_dir_iff.mp hdir
      exact hp.free (Node.item?_of_prefix (by rw [hentries]; rfl) (by simp))

/-- A file that is replaced keeps its mode, and a new one has what the mask leaves. -/
def modeAt (t : Tree) (loc : Location) : Nat :=
  match t.top.item? loc with
  | some (.file _ mode) => mode
  | _ => t.newMode

theorem modeAt_of_item? {mode : Nat} (h : t.top.item? loc = some (.file content mode)) :
    t.modeAt loc = mode := by
  rw [modeAt, h]

theorem modeAt_of_new (h : t.top.item? loc = none) : t.modeAt loc = t.newMode := by
  rw [modeAt, h]

/-- The mode for a new content is told by the file that is there, if one is. -/
theorem modeAt_congr (hmask : t'.mask = t.mask) (h : ∀ content mode,
    t'.top.item? loc = some (.file content mode) ↔ t.top.item? loc = some (.file content mode)) :
    t'.modeAt loc = t.modeAt loc := by
  have hnew : t'.newMode = t.newMode := by simp [newMode, hmask]
  unfold modeAt
  generalize t'.top.item? loc = new at h ⊢
  generalize t.top.item? loc = old at h ⊢
  rcases old with _ | _ | ⟨content, mode⟩
  · rcases new with _ | _ | ⟨content, mode⟩
    · exact hnew
    · exact hnew
    · simpa using (h content mode).mp rfl
  · rcases new with _ | _ | ⟨content, mode⟩
    · exact hnew
    · exact hnew
    · simpa using (h content mode).mp rfl
  · rw [(h content mode).mpr rfl]

theorem Takes.modeFor (h : t.Takes p loc) : t.modeFor p = .ok (t.modeAt loc) := by
  have hfree := h.free
  rw [Tree.modeFor, look?, look, h.locate]
  cases hn : t.top.get? loc with
  | none => simp [Node.item?, hn, modeAt, Except.map]
  | some n =>
    cases n with
    | dir entries => simp [Node.item?, hn, Node.item] at hfree
    | file content mode => simp [Node.item?, hn, Node.item, modeAt, Except.map]

theorem moveOver_eq_ok_iff : t.moveOver temp loc p = .ok t' ↔ ∃ target n, t.Takes p target ∧
    t.top.get? loc = some n ∧ t' = { t with top := (t.top.set target n).erase loc } := by
  constructor
  · intro h
    rw [moveOver] at h
    cases hslot : t.slot p with
    | error e => simp [hslot] at h
    | ok place =>
      obtain ⟨target, old⟩ := place
      obtain ⟨dir, hreach, hloc, hold⟩ := slot_eq_ok_iff.mp hslot
      simp only [hslot] at h
      by_cases hnamed : isNamed p = true
      · have hfree : t.top.item? target ≠ some .dir := by
          intro hdir
          obtain ⟨entries, hentries⟩ := Node.item?_eq_dir_iff.mp hdir
          simp [hnamed, hold, hentries] at h
        refine ⟨target, ?_⟩
        cases hn : t.top.get? loc with
        | none =>
          rcases old with _ | ⟨c, m⟩ | es <;> simp [hnamed, hn] at h
        | some n =>
          refine ⟨n, ⟨hnamed, ⟨dir, hreach, hloc⟩, hfree⟩, rfl, ?_⟩
          rcases old with _ | ⟨c, m⟩ | es <;> simp [hnamed, hn] at h <;> exact h.symm
      · simp [hnamed] at h
  · rintro ⟨target, n, htakes, hn, rfl⟩
    have hfree := htakes.free
    rw [moveOver, htakes.slot]
    cases hold : t.top.get? target with
    | none => simp [htakes.named, hn]
    | some old =>
      cases old with
      | dir entries => simp [Node.item?, hold, Node.item] at hfree
      | file c m => simp [htakes.named, hn]

/-- The tree with another content, or with any, in the file at a location. -/
def withFile (t : Tree) (loc : Location) (content : List UInt8) : Tree :=
  { t with top := t.top.set loc (.file content (t.modeAt loc)) }

/-- The tree with a file beside the target. -/
def Beside.fill (t : Tree) (loc : Location) (content : List UInt8) (mode : Nat) : Tree :=
  { t with top := t.top.set loc (.file content mode) }

namespace Beside

variable {mode : Nat}

theorem sameBut (hb : t.Beside p temp loc) :
    Node.SameBut loc t.top (fill t loc content mode).top := by
  obtain ⟨dir, hreach, rfl⟩ := hb.reaches
  have hnone := Node.item?_eq_none_iff.mpr hb.free
  exact Node.sameBut_set hreach.isDir (by rw [hnone]; simp)

theorem takes_fill_iff (hb : t.Beside p temp loc) {target : Location} :
    (fill t loc content mode).Takes p target ↔ t.Takes p target :=
  ⟨fun h => h.sameBut rfl hb.sameBut.symm, fun h => h.sameBut rfl hb.sameBut⟩

theorem erase_fill (hb : t.Beside p temp loc) :
    { t with top := (fill t loc content mode).top.erase loc } = t := by
  obtain ⟨dir, hreach, rfl⟩ := hb.reaches
  simp only [fill, Node.erase_set hreach.isDir hb.free]

theorem fill_fill (hb : t.Beside p temp loc) (mode' : Nat) :
    fill (fill t loc content mode) loc content mode' = fill t loc content mode' := by
  obtain ⟨dir, hreach, rfl⟩ := hb.reaches
  simp only [fill, Node.set_set hreach.isDir]

theorem modeFor_fill (hb : t.Beside p temp loc) {target : Location} (h : t.Takes p target) :
    (fill t loc content mode).modeFor p = .ok (t.modeAt target) := by
  have hne : target ≠ loc := by
    rintro rfl
    exact (hb.apart h).1 (List.prefix_refl _)
  rw [((takes_fill_iff hb).mpr h).modeFor, modeAt, hb.sameBut.same _ hne]
  rfl

theorem moveOver_fill_eq_ok_iff (hb : t.Beside p temp loc) :
    (fill t loc content mode).moveOver temp loc p = .ok t' ↔ ∃ target, t.Takes p target ∧
      t' = { t with top := t.top.set target (.file content mode) } := by
  have hmoved {target : Location} (h : t.Takes p target) :
      ((fill t loc content mode).top.set target (.file content mode)).erase loc =
        t.top.set target (.file content mode) := by
    obtain ⟨hbelow, habove⟩ := hb.apart h
    obtain ⟨dir, hreach, rfl⟩ := hb.reaches
    exact Node.erase_set_set hreach.isDir hb.free hbelow habove _ _
  have hfound : (fill t loc content mode).top.get? loc = some (.file content mode) := by
    obtain ⟨dir, hreach, rfl⟩ := hb.reaches
    have hnone := Node.item?_eq_none_iff.mpr hb.free
    rw [← Node.item?_eq_file_iff, fill, Node.item?_set hreach.isDir (by rw [hnone]; simp)
      (fun x r => Node.get?_file_cons content mode x r), if_pos rfl]
    rfl
  rw [moveOver_eq_ok_iff]
  constructor
  · rintro ⟨target, n, htakes, hn, rfl⟩
    rw [hfound, Option.some.injEq] at hn
    subst hn
    have htarget := (takes_fill_iff hb).mp htakes
    exact ⟨target, htarget, by rw [hmoved htarget]; rfl⟩
  · rintro ⟨target, htakes, rfl⟩
    exact ⟨target, _, (takes_fill_iff hb).mpr htakes, hfound, by rw [hmoved htakes]; rfl⟩

end Beside

/-- Once there is a file beside the target, it gets the mode of the target and is moved over it, or
the tree is as it was. -/
theorem Beside.replaceFile_eq (hb : t.Beside p temp loc)
    (hcreate : t.createBeside p content 10000 0 = .ok (temp, loc, fill t loc content 0o600)) :
    t.replaceFile p content =
      match (fill t loc content 0o600).modeFor p with
      | .error f => (.error f, t)
      | .ok mode =>
        match (fill t loc content mode).moveOver temp loc p with
        | .ok done => (.ok (), done)
        | .error f => (.error f, t) := by
  have hgone : { t with top := (fill t loc content 0o600).top.erase loc } = t := hb.erase_fill
  have hrefill (mode : Nat) :
      { t with top := (fill t loc content 0o600).top.set loc (.file content mode) } =
        fill t loc content mode := hb.fill_fill mode
  have hhere : (fill t loc content 0o600).here = t.here := rfl
  have hmask : (fill t loc content 0o600).mask = t.mask := rfl
  rw [replaceFile, hcreate]
  simp only [hhere, hmask, hgone, hrefill]
  cases hmode : (fill t loc content 0o600).modeFor p with
  | error f => simp only
  | ok mode => cases hmove : (fill t loc content mode).moveOver temp loc p <;> simp only [hmove]

theorem replaceFile_eq_ok_iff : t.replaceFile p content = (.ok (), t') ↔
    (∃ beside, t.createBeside p content 10000 0 = .ok beside) ∧
      ∃ loc, t.Takes p loc ∧ t' = t.withFile loc content := by
  cases hcreate : t.createBeside p content 10000 0 with
  | error f =>
    rw [replaceFile, hcreate]
    simp
  | ok beside =>
    obtain ⟨temp, loc, written⟩ := beside
    obtain ⟨hb, rfl⟩ := createBeside_eq_ok hcreate
    rw [hb.replaceFile_eq hcreate]
    constructor
    · intro h
      refine ⟨⟨_, rfl⟩, ?_⟩
      cases hmode : (Beside.fill t loc content 0o600).modeFor p with
      | error f => simp [hmode] at h
      | ok mode =>
        cases hmove : (Beside.fill t loc content mode).moveOver temp loc p with
        | error f => simp [hmode, hmove] at h
        | ok done =>
          obtain ⟨target, htakes, rfl⟩ := hb.moveOver_fill_eq_ok_iff.mp hmove
          simp only [hmode, hmove, Prod.mk.injEq, true_and] at h
          rw [hb.modeFor_fill htakes, Except.ok.injEq] at hmode
          refine ⟨target, htakes, ?_⟩
          rw [← h, ← hmode]
          rfl
    · rintro ⟨-, target, htakes, rfl⟩
      have hmove := hb.moveOver_fill_eq_ok_iff.mpr ⟨target, htakes,
        (rfl : t.withFile target content = _)⟩
      simp only [hb.modeFor_fill htakes, hmove]

/-- What fails leaves no trace. -/
theorem replaceFile_error {f : Fault} (h : t.replaceFile p content = (.error f, t')) : t' = t := by
  cases hcreate : t.createBeside p content 10000 0 with
  | error e =>
    rw [replaceFile, hcreate] at h
    simp only [Prod.mk.injEq] at h
    exact h.2.symm
  | ok beside =>
    obtain ⟨temp, loc, written⟩ := beside
    obtain ⟨hb, rfl⟩ := createBeside_eq_ok hcreate
    rw [hb.replaceFile_eq hcreate] at h
    split at h
    · simp only [Prod.mk.injEq] at h
      exact h.2.symm
    · split at h
      · simp at h
      · simp only [Prod.mk.injEq] at h
        exact h.2.symm

theorem Takes.sameBut_withFile (h : t.Takes p loc) (content : List UInt8) :
    Node.SameBut loc t.top (t.withFile loc content).top := by
  have hfree := h.free
  obtain ⟨dir, hreach, rfl⟩ := h.reaches
  exact Node.sameBut_set hreach.isDir hfree

theorem Takes.item?_withFile (h : t.Takes p loc) (content : List UInt8) :
    (t.withFile loc content).top.item? loc =
      some (.file content (t.modeAt loc)) := by
  have hfree := h.free
  obtain ⟨dir, hreach, rfl⟩ := h.reaches
  rw [withFile, Node.item?_set hreach.isDir hfree (fun x r => Node.get?_file_cons content _ x r),
    if_pos rfl]
  rfl

/-- Where a path takes a file, nothing else is touched. -/
theorem Takes.spares (h : t.Takes p loc) (content : List UInt8) :
    Spares (· = loc) t (t.withFile loc content) := by
  have hsame := h.sameBut_withFile content
  have hthere : ((t.withFile loc content).top.item? loc).isSome := by
    rw [h.item?_withFile]
    rfl
  exact ⟨rfl, rfl, hsame.extends hthere, fun other hne _ _ => by rw [hsame.same other hne]⟩

/-- What is written later counts. -/
theorem Takes.withFile_withFile (h : t.Takes p loc) (content content' : List UInt8) :
    (t.withFile loc content).withFile loc content' = t.withFile loc content' := by
  have hmode := modeAt_of_item? (h.item?_withFile content)
  have hset (x y : Node) : (t.top.set loc x).set loc y = t.top.set loc y := by
    obtain ⟨dir, hreach, rfl⟩ := h.reaches
    exact Node.set_set hreach.isDir x y
  rw [withFile, hmode]
  simp only [withFile, hset]

theorem withFile_of_item? {mode : Nat} (h : t.top.item? loc = some (.file content mode)) :
    t.withFile loc content = t := by
  rw [withFile, modeAt_of_item? h, Node.set_of_get? (Node.item?_eq_file_iff.mp h)]

theorem replaceText_eq_ok_iff {text : Text} : t.replaceText p text = (.ok (), t') ↔
    Text.Encoding.utf8.fault? text = none ∧
      t.replaceFile p (Utf8.encode text) = (.ok (), t') := by
  rw [replaceText]
  cases Text.Encoding.utf8.fault? text with
  | none =>
    obtain ⟨done, tree⟩ := t.replaceFile p (Utf8.encode text)
    simp [mapError_eq_ok_iff]
  | some f => cases t.createBeside p [] 10000 0 <;> simp

theorem replaceText_error {text : Text} {f : WriteFault}
    (h : t.replaceText p text = (.error f, t')) : t' = t := by
  rw [replaceText] at h
  cases hfault : Text.Encoding.utf8.fault? text with
  | none =>
    cases hfile : t.replaceFile p (Utf8.encode text) with
    | mk done tree =>
      cases done with
      | ok _ =>
        simp only [hfault, hfile, Prod.mk.injEq] at h
        exact nomatch h.1
      | error e =>
        simp only [hfault, hfile, Prod.mk.injEq] at h
        rw [← h.2]
        exact replaceFile_error hfile
  | some e =>
    simp only [hfault] at h
    cases hcreate : t.createBeside p [] 10000 0 <;> simp_all

theorem replaceText_takes {text : Text} (h : t.replaceText p text = (.ok (), t')) :
    ∃ loc, t.Takes p loc ∧ t' = t.withFile loc (Utf8.encode text) :=
  (replaceFile_eq_ok_iff.mp (replaceText_eq_ok_iff.mp h).2).2

/-- A file that was replaced can be replaced by any other text, as if nothing had come between. -/
theorem replaceText_over {text text' : Text} (h : t.replaceText p text = (.ok (), t'))
    (hholds : Text.Encoding.utf8.fault? text' = none) : ∃ loc, t.Takes p loc ∧
      t'.replaceText p text' = (.ok (), t.withFile loc (Utf8.encode text')) := by
  obtain ⟨-, hfile⟩ := replaceText_eq_ok_iff.mp h
  obtain ⟨⟨⟨temp, free, written⟩, hcreate⟩, loc, htakes, rfl⟩ := replaceFile_eq_ok_iff.mp hfile
  have hsame := htakes.sameBut_withFile (Utf8.encode text)
  have hname : loc.getLast? = some p.name := by
    obtain ⟨dir, -, rfl⟩ := htakes.reaches
    simp
  have hhere : (t.withFile loc (Utf8.encode text)).here = t.here := rfl
  obtain ⟨written', hcreate'⟩ := createBeside_sameBut hhere hsame hname hcreate
  refine ⟨loc, htakes, replaceText_eq_ok_iff.mpr ⟨hholds, ?_⟩⟩
  refine replaceFile_eq_ok_iff.mpr ⟨⟨_, hcreate'⟩, loc, htakes.sameBut rfl hsame, ?_⟩
  exact (htakes.withFile_withFile _ _).symm

theorem replaceText_again {text : Text} (h : t.replaceText p text = (.ok (), t')) :
    t'.replaceText p text = (.ok (), t') := by
  have hholds := (replaceText_eq_ok_iff.mp h).1
  obtain ⟨loc, htakes, hagain⟩ := replaceText_over h hholds
  obtain ⟨loc', htakes', rfl⟩ := replaceText_takes h
  obtain rfl : loc = loc' := htakes.eq_destination.trans htakes'.eq_destination.symm
  exact hagain

theorem replaceText_spares {text : Text} (h : t.replaceText p text = (.ok (), t')) :
    Spares (· = t.destination p) t t' := by
  obtain ⟨loc, htakes, rfl⟩ := replaceText_takes h
  rw [← htakes.eq_destination]
  exact htakes.spares _

/-- What lies there afterwards has the new content and the mode of what was there before. -/
theorem look_replaceText {text : Text} (h : t.replaceText p text = (.ok (), t')) :
    t'.look p = .ok (.file (Utf8.encode text) (t.modeAt (t.destination p))) := by
  obtain ⟨loc, htakes, rfl⟩ := replaceText_takes h
  have hsame := htakes.sameBut_withFile (Utf8.encode text)
  have hitem := htakes.item?_withFile (Utf8.encode text)
  have hhere : (t.withFile loc (Utf8.encode text)).here = t.here := rfl
  have hlocate : (t.withFile loc (Utf8.encode text)).locate p = .ok loc := by
    rw [(htakes.sameBut hhere hsame).locate, hitem]
    rfl
  rw [look, hlocate, ← htakes.eq_destination]
  simp only [Node.item?_eq_file_iff.mp hitem]

/-- A text is read as it was written, if the file may be read at all. -/
theorem readExact_replaceText {text : Text} (h : t.replaceText p text = (.ok (), t'))
    (hread : Node.mayRead (t.modeAt (t.destination p)) = true) :
    t'.readExact p = .ok text := by
  rw [readExact, readBytes, look_replaceText h]
  simp only [hread, if_true, Utf8.decode_encode (replaceText_eq_ok_iff.mp h).1]
  rfl

end Synopsis.Tree
