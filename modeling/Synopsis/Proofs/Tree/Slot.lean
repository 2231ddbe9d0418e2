import Synopsis.Proofs.Tree.Walk

namespace Synopsis.Tree

variable {t : Tree} {p : Path} {loc : Location}

/-- The directory that a path has its last name in. -/
structure Reaches (t : Tree) (p : Path) (dir : Location) : Prop where
  allowed : obstacle? p = none
  short : p.name.fileSize ≤ nameLimit
  way : walk t.top (t.start p) p.parts.dropLast = .ok dir
  isDir : t.top.item? dir = some .dir

theorem slot_eq_ok_iff {old : Option Node} : t.slot p = .ok (loc, old) ↔
    ∃ dir, t.Reaches p dir ∧ loc = dir ++ [p.name] ∧ old = t.top.get? loc := by
  have hsplit : t.slot p = .ok (loc, old) ↔ obstacle? p = none ∧ ∃ dir entries,
      walk t.top (t.start p) p.parts.dropLast = .ok dir ∧ t.top.get? dir = some (.dir entries) ∧
      p.name.fileSize ≤ nameLimit ∧ loc = dir ++ [p.name] ∧
      old = Keyed.get? entries p.name := by
    unfold slot
    cases obstacle? p with
    | some e => simp
    | none =>
      cases walk t.top (t.start p) p.parts.dropLast with
      | error e => simp
      | ok dir =>
        cases hdir : t.top.get? dir with
        | none => simp [hdir]
        | some n =>
          cases n with
          | file content mode => simp [hdir]
          | dir entries =>
            by_cases hlong : nameLimit < p.name.fileSize
            · have hle : ¬ p.name.fileSize ≤ nameLimit := by omega
              simp [hdir, hlong, hle]
            · have hle : p.name.fileSize ≤ nameLimit := by omega
              simp [hdir, hlong, hle, eq_comm]
  have hentry (dir : Location) (entries : List (Text × Node))
      (hdir : t.top.get? dir = some (.dir entries)) :
      t.top.get? (dir ++ [p.name]) = Keyed.get? entries p.name := by
    rw [Node.get?_append, hdir, Option.bind_some, Node.get?_cons]
    cases Keyed.get? entries p.name <;> simp [Node.get?_nil]
  rw [hsplit]
  constructor
  · rintro ⟨hnone, dir, entries, hway, hdir, hshort, rfl, rfl⟩
    exact ⟨dir, ⟨hnone, hshort, hway, Node.item?_eq_dir_iff.mpr ⟨entries, hdir⟩⟩, rfl,
      (hentry dir entries hdir).symm⟩
  · rintro ⟨dir, hreach, rfl, rfl⟩
    obtain ⟨entries, hdir⟩ := Node.item?_eq_dir_iff.mp hreach.isDir
    exact ⟨hreach.allowed, dir, entries, hreach.way, hdir, hreach.short, rfl,
      hentry dir entries hdir⟩

/-- The place of a file that may come to lie at a path: a directory is there to hold it, and none is
in its way. -/
structure Takes (t : Tree) (p : Path) (loc : Location) : Prop where
  named : isNamed p = true
  reaches : ∃ dir, t.Reaches p dir ∧ loc = dir ++ [p.name]
  free : t.top.item? loc ≠ some .dir

theorem Reaches.extends {t' : Tree} {dir : Location} (h : t.Reaches p dir)
    (hhere : t'.here = t.here) (he : Node.Extends t.top t'.top) : t'.Reaches p dir := by
  have hstart : t'.start p = t.start p := by simp [start, hhere]
  exact ⟨h.allowed, h.short, by rw [hstart]; exact walk_extends he h.way, he.dir _ h.isDir⟩

theorem Reaches.sameBut {t' : Tree} {dir changed : Location} (h : t.Reaches p dir)
    (hhere : t'.here = t.here) (hs : Node.SameBut changed t.top t'.top) : t'.Reaches p dir := by
  have hne : dir ≠ changed := fun he => hs.left (he ▸ h.isDir)
  have hstart : t'.start p = t.start p := by simp [start, hhere]
  exact ⟨h.allowed, h.short, by rw [hstart]; exact walk_sameBut hs hne h.way,
    by rw [hs.same dir hne]; exact h.isDir⟩

/-- A path with a name of its own ends in that name. -/
theorem parts_of_isNamed (h : isNamed p = true) :
    p.parts = p.parts.dropLast ++ [p.name] ∧ p.name ≠ ".." := by
  simp only [isNamed, Bool.and_eq_true, decide_eq_true_eq] at h
  refine ⟨?_, h.2⟩
  have hne : p.parts ≠ [] := by
    intro hnil
    exact h.1 (by simp [Path.name, hnil])
  have hlast : p.name = p.parts.getLast hne := by
    rw [Path.name, List.getLast?_eq_some_getLast hne, Option.getD_some]
  rw [hlast, List.dropLast_concat_getLast]

theorem Reaches.eq_destination {dir : Location} (h : t.Reaches p dir) (hn : isNamed p = true) :
    dir ++ [p.name] = t.destination p := by
  obtain ⟨hparts, hup⟩ := parts_of_isNamed hn
  rw [destination_eq, hparts, List.foldl_append, ← walk_eq_foldl_climb h.way, List.foldl_cons,
    List.foldl_nil, climb, if_neg hup]

/-- Nothing but a missing entry keeps the path from leading to its place. -/
theorem Reaches.locate {dir : Location} (h : t.Reaches p dir) (hn : isNamed p = true) :
    t.locate p = if (t.top.item? (dir ++ [p.name])).isSome then .ok (dir ++ [p.name])
      else .error .missing := by
  obtain ⟨hparts, hup⟩ := parts_of_isNamed hn
  obtain ⟨entries, hdir⟩ := Node.item?_eq_dir_iff.mp h.isDir
  have hlong : ¬ nameLimit < p.name.fileSize := by
    have hshort := h.short
    omega
  have hlast : walk t.top (t.start p) p.parts = walk t.top dir [p.name] := by
    rw [hparts, walk_append, h.way]
    rfl
  have hitem : (t.top.item? (dir ++ [p.name])).isSome = (Keyed.get? entries p.name).isSome := by
    rw [Node.item?, Node.get?_append, hdir, Option.bind_some, Node.get?_cons]
    cases Keyed.get? entries p.name <;> simp [Node.get?_nil]
  rw [Tree.locate, h.allowed, hlast, hitem, walk, enter, hdir]
  cases hentry : Keyed.get? entries p.name <;> simp [hup, hlong, hentry, walk]

namespace Takes

theorem eq_destination (h : t.Takes p loc) : loc = t.destination p := by
  obtain ⟨dir, hreach, rfl⟩ := h.reaches
  exact hreach.eq_destination h.named

theorem slot (h : t.Takes p loc) : t.slot p = .ok (loc, t.top.get? loc) := by
  obtain ⟨dir, hreach, hloc⟩ := h.reaches
  exact slot_eq_ok_iff.mpr ⟨dir, hreach, hloc, rfl⟩

theorem locate (h : t.Takes p loc) :
    t.locate p = if (t.top.item? loc).isSome then .ok loc else .error .missing := by
  obtain ⟨dir, hreach, rfl⟩ := h.reaches
  exact hreach.locate h.named

theorem sameBut {t' : Tree} {changed : Location} (h : t.Takes p loc) (hhere : t'.here = t.here)
    (hs : Node.SameBut changed t.top t'.top) : t'.Takes p loc := by
  obtain ⟨dir, hreach, rfl⟩ := h.reaches
  refine ⟨h.named, ⟨dir, hreach.sameBut hhere hs, rfl⟩, ?_⟩
  by_cases hne : dir ++ [p.name] = changed
  · exact hne ▸ hs.right
  · rw [hs.same _ hne]
    exact h.free

end Takes

end Synopsis.Tree
