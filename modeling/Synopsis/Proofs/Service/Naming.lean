import Synopsis.Proofs.Service.Batch

namespace Synopsis

theorem point_not_mem_of_isUserName {cs : List Rune} (h : isUserName cs = true) :
    ('.' : Rune) ∉ cs := by
  cases cs with
  | nil => simp
  | cons c r =>
    simp only [isUserName, Bool.and_eq_true, List.all_eq_true] at h
    intro hpoint
    rcases List.mem_cons.mp hpoint with rfl | hpoint
    · exact absurd h.1 (by decide)
    · exact absurd (h.2 _ hpoint) (by decide)

example : isUserName ("x.ts" : Text).toList = false := by decide

/-- Neither a tilde nor the name of a user behind it has a point. -/
theorem Host.point_not_mem_of_homeFor {h : Host} {c : Rune} {r : List Rune} {home : Text}
    (hhome : h.homeFor (c :: r) = some home) (hc : c ≠ '.') : ('.' : Rune) ∉ c :: r := by
  obtain ⟨directory, hdirectory, -⟩ := Option.map_eq_some_iff.mp hhome
  split at hdirectory
  · rename_i hown
    rw [hown]
    decide
  · obtain ⟨a, ha, -⟩ := Option.map_eq_some_iff.mp hdirectory
    have hname : a.name.toList = r := by simpa using List.find?_some ha
    have hplain := point_not_mem_of_isUserName a.lawful
    rw [hname] at hplain
    intro hpoint
    rcases List.mem_cons.mp hpoint with heq | hpoint
    · exact hc heq.symm
    · exact hplain hpoint

theorem Path.suffixOfName_of_not_mem {name : List Rune} (h : ('.' : Rune) ∉ name) :
    suffixOfName name = [] := by
  have hall : ∀ c ∈ name.reverse, decide (c ≠ '.') = true := by
    intro c hc
    rw [decide_eq_true_eq]
    rintro rfl
    exact h (List.mem_reverse.mp hc)
  have htail : (name.reverse ++ []).takeWhile (fun c : Rune => decide (c ≠ '.')) =
      name.reverse ++ [].takeWhile fun c : Rune => decide (c ≠ '.') :=
    List.takeWhile_append_of_pos hall
  rw [List.takeWhile_nil, List.append_nil] at htail
  rw [suffixOfName, htail, List.reverse_reverse]
  exact if_pos (.inr (Nat.le_succ _))

theorem Path.name_of_append {p q : Path} {front : List Text}
    (h : p.parts = front ++ q.parts) (hne : q.parts ≠ []) : p.name = q.name := by
  rw [Path.name, Path.name, h, List.getLast?_append, List.getLast?_eq_some_getLast hne]
  rfl

/-- A home directory is put in front of a name with a point, and not in its place. -/
theorem Host.name_expand {h : Host} {p q : Path} (hq : h.expand p = .ok q)
    (hpoint : ('.' : Rune) ∈ p.name.toList) : q.parts ≠ [] ∧ q.name = p.name := by
  have hne : p.parts ≠ [] := by
    intro hnil
    simp [Path.name, hnil] at hpoint
  unfold Host.expand at hq
  split at hq
  · rename_i first rest hanchor hparts
    split at hq
    · rename_i htilde
      split at hq
      · rename_i home hhome
        have hrest : rest ≠ [] := by
          rintro rfl
          obtain ⟨r, hfirst⟩ := List.head?_eq_some_iff.mp htilde
          rw [hfirst] at hhome
          rw [Path.name, hparts, List.getLast?_singleton, Option.getD_some, hfirst] at hpoint
          exact Host.point_not_mem_of_homeFor hhome (by decide) hpoint
        split at hq
        · simp at hq
        · simp only [Except.ok.injEq] at hq
          subst hq
          refine ⟨by simp [hrest], ?_⟩
          have hsplit : p.parts = [first] ++ (Path.mk .relative rest).parts := hparts
          have hpath : p.name = (Path.mk .relative rest).name := Path.name_of_append hsplit hrest
          rw [hpath]
          exact Path.name_of_append rfl hrest
      · simp at hq
    · simp only [Except.ok.injEq] at hq
      subst hq
      exact ⟨hne, rfl⟩
  · simp only [Except.ok.injEq] at hq
    subst hq
    exact ⟨hne, rfl⟩

namespace Service

variable {α σ : Type} {sv : Service α σ} {path other : Text} {file : Path} {t : Tree}
  {d : Dialect}

theorem name_place (h : sv.place path = .ok file)
    (hpoint : ('.' : Rune) ∈ (Path.ofText path).name.toList) :
    file.name = (Path.ofText path).name := by
  unfold place at h
  cases hp : sv.host.expand (.ofText path) with
  | error f => simp [hp, bind, Except.bind] at h
  | ok p =>
    obtain ⟨hparts, hname⟩ := Host.name_expand hp hpoint
    rw [← hname]
    by_cases habs : p.isAbsolute = true
    · simp only [hp, bind, Except.bind, habs, if_true, pure, Except.pure, Except.ok.injEq] at h
      rw [h]
    · cases hroot : sv.host.expand sv.settings.root with
      | error f => simp [hp, hroot, habs, bind, Except.bind] at h
      | ok root =>
        simp only [hp, hroot, habs, bind, Except.bind, if_false, pure, Except.pure,
          Except.ok.injEq, Bool.false_eq_true] at h
        rw [← h]
        change (Path.join root p).name = p.name
        rw [Path.join, if_neg habs]
        exact Path.name_of_append rfl hparts

/-- Types of files that can hold a summary are types of names. -/
theorem isNamed_of_ofExtension? (h : Dialect.ofExtension? (Path.extension path) = some d) :
    Tree.isNamed (.ofText path) = true := by
  have hempty : Dialect.ofExtension? (.ofList (Path.suffixOfName ("" : Text).toList)) = none := by
    decide
  have hup : Dialect.ofExtension? (.ofList (Path.suffixOfName (".." : Text).toList)) = none := by
    decide
  rw [Path.extension, Path.suffix] at h
  simp only [Tree.isNamed, Bool.and_eq_true, decide_eq_true_eq]
  constructor
  · intro hname
    rw [hname, hempty] at h
    simp at h
  · intro hname
    rw [hname, hup] at h
    simp at h

theorem point_mem_of_ofExtension? (h : Dialect.ofExtension? (Path.extension path) = some d) :
    ('.' : Rune) ∈ (Path.ofText path).name.toList := by
  refine Classical.byContradiction fun hpoint => ?_
  have hnone : Dialect.ofExtension? (.ofList []) = none := by decide
  rw [Path.extension, Path.suffix, Path.suffixOfName_of_not_mem hpoint, hnone] at h
  simp at h

/-- A file of a type that can hold a summary has the name that the path ends in. -/
theorem getLast?_destination (h : sv.place path = .ok file)
    (hd : Dialect.ofExtension? (Path.extension path) = some d) :
    (t.destination file).getLast? = some (Path.ofText path).name := by
  have hnamed := isNamed_of_ofExtension? hd
  have hname := name_place h (point_mem_of_ofExtension? hd)
  have hfile : Tree.isNamed file = true := by
    rw [Tree.isNamed, hname]
    exact hnamed
  obtain ⟨hparts, hup⟩ := Tree.parts_of_isNamed hfile
  rw [Tree.destination_eq, hparts, List.foldl_append, List.foldl_cons, List.foldl_nil, Tree.climb,
    if_neg hup, List.getLast?_concat, hname]

/-- The type of a file is told by its name alone. -/
theorem extension_of_name (h : (Path.ofText path).name = (Path.ofText other).name) :
    Path.extension path = Path.extension other := by
  rw [Path.extension, Path.extension, Path.suffix, Path.suffix, h]

end Service

end Synopsis
