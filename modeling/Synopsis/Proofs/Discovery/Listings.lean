import Mathlib.Data.List.Induction
import Synopsis.Proofs.Discovery
import Synopsis.Proofs.Tree.Below

namespace Synopsis.Discovery

variable {h : Host} {t : Tree} {root top : Path} {extensions all printed : List Text}
  {path : Text} {loc : Location}

/-- Whether a file counts, by the parts of its path from the root. -/
structure Counts (extensions : List Text) (parts : List Text) : Prop where
  extension : (Path.mk .relative parts).suffix ∈ extensions
  directories : ∀ part ∈ parts.dropLast,
    part ∉ (["node_modules", ".git", ".autosummary"] : List Text)
  name : (Path.mk .relative parts).name ∉ (["package.json", "tsconfig.json"] : List Text)
  lock : ¬ ("-lock.json" : Text).toList <:+ (Path.mk .relative parts).name.toList

theorem counts_iff : Path.extension path ∈ extensions ∧ isIgnored path = false ↔
    Counts extensions (Path.ofText path).parts := by
  have hname : (Path.mk .relative (Path.ofText path).parts).name = (Path.ofText path).name :=
    rfl
  have hignored : isIgnored path = false ↔
      (∀ part ∈ (Path.ofText path).parts.dropLast, part ∉ ignoredDirectories) ∧
        (Path.ofText path).name ∉ (["package.json", "tsconfig.json"] : List Text) ∧
        ¬ ("-lock.json" : Text).toList <:+ (Path.ofText path).name.toList := by
    simp [isIgnored, isIgnoredName, and_assoc, ← List.isSuffixOf_iff_suffix]
  rw [hignored]
  constructor
  · rintro ⟨hextension, hdirectories, hplain, hlock⟩
    exact ⟨hextension, hdirectories, hname ▸ hplain, hname ▸ hlock⟩
  · intro hcounts
    exact ⟨hcounts.extension, hcounts.directories, hname ▸ hcounts.name, hname ▸ hcounts.lock⟩

/-- What is found is in order, and it is just what is told. -/
def Finds (h : Host) (t : Tree) (root : Path) (extensions : List Text)
    (told : Text → Prop) : Prop :=
  ∃ paths, (discover h t root extensions).1 = .ok paths ∧ paths.Pairwise (· < ·) ∧
    ∀ path, path ∈ paths ↔ told path

theorem Finds.congr {told told' : Text → Prop} (hfinds : Finds h t root extensions told)
    (hsame : ∀ path, told path ↔ told' path) : Finds h t root extensions told' := by
  obtain ⟨paths, hfound, hordered, hmem⟩ := hfinds
  exact ⟨paths, hfound, hordered, fun path => (hmem path).trans (hsame path)⟩

theorem Finds.eq {h' : Host} {told : Text → Prop} (hfinds : Finds h t root extensions told)
    (hfinds' : Finds h' t root extensions told) :
    (discover h t root extensions).1 = (discover h' t root extensions).1 := by
  obtain ⟨paths, hfound, hordered, hmem⟩ := hfinds
  obtain ⟨paths', hfound', hordered', hmem'⟩ := hfinds'
  rw [hfound, hfound', eq_of_pairwise hordered hordered' fun path =>
    (hmem path).trans (hmem' path).symm]

theorem finds_of_candidates (hexpand : h.expand root = .ok top)
    (hall : (candidates h t top).1 = .ok all)
    (hlook : ∀ path ∈ all, Counts extensions (Path.ofText path).parts →
      ∃ there, t.isFile (top / path) = .ok there) :
    Finds h t root extensions fun path => path ∈ all ∧
      Counts extensions (Path.ofText path).parts ∧ t.isFile (top / path) = .ok true := by
  have hone : ∀ path ∈ all, ∃ keep, isWanted t top extensions path = .ok keep := by
    intro path hpath
    unfold isWanted
    by_cases hcounts : Path.extension path ∈ extensions ∧ (!isIgnored path) = true
    · obtain ⟨there, hthere⟩ := hlook path hpath
        (counts_iff.mp ⟨hcounts.1, by simpa using hcounts.2⟩)
      exact ⟨there, by rw [if_pos hcounts, hthere]⟩
    · exact ⟨false, by rw [if_neg hcounts]⟩
  obtain ⟨kept, hkept⟩ := wanted_ok hone
  refine ⟨inOrder kept, discover_eq_ok_iff.mpr ⟨top, all, kept, hexpand, hall, hkept, rfl⟩,
    pairwise_inOrder kept, fun path => ?_⟩
  rw [mem_inOrder_iff, mem_wanted_iff hkept, isWanted_eq_true_iff]
  simp only [← counts_iff, and_assoc]

theorem filesBelow_of_look {n : Node} (hlook : t.look top = .ok n) : filesBelow t top =
    .ok ((n.files fun name => name ∉ ignoredDirectories).map relativeText) := by
  rw [filesBelow, hlook]
  rfl

theorem parts_of_mem_files {wanted : Location → Prop} (horderly : t.Orderly top wanted) {n : Node}
    (hlook : t.look top = .ok n) (hmem : loc ∈ n.files fun _ => true) :
    (Path.ofText (relativeText loc)).parts = loc := by
  rw [ofText_relativeText (horderly.proper n hlook loc hmem)]

theorem isFile_of_mem_files {wanted : Location → Prop} (horderly : t.Orderly top wanted) {n : Node}
    (hlook : t.look top = .ok n) (hmem : loc ∈ n.files fun _ => true) (hwanted : wanted loc) :
    t.isFile (top / relativeText loc) = .ok ((n.get? loc).any Node.isFile) := by
  obtain ⟨base, hbase, hn⟩ := Tree.look_eq_ok_iff.mp hlook
  have hproper := horderly.proper n hlook loc hmem
  rw [join_relativeText top hproper,
    Tree.isFile_below hbase hproper (horderly.room n hlook loc hmem hwanted), Node.get?_append, hn]
  rfl

theorem parts_of_isFileBelow {wanted : Location → Prop} (horderly : t.Orderly top wanted)
    (hbelow : t.IsFileBelow top loc) : (Path.ofText (relativeText loc)).parts = loc := by
  obtain ⟨n, hlook⟩ := hbelow.look
  exact parts_of_mem_files horderly hlook ((Tree.isFileBelow_iff hlook).mp hbelow).1

/-- A file below the root can be found under the text of its location. -/
theorem isFile_of_isFileBelow {wanted : Location → Prop} (horderly : t.Orderly top wanted)
    (hbelow : t.IsFileBelow top loc) (hwanted : wanted loc) :
    t.isFile (top / relativeText loc) = .ok true := by
  obtain ⟨n, hlook⟩ := hbelow.look
  obtain ⟨hmem, hfile⟩ := (Tree.isFileBelow_iff hlook).mp hbelow
  rw [isFile_of_mem_files horderly hlook hmem hwanted, hfile]

theorem finds_of_unlisted (hexpand : h.expand root = .ok top)
    (horderly : t.Orderly top (Counts extensions))
    (hlisting : ∀ printed, h.listing ≠ .entries printed)
    (hnamed : ∀ why, t.look top ≠ .error (.unnameable why)) :
    Finds h t root extensions fun path =>
      ∃ loc, t.IsFileBelow top loc ∧ Counts extensions loc ∧ path = relativeText loc := by
  have hcandidates : (candidates h t top).1 = filesBelow t top := by
    unfold candidates
    cases hlisted : h.listing with
    | notInstalled => rfl
    | failed status => rfl
    | entries printed => exact absurd hlisted (hlisting printed)
  cases hlook : t.look top with
  | error e =>
    have hnone : filesBelow t top = .ok [] := by
      rw [filesBelow, hlook]
      cases e <;> first | rfl | exact absurd hlook (hnamed _)
    refine (finds_of_candidates hexpand (hcandidates.trans hnone) (by simp)).congr fun path => ?_
    have hnothing : ¬ ∃ loc, t.IsFileBelow top loc ∧ Counts extensions loc ∧
        path = relativeText loc := by
      rintro ⟨loc, hbelow, -⟩
      obtain ⟨n, hn⟩ := hbelow.look
      rw [hlook] at hn
      cases hn
    simp [hnothing]
  | ok n =>
    have hmem {loc : Location} : loc ∈ (n.files fun name => name ∉ ignoredDirectories) ↔
        loc ∈ n.files (fun _ => true) ∧ ∀ name ∈ loc.dropLast, name ∉ ignoredDirectories := by
      rw [Node.mem_files_iff]
      simp
    refine (finds_of_candidates hexpand (hcandidates.trans (filesBelow_of_look hlook))
      fun path hpath hcounts => ?_).congr fun path => ?_
    · obtain ⟨loc, hloc, rfl⟩ := List.mem_map.mp hpath
      have hall := (hmem.mp hloc).1
      rw [parts_of_mem_files horderly hlook hall] at hcounts
      exact ⟨_, isFile_of_mem_files horderly hlook hall hcounts⟩
    · constructor
      · rintro ⟨hpath, hcounts, hfile⟩
        obtain ⟨loc, hloc, rfl⟩ := List.mem_map.mp hpath
        have hall := (hmem.mp hloc).1
        rw [parts_of_mem_files horderly hlook hall] at hcounts
        rw [isFile_of_mem_files horderly hlook hall hcounts, Except.ok.injEq] at hfile
        exact ⟨loc, (Tree.isFileBelow_iff hlook).mpr ⟨hall, hfile⟩, hcounts, rfl⟩
      · rintro ⟨loc, hbelow, hcounts, rfl⟩
        have hall := ((Tree.isFileBelow_iff hlook).mp hbelow).1
        exact ⟨List.mem_map.mpr ⟨loc, hmem.mpr ⟨hall, hcounts.directories⟩, rfl⟩,
          by rw [parts_of_mem_files horderly hlook hall]; exact hcounts,
          isFile_of_isFileBelow horderly hbelow hcounts⟩

theorem finds_of_printed (hexpand : h.expand root = .ok top)
    (hlisting : h.listing = .entries printed)
    (hlook : ∀ path ∈ printed, path ≠ "" → Counts extensions (Path.ofText path).parts →
      ∃ there, t.isFile (top / path) = .ok there) :
    Finds h t root extensions fun path => path ∈ printed ∧ path ≠ "" ∧
      Counts extensions (Path.ofText path).parts ∧ t.isFile (top / path) = .ok true := by
  have hall : (candidates h t top).1 = .ok (printed.filter (· ≠ ("" : Text))) := by
    rw [candidates, hlisting]
    rfl
  have hmem {path : Text} :
      path ∈ printed.filter (· ≠ ("" : Text)) ↔ path ∈ printed ∧ path ≠ "" := by
    simp
  refine (finds_of_candidates hexpand hall fun path hpath => ?_).congr fun path => ?_
  · obtain ⟨hprinted, hne⟩ := hmem.mp hpath
    exact hlook path hprinted hne
  · rw [hmem, and_assoc]

/-- Where version control lists nothing that leads up or starts from the top, what it finds lies
below the root. -/
theorem isFileBelow_of_isFile {n : Node} (hlook : t.look top = .ok n)
    (hrelative : (Path.ofText path).anchor = .relative)
    (hdown : (".." : Text) ∉ (Path.ofText path).parts) (hne : (Path.ofText path).parts ≠ [])
    (hfile : t.isFile (top / path) = .ok true) :
    t.IsFileBelow top (Path.ofText path).parts := by
  obtain ⟨base, hbase, -⟩ := Tree.look_eq_ok_iff.mp hlook
  obtain ⟨content, mode, hfound⟩ := Tree.isFile_eq_true_iff.mp hfile
  obtain ⟨loc, hloc, hget⟩ := Tree.look_eq_ok_iff.mp hfound
  have hjoin : top / path = ⟨top.anchor, top.parts ++ (Path.ofText path).parts⟩ := by
    change top.join (Path.ofText path) = _
    rw [Path.join, if_neg (by simp [Path.isAbsolute, hrelative])]
  have hstart : t.start ⟨top.anchor, top.parts ++ (Path.ofText path).parts⟩ = t.start top := rfl
  have hwalk := (Tree.locate_eq_ok_iff.mp hloc).2
  rw [hjoin, hstart, Tree.walk_append, (Tree.locate_eq_ok_iff.mp hbase).2] at hwalk
  have hplace : loc = base ++ (Path.ofText path).parts :=
    Tree.eq_append_of_walk (fun part hpart heq => hdown (heq ▸ hpart)) hwalk
  rw [hplace] at hget
  exact ⟨hne, base, content, mode, hbase, Node.item?_eq_file_iff.mpr hget⟩

/-- Both ways find the same where version control lists the files below the root, whatever else it
lists that is no file. -/
theorem discover_spec (hexpand : h.expand root = .ok top) (extensions : List Text) :
    ((∀ printed, h.listing ≠ .entries printed) → (∀ why, t.look top ≠ .error (.unnameable why)) →
      t.Orderly top (Counts extensions) → Finds h t root extensions fun path =>
        ∃ loc, t.IsFileBelow top loc ∧ Counts extensions loc ∧ path = relativeText loc) ∧
    (∀ printed, h.listing = .entries printed →
      (∀ path ∈ printed, path ≠ "" → Counts extensions (Path.ofText path).parts →
        ∃ there, t.isFile (top / path) = .ok there) →
      Finds h t root extensions fun path => path ∈ printed ∧ path ≠ "" ∧
        Counts extensions (Path.ofText path).parts ∧ t.isFile (top / path) = .ok true) ∧
    (∀ n path, t.look top = .ok n → (Path.ofText path).anchor = .relative →
      (".." : Text) ∉ (Path.ofText path).parts → (Path.ofText path).parts ≠ [] →
      t.isFile (top / path) = .ok true → t.IsFileBelow top (Path.ofText path).parts) ∧
    ∀ printed other, (∀ printed, other ≠ .entries printed) →
      (∀ why, t.look top ≠ .error (.unnameable why)) → t.Orderly top (Counts extensions) →
      (∀ loc, t.IsFileBelow top loc → relativeText loc ∈ printed) →
      (∀ path ∈ printed, (∃ loc, t.IsFileBelow top loc ∧ path = relativeText loc) ∨
        t.isFile (top / path) = .ok false) →
      (discover { h with listing := .entries printed } t root extensions).1 =
        (discover { h with listing := other } t root extensions).1 := by
  refine ⟨fun hlisting hnamed horderly => finds_of_unlisted hexpand horderly hlisting hnamed,
    fun printed => finds_of_printed hexpand, fun n path => isFileBelow_of_isFile, ?_⟩
  intro printed other hother hnamed horderly hall hprinted
  have hlisted : Finds { h with listing := .entries printed } t root extensions _ :=
    finds_of_printed hexpand rfl fun path hpath _ hcounts => by
      rcases hprinted path hpath with ⟨loc, hbelow, rfl⟩ | hnot
      · rw [parts_of_isFileBelow horderly hbelow] at hcounts
        exact ⟨true, isFile_of_isFileBelow horderly hbelow hcounts⟩
      · exact ⟨false, hnot⟩
  have hwalked : Finds { h with listing := other } t root extensions _ :=
    finds_of_unlisted hexpand horderly hother hnamed
  refine (hlisted.congr fun path => ?_).eq hwalked
  constructor
  · rintro ⟨hpath, -, hcounts, hfile⟩
    rcases hprinted path hpath with ⟨loc, hbelow, rfl⟩ | hnot
    · rw [parts_of_isFileBelow horderly hbelow] at hcounts
      exact ⟨loc, hbelow, hcounts, rfl⟩
    · rw [hfile] at hnot
      cases hnot
  · rintro ⟨loc, hbelow, hcounts, rfl⟩
    have hparts := parts_of_isFileBelow horderly hbelow
    have hne : relativeText loc ≠ "" := by
      intro hempty
      rw [hempty] at hparts
      exact hbelow.1 hparts.symm
    exact ⟨hall loc hbelow, hne, by rw [hparts]; exact hcounts,
      isFile_of_isFileBelow horderly hbelow hcounts⟩

/-- A machine without version control. -/
def plainHost : Host := ⟨"/home", [], none, none, none, ⟨.root, []⟩, .notInstalled⟩

/-- A file that counts, and one in a directory that does not. -/
def project : Tree :=
  ⟨.dir [("node_modules", .dir [("b.ts", .file [] 0o644)]), ("a.ts", .file [] 0o644)], [], 0o022⟩

theorem look_project : project.look (.ofText "/") = .ok project.top := rfl

theorem files_project : project.top.files (fun _ => true) =
    [(["node_modules", "b.ts"] : List Text), (["a.ts"] : List Text)] := by
  decide +kernel

theorem orderly_project (wanted : Location → Prop) : project.Orderly (.ofText "/") wanted := by
  have hfiles {n : Node} {loc : Location} (hn : project.look (.ofText "/") = .ok n)
      (hloc : loc ∈ n.files fun _ => true) :
      loc = (["node_modules", "b.ts"] : List Text) ∨ loc = (["a.ts"] : List Text) := by
    obtain rfl := Except.ok.inj (look_project.symm.trans hn)
    simpa [files_project] using hloc
  have hproper : ProperName "node_modules" ∧ ProperName "b.ts" ∧ ProperName "a.ts" := by
    refine ⟨?_, ?_, ?_⟩ <;> constructor <;> decide +kernel
  constructor
  · intro n hn loc hloc name hname
    rcases hfiles hn hloc with rfl | rfl
    · simp only [List.mem_cons, List.not_mem_nil, or_false] at hname
      rcases hname with rfl | rfl
      · exact hproper.1
      · exact hproper.2.1
    · rw [List.mem_singleton.mp hname]
      exact hproper.2.2
  · intro n hn loc hloc _
    rcases hfiles hn hloc with rfl | rfl <;> decide +kernel

theorem isFileBelow_project (h : project.IsFileBelow (.ofText "/") loc) :
    loc = (["node_modules", "b.ts"] : List Text) ∨ loc = (["a.ts"] : List Text) := by
  have hmem := ((Tree.isFileBelow_iff look_project).mp h).1
  simpa [files_project] using hmem

/-- Without version control, and with one that lists each file more than once or not at all there.
-/
theorem discover_spec_project :
    let told (path : Text) : Prop := ∃ loc, project.IsFileBelow (.ofText "/") loc ∧
      Counts [".ts"] loc ∧ path = relativeText loc
    let printed : List Text := ["node_modules/b.ts", "a.ts", "gone.ts", "a.ts", "node_modules"]
    project.Orderly (.ofText "/") (Counts [".ts"]) ∧
      Finds plainHost project (.ofText "/") [".ts"] told ∧
      (discover { plainHost with listing := .entries printed } project (.ofText "/") [".ts"]).1 =
        (discover plainHost project (.ofText "/") [".ts"]).1 := by
  intro told printed
  have hplain (printed : List Text) : plainHost.listing ≠ .entries printed := by
    simp [plainHost]
  have hlook (why : NameFault) : project.look (.ofText "/") ≠ .error (.unnameable why) := by
    simp [look_project]
  have hexpand : plainHost.expand (.ofText "/") = .ok (.ofText "/") := rfl
  obtain ⟨hwalked, -, -, hsame⟩ := discover_spec (t := project) hexpand [".ts"]
  have hbelow {loc : Location} {content : List UInt8} {mode : Nat} (hne : loc ≠ [])
      (hitem : project.top.item? loc = some (.file content mode)) :
      project.IsFileBelow (.ofText "/") loc := ⟨hne, [], content, mode, rfl, hitem⟩
  refine ⟨orderly_project _, hwalked hplain hlook (orderly_project _),
    hsame printed .notInstalled (by simp) hlook (orderly_project _) ?_ ?_⟩
  · intro loc hloc
    rcases isFileBelow_project hloc with rfl | rfl <;> decide +kernel
  · simp only [printed, List.forall_mem_cons, List.not_mem_nil, false_implies, implies_true,
      and_true]
    refine ⟨.inl ⟨["node_modules", "b.ts"], hbelow (by simp) rfl, by decide +kernel⟩,
      .inl ⟨["a.ts"], hbelow (by simp) rfl, by decide +kernel⟩, .inr (by decide +kernel),
      .inl ⟨["a.ts"], hbelow (by simp) rfl, by decide +kernel⟩, .inr (by decide +kernel)⟩

/-- A root that has no place, a root that nothing can be looked for below, and a listed path that
leads out of the root. -/
theorem not_finds :
    (discover plainHost project (.ofText "~nobody") [".ts"]).1 = .error (.home .unknown) ∧
    (discover plainHost project (.ofText "/\x00") [".ts"]).1 =
      .error (.file (.of (.unnameable .nul) "/\x00")) ∧
    (discover { plainHost with listing := .entries ["../a.ts"] } project
      (.ofText "/node_modules") [".ts"]).1 = .ok ["../a.ts"] := by
  refine ⟨?_, ?_, ?_⟩ <;> decide +kernel

end Synopsis.Discovery
