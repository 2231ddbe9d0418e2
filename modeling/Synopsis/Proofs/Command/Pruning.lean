import Synopsis.Proofs.Command.Execution
import Synopsis.Proofs.Discovery
import Synopsis.Proofs.Service.Recording
import Synopsis.Proofs.Settings

namespace Synopsis

namespace Service

variable {α σ : Type} {sv : Service α σ} {known : Index} {path : Text} {paths : List Text}
  {t t' : Tree} {report : Report} {s s' : Session α σ}

/-- An annotation that succeeds has a summary, but for files of other types. -/
theorem Annotates.summary? {a : Annotation} (h : Annotates sv known path t (.ok a) t')
    (hyes : sv.isSupported path = true) : ∃ summary, a.outcome.summary? = some summary := by
  cases h with
  | skipped hno => simp [hyes] at hno
  | cached _ summary | embedded _ _ _ _ summary | indexed _ _ _ _ summary
  | written _ _ _ _ _ summary => exact ⟨summary, rfl⟩

/-- Without failures there is an entry for each path. -/
theorem AnnotatesAll.map_path_entriesOf (h : AnnotatesAll sv known paths t report t')
    (hclean : report.failures = []) (hyes : ∀ p ∈ paths, sv.isSupported p = true) :
    (Index.entriesOf report.results).map Entry.path = paths := by
  induction h with
  | nil => rfl
  | @result path r t t₁ t₂ a report hone hrest ih =>
    obtain ⟨summary, hsummary⟩ := hone.summary? (hyes path List.mem_cons_self)
    have htail := ih hclean fun p hp => hyes p (List.mem_cons_of_mem _ hp)
    have hentries : Index.entriesOf (a :: report.results) =
        ⟨a.path, summary⟩ :: Index.entriesOf report.results := by
      simp [Index.entriesOf, hsummary]
    rw [hentries, List.map_cons, htail, hone.path_eq]
  | failure => simp at hclean

/-- The index after a run that prunes and has no failures. -/
theorem keys_of_pruning (hrun : sv.run paths s = (.ok report, s'))
    (hindex : Index.ValidOrAbsent s.tree sv.index) (hprune : sv.settings.prune = true)
    (hclean : report.failures = []) (hyes : ∀ p ∈ paths, sv.isSupported p = true)
    (hnodup : paths.Nodup) :
    ∃ later, Index.load s'.tree sv.index = .ok (later, true) ∧ Keyed.keys later = paths := by
  obtain ⟨former, found, mid, hformer, hsteps, hstore⟩ := run_spec hrun
  have hmay : Index.MayLoad mid sv.index :=
    hsteps.mayLoad (Index.mayLoad_of_validOrAbsent hindex)
  have hkeyed : Index.WellKeyed (Index.compile sv.settings.prune report.results former) :=
    Index.wellKeyed_compile (Index.wellKeyed_load hformer)
  have hload := Index.load_store_index hkeyed (Index.nodup_keys_compile _ _ _) hstore hmay
  refine ⟨_, hload, ?_⟩
  have hmade : Index.compile true report.results former =
      Index.ofEntries (Index.entriesOf report.results) := by
    rw [Index.compile_eq_renewed _ _ (Index.nodup_keys_load hformer), Index.renewed, if_pos rfl,
      List.append_nil]
  have hpaths := hsteps.map_path_entriesOf hclean hyes
  rw [hprune, hmade, Index.keys_ofEntries, hpaths, Discovery.eraseDups_of_nodup hnodup]

end Service

namespace Command

open Service

variable {α σ : Type} {h : Host} {supply : Supply α σ} {args paths : List Text}
  {root : Option Text} {verbosity : Nat} {options : RunOptions} {sv : Service α σ}
  {settings : Settings} {index : Path} {s start : Session α σ}

theorem prune_of_setsOut {t : Tree} (hset : SetsOut h t args (.run paths options) settings index)
    (hprune : options.prune = true) : settings.prune = true := by
  obtain ⟨root, verbosity, _, place, _, _, hread, hexpand, hdir, hload, hindex⟩ := hset
  exact Settings.prune_of_load hprune hload

/-- Without paths it is those that are found. -/
theorem chosenPaths_nil (h : chosenPaths sv [] s = (.ok paths, start)) :
    ∃ notes, Discovery.discover sv.host s.tree sv.settings.root sv.settings.extensions =
      (.ok paths, notes) := by
  cases chooses_of_chosenPaths h with
  | given _ hne => exact absurd rfl hne
  | found _ notes hfound => exact ⟨notes, hfound⟩

/-- What is found is supported, and found once. -/
theorem supported_of_discover {notes : List Note} (hfound : Discovery.discover sv.host s.tree
      sv.settings.root sv.settings.extensions = (.ok paths, notes)) :
    paths.Nodup ∧ ∀ p ∈ paths, sv.isSupported p = true := by
  obtain ⟨top, -, hnodup, hmem⟩ := Discovery.discover_ok hfound
  refine ⟨hnodup, fun p hp => ?_⟩
  simp [isSupported, ((hmem p).mp hp).2.1]

/-- The `run` command without paths, if it ends well: the paths are those that are found, and the
service ran on them without a failure unless there were none. -/
theorem annotateFiles_zero (hexit : (annotateFiles sv [] s).1 = .ok 0) : ∃ paths notes,
    Discovery.discover sv.host s.tree sv.settings.root sv.settings.extensions =
      (.ok paths, notes) ∧
    (paths = [] ∧ (annotateFiles sv [] s).2.tree = s.tree ∨
      paths ≠ [] ∧ ∃ start report s', start.tree = s.tree ∧ sv.run paths start = (.ok report, s') ∧
        report.failures = [] ∧ (annotateFiles sv [] s).2.tree = s'.tree) := by
  have hchoice := chosenPaths_tells sv [] s
  cases hchosen : chosenPaths sv [] s with
  | mk found start =>
    rw [hchosen] at hchoice
    have hstart : start.tree = s.tree := hchoice.tree
    cases found with
    | error crash => simp [annotateFiles, hchosen] at hexit
    | ok paths =>
      obtain ⟨notes, hfound⟩ := chosenPaths_nil hchosen
      refine ⟨paths, notes, hfound, ?_⟩
      by_cases hnone : paths = []
      · left
        refine ⟨hnone, ?_⟩
        rw [annotateFiles, hchosen, hnone]
        exact hstart
      · right
        rw [annotateFiles_of_chosen hchosen hnone] at hexit ⊢
        obtain ⟨report, hreport, hclean⟩ := of_conclude_zero hexit
        have htree := (conclude_tells sv (sv.run paths start)).tree
        rw [Session.close_tree] at htree
        exact ⟨hnone, start, report, _, hstart, Prod.fst_eq_iff.mp hreport, hclean, htree⟩

/-- What the index of a tree holds after a command to prune, where `paths` are the files that were
found before. -/
structure Pruned (t t' : Tree) (index : Path) (paths : List Text) : Prop where
  found : paths ≠ [] →
    ∃ later, Index.load t' index = .ok (later, true) ∧ Keyed.keys later = paths
  none : paths = [] → t' = t
  iff (later : Index) (found : Bool) : Index.load t' index = .ok (later, found) →
    (Keyed.keys later = paths ↔ paths ≠ [] ∨ Index.load t index = .ok ([], found))

theorem pruned_of_run {t' : Tree} {report : Report} {s' : Session α σ}
    (hfound : paths ≠ []) (hyes : ∀ p ∈ paths, sv.isSupported p = true) (hnodup : paths.Nodup)
    (hprune : sv.settings.prune = true) (hvalid : Index.ValidOrAbsent s.tree sv.index)
    (hrun : sv.run paths s = (.ok report, s')) (hclean : report.failures = [])
    (htree : t' = s'.tree) : Pruned s.tree t' sv.index paths := by
  obtain ⟨later, hload, hkeys⟩ := keys_of_pruning hrun hvalid hprune hclean hyes hnodup
  rw [htree]
  refine ⟨fun _ => ⟨later, hload, hkeys⟩, fun hnone => absurd hnone hfound, ?_⟩
  intro other found hother
  rw [hload, Except.ok.injEq, Prod.mk.injEq] at hother
  simp [← hother.1, hkeys, hfound]

theorem pruned_of_none (t : Tree) (index : Path) : Pruned t t index [] := by
  refine ⟨fun hne => absurd rfl hne, fun _ => rfl, ?_⟩
  intro later found hload
  simp [hload, Keyed.keys]

/-- A command to prune that ends well leaves just the paths that are found in the index, if it finds
any or if there was nothing in the index. -/
theorem pruned_of_execute (hread : read args = .invoke ⟨root, verbosity, .run [] options⟩)
    (hprune : options.prune = true) (hexit : (execute h supply args s).1 = .ok 0) :
    ∃ settings index paths notes, SetsOut h s.tree args (.run [] options) settings index ∧
      Discovery.discover h s.tree settings.root settings.extensions = (.ok paths, notes) ∧
      (Index.ValidOrAbsent s.tree index →
        Pruned s.tree (execute h supply args s).2.tree index paths) := by
  rcases execute_cases h supply args s with hrefused | ⟨c, settings, index, hset, hrun⟩
  · have hhelp := hrefused.code hexit
    simp [hread] at hhelp
  · obtain rfl := hset.command_eq hread
    have hcarry : execute h supply args s = annotateFiles ⟨h, settings, index, supply⟩ [] s := hrun
    rw [hcarry] at hexit ⊢
    obtain ⟨paths, notes, hfound, hend⟩ := annotateFiles_zero hexit
    refine ⟨settings, index, paths, notes, hset, hfound, fun hvalid => ?_⟩
    obtain ⟨hnodup, hyes⟩ := supported_of_discover hfound
    rcases hend with ⟨rfl, htree⟩ | ⟨hne, start, report, s', hstart, hrun, hclean, htree⟩
    · rw [htree]
      exact pruned_of_none s.tree index
    · rw [← hstart] at hvalid ⊢
      exact pruned_of_run hne hyes hnodup (prune_of_setsOut hset hprune) hvalid hrun hclean htree

/-- A project with an index of a file that is gone, and with other files. -/
def stale (files : List (Text × Node)) : Session Unit Unit :=
  let document := "\x7b\"o\":\x7b\"filePath\":\"o\",\"summary\":\"s\"\x7d\x7d"
  let index := Node.file (Utf8.encode document) 0o644
  ⟨⟨.dir ((".autosummary", .dir [("summary.json", index)]) :: files), [], 0o022⟩, .none, (), []⟩

/-- Where a file is found, the entry of the one that is gone does not stay. -/
theorem pruned_of_execute_stale :
    let s := stale [("a.ts", .file [] 0o644)]
    let result := execute (always "s").host (Supply.always "s") ["run", "--prune"] s
    result.1 = .ok 0 ∧
      Pruned s.tree result.2.tree ⟨.relative, [".autosummary", "summary.json"]⟩ ["a.ts"] := by
  intro s result
  have hread : read ["run", "--prune"] =
      .invoke ⟨some ".", 0, .run [] ⟨false, false, true, .absent, .absent, .absent⟩⟩ := by
    decide +kernel
  have hexit : result.1 = .ok 0 := by decide +kernel
  have hset : SetsOut (always "s").host s.tree ["run", "--prune"]
      (.run [] ⟨false, false, true, .absent, .absent, .absent⟩)
      { Settings.standard with prune := true }
      ⟨.relative, [".autosummary", "summary.json"]⟩ := by
    refine .intro "." 0 _ ⟨.relative, []⟩ _ _ hread ?_ ?_ ?_ ?_
    · decide +kernel
    · decide +kernel
    · rfl
    · decide +kernel
  have hfiles : (Discovery.discover (always "s").host s.tree Settings.standard.root
      Settings.standard.extensions).1 = .ok ["a.ts"] := by decide +kernel
  have hvalid : Index.load s.tree ⟨.relative, [".autosummary", "summary.json"]⟩ =
      .ok ([("o", ⟨"o", "s"⟩)], true) := by decide +kernel
  obtain ⟨settings, index, paths, notes, hset', hfound, hpruned⟩ :=
    pruned_of_execute hread rfl hexit
  obtain ⟨rfl, rfl⟩ := hset.unique hset'
  rw [hfound, Except.ok.injEq] at hfiles
  rw [← hfiles]
  exact ⟨hexit, hpruned ⟨_, true, hvalid, fun hnone => by simp at hnone⟩⟩

/-- Where no file is found, it does. -/
theorem not_pruned_of_execute :
    (execute (always "s").host (Supply.always "s") ["run", "--prune"] (stale [])).1 = .ok 0 ∧
    (Discovery.discover (always "s").host (stale []).tree Settings.standard.root
      Settings.standard.extensions).1 = .ok [] ∧
    Index.load (stale []).tree ⟨.relative, [".autosummary", "summary.json"]⟩ =
      .ok ([("o", ⟨"o", "s"⟩)], true) ∧
    Index.load (execute (always "s").host (Supply.always "s") ["run", "--prune"] (stale [])).2.tree
      ⟨.relative, [".autosummary", "summary.json"]⟩ = .ok ([("o", ⟨"o", "s"⟩)], true) := by
  refine ⟨?_, ?_, ?_, ?_⟩ <;> decide +kernel

end Command

end Synopsis
