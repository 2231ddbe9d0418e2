import Synopsis.Proofs.Command.Execution
import Synopsis.Proofs.Service.Breakdown

namespace Synopsis.Command

open Service

section

variable {α σ : Type} {sv : Service α σ} {s : Session α σ} {f : Failure} {code : Nat}

theorem afterFailure_le_two (h : (afterFailure f s).1 = .ok code) : code ≤ 2 := by
  unfold afterFailure at h
  split at h
  · obtain rfl := Except.ok.inj h
    decide
  · split at h
    · obtain rfl := Except.ok.inj h
      decide
    · split at h
      · obtain rfl := Except.ok.inj h
        decide
      · cases h

/-- The failures that no command expects are those after which there is no exit code. -/
theorem crash_of_afterFailure_iff :
    (∃ crash, (afterFailure f s).1 = .error crash) ↔ f.Unforeseen := by
  constructor
  · rintro ⟨crash, h⟩
    unfold afterFailure at h
    split at h
    · cases h
    · rename_i hpath
      split at h
      · cases h
      · rename_i hno
        split at h
        · cases h
        · rename_i hspoiled
          exact ⟨hpath, Bool.eq_false_iff.mpr hno, Bool.eq_false_iff.mpr hspoiled⟩
  · intro hunforeseen
    refine ⟨.service f, ?_⟩
    simp [afterFailure, hunforeseen.path, hunforeseen.rejection, hunforeseen.spoiled]

theorem conclude_le_two {x : Except Failure Report × Session α σ}
    (h : (conclude sv x).1 = .ok code) : code ≤ 2 := by
  obtain ⟨f | report, s⟩ := x
  · exact afterFailure_le_two h
  · obtain rfl := Except.ok.inj h
    split <;> decide

theorem crash_of_conclude_iff {x : Except Failure Report × Session α σ} :
    (∃ crash, (conclude sv x).1 = .error crash) ↔ Founders x.1 := by
  obtain ⟨f | report, s⟩ := x
  · simpa [conclude, Founders] using crash_of_afterFailure_iff
  · simp [conclude, Founders]

/-- Discovery fails, or it gives paths. -/
theorem chosenPaths_error_iff {paths : List Text} :
    (∃ crash, (chosenPaths sv paths s).1 = .error crash) ↔ paths = [] ∧
      ∃ f, (Discovery.discover sv.host s.tree sv.settings.root sv.settings.extensions).1 =
        .error f := by
  unfold chosenPaths
  split
  · rename_i hne
    simp [hne]
  · rename_i hnone
    obtain rfl := Classical.not_not.mp hnone
    rcases Discovery.discover sv.host s.tree sv.settings.root sv.settings.extensions with
      ⟨(f | f) | found, notes⟩ <;> simp

end

variable {h : Host} {args paths : List Text} {root : Text} {place : Path} {verbosity : Nat}
  {options : RunOptions} {settings : Settings} {s : Session (Summarizer × Client) Wire}

/-- What breaks the `run` command, once its settings are loaded. -/
inductive Breaks (h : Host) (settings : Settings) (paths : List Text)
    (s : Session (Summarizer × Client) Wire) : Prop where
  | homeless (f : HomeFault) (hindex : settings.index h = .error f)
  | undiscovered (hnone : paths = []) (f : Discovery.DiscoveryFault)
    (hfound : (Discovery.discover h s.tree settings.root settings.extensions).1 = .error f)
  | running (index : Path) (hindex : settings.index h = .ok index) (chosen : List Text)
    (start : Session (Summarizer × Client) Wire)
    (hchosen : chosenPaths ⟨h, settings, index, Supply.online h⟩ paths s = (.ok chosen, start))
    (hsome : chosen ≠ [])
    (hbreaks : Service.Breaks ⟨h, settings, index, Supply.online h⟩ chosen start)

/-- Once it has its settings and its index, the command ends with an exit code unless no paths can
be found, or the run on them breaks. -/
theorem exits_of_annotateFiles {index : Path} (hindex : settings.index h = .ok index) :
    let sv : Service (Summarizer × Client) Wire := ⟨h, settings, index, Supply.online h⟩
    (∀ code, (annotateFiles sv paths s).1 = .ok code → code ≤ 2) ∧
    ((∃ crash, (annotateFiles sv paths s).1 = .error crash) ↔ Breaks h settings paths s) := by
  intro sv
  have hfound_iff : (∃ crash, (chosenPaths sv paths s).1 = .error crash) ↔ paths = [] ∧
      ∃ f, (Discovery.discover h s.tree settings.root settings.extensions).1 = .error f :=
    chosenPaths_error_iff
  have hrunning (hbreaks : Breaks h settings paths s) :
      (∃ crash, (chosenPaths sv paths s).1 = .error crash) ∨ ∃ chosen start,
        chosenPaths sv paths s = (.ok chosen, start) ∧ chosen ≠ [] ∧
        Service.Breaks sv chosen start := by
    cases hbreaks with
    | homeless f hnone => simp [hindex] at hnone
    | undiscovered hnone f hfound => exact .inl (hfound_iff.mpr ⟨hnone, f, hfound⟩)
    | running index' hindex' chosen start hchosen hsome hbreaks =>
      obtain rfl : index = index' := Except.ok.inj (hindex.symm.trans hindex')
      exact .inr ⟨chosen, start, hchosen, hsome, hbreaks⟩
  cases hchosen : chosenPaths sv paths s with
  | mk found start =>
    cases found with
    | error crash =>
      have hends : annotateFiles sv paths s = (.error crash, start) := by
        rw [annotateFiles, hchosen]
      rw [hends]
      obtain ⟨hnone, f, hfound⟩ := hfound_iff.mp ⟨crash, congrArg Prod.fst hchosen⟩
      exact ⟨by simp, fun _ => .undiscovered hnone f hfound, fun _ => ⟨crash, rfl⟩⟩
    | ok chosen =>
      by_cases hsome : chosen = []
      · subst hsome
        have hends : (annotateFiles sv paths s).1 = .ok 0 := by rw [annotateFiles, hchosen]
        rw [hends]
        refine ⟨by simp, by simp, fun hbreaks => ?_⟩
        exfalso
        rcases hrunning hbreaks with ⟨crash, hcrash⟩ | ⟨chosen, start', hchosen', hsome, -⟩
        · simp [hchosen] at hcrash
        · simp only [hchosen, Prod.mk.injEq, Except.ok.injEq] at hchosen'
          exact hsome hchosen'.1.symm
      · rw [annotateFiles_of_chosen hchosen hsome]
        refine ⟨fun code => conclude_le_two, ?_⟩
        have hrun_iff : Founders (sv.run chosen start).1 ↔ Service.Breaks sv chosen start :=
          breaks_iff rfl
        rw [crash_of_conclude_iff, hrun_iff]
        constructor
        · exact .running index hindex chosen start hchosen hsome
        · intro hbreaks
          rcases hrunning hbreaks with ⟨crash, hcrash⟩ | ⟨chosen', start', hchosen', -, hbreaks⟩
          · simp [hchosen] at hcrash
          · rw [hchosen, Prod.mk.injEq, Except.ok.injEq] at hchosen'
            obtain ⟨rfl, rfl⟩ := hchosen'
            exact hbreaks

/-- Once its settings are loaded, the `run` command ends with an exit code of at most two, unless
something breaks it. -/
theorem exits_of_run (hread : read args = .invoke ⟨some root, verbosity, .run paths options⟩)
    (hexpand : h.expand (.ofText root) = .ok place) (hdir : s.tree.isDir place = .ok true)
    (hload : Settings.load h s.tree place options.overrides none = .ok settings) :
    (∀ code, (execute h (Supply.online h) args s).1 = .ok code → code ≤ 2) ∧
    ((∃ crash, (execute h (Supply.online h) args s).1 = .error crash) ↔
      Breaks h settings paths s) := by
  cases hindex : settings.index h with
  | error f =>
    have hends : execute h (Supply.online h) args s = (.error (.home f), s) := by
      have hcreate : Service.create h settings (Supply.online h) = .error f := by
        rw [Service.create, hindex]
        rfl
      have hloaded : Settings.load h s.tree place (overridesOf (.run paths options)) none =
          .ok settings := hload
      simp only [execute, hread, invoke, hexpand, hdir, hloaded, hcreate]
    rw [hends]
    exact ⟨by simp, fun _ => .homeless f hindex, fun _ => ⟨.home f, rfl⟩⟩
  | ok index =>
    have hset : SetsOut h s.tree args (.run paths options) settings index :=
      .intro root verbosity _ place settings index hread hexpand hdir hload hindex
    have hcarry : execute h (Supply.online h) args s =
        annotateFiles ⟨h, settings, index, Supply.online h⟩ paths s := execute_of_setsOut hset _
    rw [hcarry]
    exact exits_of_annotateFiles hindex

/-- A project with a prompt, and a home with a key. -/
def keyed (key : List UInt8) : Session (Summarizer × Client) Wire :=
  let prompt := Node.file (Utf8.encode (Text.intercalate ", " Prompt.requiredSections)) 0o644
  let home := Node.plant (.dir []) [".config", "openrouter", "key"] (.file key 0o644)
  let top := Node.dir
    [("a.ts", .file (Utf8.encode "x") 0o644), ("default.md", prompt), ("home", home)]
  ⟨⟨top, [], 0o022⟩, .none, Client.answering (.fault false), []⟩

/-- The options of a command line that gives none. -/
def noOptions : RunOptions := ⟨false, false, false, .absent, .absent, .absent⟩

theorem execute_keyed : (execute Settings.emptyHost (Supply.online Settings.emptyHost)
    ["run", "a.ts"] (keyed [0xff])).1 =
      .error (.service (.unbuilt (.setup (.key (.encoding ⟨0, 1, 0xff, .badStart⟩))))) := by
  decide +kernel

/-- A key that is not in UTF-8 breaks the command, unless no path comes to need it. -/
theorem exits_of_run_keyed :
    let h := Settings.emptyHost
    let s := keyed [0xff]
    ∃ settings, Settings.load h s.tree ⟨.relative, []⟩ noOptions.overrides none = .ok settings ∧
      Breaks h settings ["a.ts"] s ∧ ¬ Breaks h settings ["b.txt"] s := by
  intro h s
  have hread : read ["run", "a.ts"] = .invoke ⟨some ".", 0, .run ["a.ts"] noOptions⟩ := by
    decide +kernel
  have hread' : read ["run", "b.txt"] = .invoke ⟨some ".", 0, .run ["b.txt"] noOptions⟩ := by
    decide +kernel
  have hexpand : h.expand (.ofText ".") = .ok ⟨.relative, []⟩ := by decide +kernel
  have hdir : s.tree.isDir ⟨.relative, []⟩ = .ok true := by decide +kernel
  have hload : Settings.load h s.tree ⟨.relative, []⟩ noOptions.overrides none =
    .ok Settings.standard := rfl
  have hexit : (execute h (Supply.online h) ["run", "b.txt"] s).1 = .ok 0 := by decide +kernel
  refine ⟨Settings.standard, hload,
    (exits_of_run hread hexpand hdir hload).2.mp ⟨_, execute_keyed⟩, ?_⟩
  intro hbreaks
  obtain ⟨crash, hcrash⟩ := (exits_of_run hread' hexpand hdir hload).2.mpr hbreaks
  rw [hexit] at hcrash
  cases hcrash

/-- A path that starts with no tilde, a project with nothing but standard settings, and no exit
code. -/
theorem not_exits_of_run :
    let h := Settings.emptyHost
    let s := keyed [0xff]
    read ["run", "a.ts"] = .invoke ⟨some ".", 0, .run ["a.ts"] noOptions⟩ ∧
      Settings.load h s.tree ⟨.relative, []⟩ noOptions.overrides none = .ok Settings.standard ∧
      ("a.ts" : Text).toList.head? ≠ some (.char '~') ∧
      ∀ code, (execute h (Supply.online h) ["run", "a.ts"] s).1 ≠ .ok code := by
  intro h s
  refine ⟨by decide +kernel, rfl, by decide, fun code hcode => ?_⟩
  rw [execute_keyed] at hcode
  cases hcode

end Synopsis.Command
