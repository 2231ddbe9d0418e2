import Synopsis.Command.Run
import Synopsis.Proofs.Service.Session

namespace Synopsis.Command

open Service

variable {α σ : Type} {h : Host} {t : Tree} {args : List Text} {c : Command}
  {settings : Settings} {index : Path} {sv : Service α σ} {paths chosen : List Text}
  {s start : Session α σ}

/-- A command line that names a command and a project whose settings and index are found. -/
inductive SetsOut (h : Host) (t : Tree) (args : List Text) : Command → Settings → Path → Prop where
  | intro (root : Text) (verbosity : Nat) (c : Command) (place : Path) (settings : Settings)
    (index : Path) (hread : read args = .invoke ⟨some root, verbosity, c⟩)
    (hexpand : h.expand (.ofText root) = .ok place) (hdir : t.isDir place = .ok true)
    (hload : Settings.load h t place (overridesOf c) none = .ok settings)
    (hindex : settings.index h = .ok index) : SetsOut h t args c settings index

theorem SetsOut.command_eq {i : Invocation} (hset : SetsOut h t args c settings index)
    (hread : read args = .invoke i) : i.command = c := by
  obtain ⟨root, verbosity, c, place, settings, index, hread', -⟩ := hset
  rw [hread] at hread'
  rw [Request.invoke.inj hread']

theorem SetsOut.unique {settings' : Settings} {index' : Path}
    (hset : SetsOut h t args c settings index) (hset' : SetsOut h t args c settings' index') :
    settings' = settings ∧ index' = index := by
  obtain ⟨root, verbosity, c, place, settings, index, hread, hexpand, -, hload, hindex⟩ := hset
  obtain ⟨root', verbosity', c, place', settings', index', hread', hexpand', -, hload', hindex'⟩ :=
    hset'
  rw [hread, Request.invoke.injEq, Invocation.mk.injEq, Option.some.injEq] at hread'
  obtain ⟨rfl, -⟩ := hread'
  obtain rfl : place = place' := Except.ok.inj (hexpand.symm.trans hexpand')
  obtain rfl : settings = settings' := Except.ok.inj (hload.symm.trans hload')
  exact ⟨rfl, Except.ok.inj (hindex'.symm.trans hindex)⟩

theorem execute_of_setsOut (hset : SetsOut h s.tree args c settings index) (supply : Supply α σ) :
    execute h supply args s = carryOut ⟨h, settings, index, supply⟩ c s := by
  obtain ⟨root, verbosity, c, place, settings, index, hread, hexpand, hdir, hload, hindex⟩ := hset
  have hcreate : Service.create h settings supply = .ok ⟨h, settings, index, supply⟩ := by
    rw [Service.create, hindex]
    rfl
  simp only [execute, hread, invoke, hexpand, hdir, hload, hcreate]

/-- A command line that is refused ends well only if it asks for help. -/
structure Refused (h : Host) (supply : Supply α σ) (args : List Text) (s : Session α σ) :
    Prop where
  tells : s.Tells (execute h supply args s).2
  code : (execute h supply args s).1 = .ok 0 → read args = .help

/-- A command line is refused, or sets out. -/
theorem execute_cases (h : Host) (supply : Supply α σ) (args : List Text) (s : Session α σ) :
    Refused h supply args s ∨ ∃ c settings index, SetsOut h s.tree args c settings index ∧
      execute h supply args s = carryOut ⟨h, settings, index, supply⟩ c s := by
  have hrejected (name message : Text)
      (hexecute : execute h supply args s = reject name message s) : Refused h supply args s := by
    refine ⟨?_, fun hcode => ?_⟩
    · rw [hexecute]
      exact .print s _ _
    · simp [hexecute, reject] at hcode
  have hcrashed (crash : Crash) (hexecute : execute h supply args s = (.error crash, s)) :
      Refused h supply args s := by
    refine ⟨?_, fun hcode => ?_⟩
    · rw [hexecute]
      exact .refl s
    · simp [hexecute] at hcode
  cases hread : read args with
  | help =>
    left
    refine ⟨?_, fun _ => hread⟩
    rw [execute, hread]
    exact .print s _ _
  | fault name f => exact .inl (hrejected name f.message (by rw [execute, hread]))
  | invoke i =>
    obtain ⟨_ | root, verbosity, c⟩ := i
    · exact .inl (hcrashed .rootNotPath (by rw [execute, hread]))
    · have hinvoke : execute h supply args s = invoke h supply (.ofText root) c s := by
        rw [execute, hread]
      cases hexpand : h.expand (.ofText root) with
      | error f => exact .inl (hcrashed (.home f) (by rw [hinvoke, invoke, hexpand]))
      | ok place =>
        cases hdir : s.tree.isDir place with
        | error f => exact .inl (hcrashed (.file f) (by simp only [hinvoke, invoke, hexpand, hdir]))
        | ok isDir =>
          cases isDir with
          | false => exact .inl (hrejected program ("Project root does not exist: " ++ place.text)
              (by simp only [hinvoke, invoke, hexpand, hdir]))
          | true =>
            cases hload : Settings.load h s.tree place (overridesOf c) none with
            | error f =>
              left
              by_cases hmis : isMisconfigured f = true
              · exact hrejected program f.message (by
                  simp only [hinvoke, invoke, hexpand, hdir, hload, hmis, if_true])
              · exact hcrashed (.settings f) (by
                  simp only [hinvoke, invoke, hexpand, hdir, hload, if_neg hmis])
            | ok settings =>
              cases hindex : settings.index h with
              | error f =>
                have hcreate : Service.create h settings supply = .error f := by
                  rw [Service.create, hindex]
                  rfl
                exact .inl (hcrashed (.home f) (by
                  simp only [hinvoke, invoke, hexpand, hdir, hload, hcreate]))
              | ok index =>
                right
                have hset : SetsOut h s.tree args c settings index :=
                  .intro root verbosity c place settings index hread hexpand hdir hload hindex
                exact ⟨c, settings, index, hset, execute_of_setsOut hset supply⟩

theorem chosenPaths_tells (sv : Service α σ) (paths : List Text) (s : Session α σ) :
    s.Tells (chosenPaths sv paths s).2 := by
  unfold chosenPaths
  split
  · exact .refl s
  · rcases Discovery.discover sv.host s.tree sv.settings.root sv.settings.extensions with
      ⟨(f | f) | found, notes⟩ <;> exact .notes s notes

/-- The paths that a command works on: those that are given, or else those that are found. -/
inductive Chooses (h : Host) (t : Tree) (settings : Settings) : List Text → List Text → Prop where
  | given (paths : List Text) (hne : paths ≠ []) : Chooses h t settings paths paths
  | found (chosen : List Text) (notes : List Note)
    (hfound : Discovery.discover h t settings.root settings.extensions = (.ok chosen, notes)) :
    Chooses h t settings [] chosen

theorem chooses_of_chosenPaths (hchosen : chosenPaths sv paths s = (.ok chosen, start)) :
    Chooses sv.host s.tree sv.settings paths chosen := by
  by_cases hne : paths = []
  · subst hne
    unfold chosenPaths at hchosen
    rcases hfound : Discovery.discover sv.host s.tree sv.settings.root sv.settings.extensions with
      ⟨(f | f) | found, notes⟩
    · simp [hfound] at hchosen
    · simp [hfound] at hchosen
    · simp only [hfound, ne_eq, not_true_eq_false, if_false, Prod.mk.injEq, Except.ok.injEq]
        at hchosen
      exact .found chosen notes (hchosen.1 ▸ hfound)
  · rw [chosenPaths, if_pos hne, Prod.mk.injEq, Except.ok.injEq] at hchosen
    rw [← hchosen.1]
    exact .given paths hne

theorem withIndex_tells {use : Index → Session α σ → Exit × Session α σ}
    (huse : ∀ (index : Index) (s : Session α σ), s.Tells (use index s).2) (s : Session α σ) :
    s.Tells (withIndex sv s use).2 := by
  have hload := load_tells sv s
  unfold withIndex
  cases h : sv.load s with
  | mk loaded next =>
    rw [h] at hload
    cases loaded with
    | ok index => exact hload.trans (huse index next)
    | error f =>
      simp only
      split
      · exact hload.trans (.print next _ _)
      · exact hload

theorem displaySummary_tells (sv : Service α σ) (path : Text) (s : Session α σ) :
    s.Tells (displaySummary sv path s).2 := by
  apply withIndex_tells
  intro index s
  cases Keyed.get? index path <;> exact .print s _ _

theorem listPaths_tells (sv : Service α σ) (s : Session α σ) : s.Tells (listPaths sv s).2 := by
  apply withIndex_tells
  intro index s
  exact .prints s _ _

theorem stripAll_nil (sv : Service α σ) (code : Nat) (s : Session α σ) :
    stripAll sv code [] s = (.ok code, s) := by
  delta stripAll
  rfl

/-- The equation of `stripAll`. To find it by evaluation does not end, since that looks into the
types of files: `strip` has to be closed first. -/
theorem stripAll_cons (sv : Service α σ) (code : Nat) (path : Text) (r : List Text)
    (s : Session α σ) : stripAll sv code (path :: r) s =
      match sv.strip path s with
      | (.ok true, s) => stripAll sv code r (s.print .output ("Stripped " ++ path))
      | (.ok false, s) => stripAll sv code r s
      | (.error f, s) =>
        if f.path?.isSome then stripAll sv 1 r (s.print .errors f.message)
        else (.error (.service f), s) := by
  delta stripAll stripAll._f
  generalize sv.strip = strip
  rfl

section

variable (holds : Session α σ → Prop)
  (htells : ∀ s s' : Session α σ, s.Tells s' → holds s → holds s')

include htells

/-- What holds on while one file is stripped, and while something is told, holds on while files are
stripped one after the other. -/
theorem stripAll_induction (code : Nat) (paths : List Text)
    (hstrip : ∀ path ∈ paths, ∀ s, holds s → holds (sv.strip path s).2) (h : holds s) :
    holds (stripAll sv code paths s).2 := by
  induction paths generalizing code s with
  | nil =>
    rw [stripAll_nil]
    exact h
  | cons path r ih =>
    have hone := hstrip path List.mem_cons_self s h
    have hrest := fun other hother => hstrip other (List.mem_cons_of_mem _ hother)
    rw [stripAll_cons]
    cases hcall : sv.strip path s with
    | mk result next =>
      rw [hcall] at hone
      have hprint (stream : Stream) (line : Text) : holds (next.print stream line) :=
        htells next _ (.print next stream line) hone
      cases result with
      | ok stripped =>
        cases stripped with
        | true => exact ih code hrest (hprint _ _)
        | false => exact ih code hrest hone
      | error f =>
        simp only
        split
        · exact ih 1 hrest (hprint _ _)
        · exact hone

theorem stripFiles_induction (paths : List Text)
    (hstrip : ∀ path s, holds s → holds (sv.strip path s).2) (h : holds s) :
    holds (stripFiles sv paths s).2 := by
  have hchosen := htells s _ (chosenPaths_tells sv paths s) h
  rw [stripFiles]
  cases hpaths : chosenPaths sv paths s with
  | mk found start =>
    rw [hpaths] at hchosen
    cases found with
    | error crash => exact hchosen
    | ok chosen =>
      exact stripAll_induction holds htells 0 chosen (fun path _ => hstrip path) hchosen

end

/-- How the `run` command ends once its run has ended. -/
def conclude (sv : Service α σ) : Except Failure Report × Session α σ → Exit × Session α σ
  | (.error f, s) => afterFailure f s.close
  | (.ok report, s) =>
    (.ok (if report.isClean then 0 else 1),
      (report.lines.foldl (fun s line => s.print .output line) s.close).print .output
        ("Wrote " ++ sv.index.text))

theorem annotateFiles_of_chosen (h : chosenPaths sv paths s = (.ok chosen, start))
    (hne : chosen ≠ []) : annotateFiles sv paths s = conclude sv (sv.run chosen start) := by
  rw [annotateFiles, h]
  cases chosen with
  | nil => exact absurd rfl hne
  | cons path r =>
    simp only
    rcases sv.run (path :: r) start with ⟨_ | _, last⟩ <;> rfl

theorem afterFailure_tells (f : Failure) (s : Session α σ) : s.Tells (afterFailure f s).2 := by
  unfold afterFailure
  split
  · exact .print s _ _
  · split
    · exact .print s _ _
    · split
      · exact .print s _ _
      · exact .refl s

/-- A run is over when the summarizer is given up, and what follows is only told. -/
theorem conclude_tells (sv : Service α σ) (x : Except Failure Report × Session α σ) :
    x.2.close.Tells (conclude sv x).2 := by
  obtain ⟨_ | report, s⟩ := x
  · exact afterFailure_tells _ _
  · exact (Session.Tells.prints s.close .output report.lines).trans (.print _ _ _)

/-- A run ends well if no file failed. -/
theorem of_conclude_zero {x : Except Failure Report × Session α σ}
    (hexit : (conclude sv x).1 = .ok 0) : ∃ report, x.1 = .ok report ∧ report.failures = [] := by
  obtain ⟨f | report, s⟩ := x
  · exfalso
    change (afterFailure f s.close).1 = .ok 0 at hexit
    unfold afterFailure at hexit
    split at hexit
    · simp at hexit
    · split at hexit
      · simp [reject] at hexit
      · split at hexit <;> simp at hexit
  · refine ⟨report, rfl, ?_⟩
    change Except.ok (if report.isClean then 0 else 1) = Except.ok 0 at hexit
    by_cases hclean : report.isClean = true
    · simpa [Report.isClean] using hclean
    · simp [hclean] at hexit

/-- The `run` command chooses its paths, and runs the service on them if there are any. -/
theorem annotateFiles_cases (sv : Service α σ) (paths : List Text) (s : Session α σ) :
    s.Tells (annotateFiles sv paths s).2 ∨ ∃ chosen start,
      chosenPaths sv paths s = (.ok chosen, start) ∧ s.Tells start ∧
      annotateFiles sv paths s = conclude sv (sv.run chosen start) := by
  have hchoice := chosenPaths_tells sv paths s
  cases h : chosenPaths sv paths s with
  | mk found start =>
    rw [h] at hchoice
    cases found with
    | error crash =>
      left
      rw [annotateFiles, h]
      exact hchoice
    | ok chosen =>
      by_cases hnone : chosen = []
      · left
        rw [annotateFiles, h, hnone]
        exact hchoice.trans (.print start _ _)
      · right
        exact ⟨chosen, start, rfl, hchoice, annotateFiles_of_chosen h hnone⟩

end Synopsis.Command
