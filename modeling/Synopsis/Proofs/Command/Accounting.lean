import Synopsis.Proofs.Command.Execution
import Synopsis.Proofs.Service.Online

namespace Synopsis

/-- What became of a path: a result, or a failure that names this path itself. -/
inductive Verdict where
  | result (a : Annotation)
  | failure (path : Text) (f : Failure) (own : f.path? = some path)

namespace Verdict

def path : Verdict → Text
  | .result a => a.path
  | .failure path _ _ => path

def result? : Verdict → Option Annotation
  | .result a => some a
  | .failure .. => none

def failure? : Verdict → Option (Text × Failure)
  | .result _ => none
  | .failure path f _ => some (path, f)

end Verdict

theorem Failure.path?_eq_some_iff {f : Failure} {path : Text} : f.path? = some path ↔
    (∃ why, f = .unreadable path why) ∨ (∃ why, f = .unwritable path why) ∨
      ∃ why, f = .unanswered path why := by
  cases f <;> simp [Failure.path?, eq_comm]

theorem Outcome.summary?_eq_none_iff (o : Outcome) :
    o.summary? = none ↔ o.status = .skipped := by
  cases o <;> simp [Outcome.summary?, Outcome.status]

namespace Report

def ofVerdicts (verdicts : List Verdict) : Report :=
  ⟨verdicts.filterMap Verdict.result?, verdicts.filterMap Verdict.failure?⟩

def labels : List Text := ["Generated", "From file", "From cache", "Skipped", "Failed"]

def counts (r : Report) : List Nat :=
  [r.count .generated, r.count .embedded, r.count .cached, r.count .skipped, r.failures.length]

/-- A report that accounts for each path once. -/
structure AccountsFor (r : Report) (paths : List Text) : Prop where
  verdicts : ∃ verdicts : List Verdict, verdicts.map Verdict.path = paths ∧ r = ofVerdicts verdicts
  results : (r.results.map Annotation.path).Sublist paths
  failures : (r.failures.map Prod.fst).Sublist paths
  own : ∀ o ∈ r.failures, (∃ why, o.2 = .unreadable o.1 why) ∨ (∃ why, o.2 = .unwritable o.1 why) ∨
    ∃ why, o.2 = .unanswered o.1 why
  summaries : ∀ a ∈ r.results, a.outcome.summary? = none ↔ a.outcome.status = .skipped
  total : r.counts.sum = paths.length
  lines : r.lines = List.zipWith (fun label n => label ++ ": " ++ (toString n : Text)) labels
    r.counts ++ r.failures.map fun o => "  " ++ describe o.1 o.2

variable {verdicts : List Verdict}

theorem count_sum (r : Report) : r.count .generated + r.count .embedded + r.count .cached +
    r.count .skipped = r.results.length := by
  obtain ⟨results, failures⟩ := r
  simp only [count]
  induction results with
  | nil => rfl
  | cons a rest ih =>
    rw [List.length_cons, ← ih]
    cases hstatus : a.outcome.status <;> simp [hstatus] <;> omega

@[simp] theorem ofVerdicts_result (a : Annotation) (rest : List Verdict) :
    ofVerdicts (.result a :: rest) =
      ⟨a :: (ofVerdicts rest).results, (ofVerdicts rest).failures⟩ := rfl

@[simp] theorem ofVerdicts_failure (path : Text) (f : Failure) (own : f.path? = some path)
    (rest : List Verdict) : ofVerdicts (.failure path f own :: rest) =
      ⟨(ofVerdicts rest).results, (path, f) :: (ofVerdicts rest).failures⟩ := rfl

theorem length_ofVerdicts (verdicts : List Verdict) : (ofVerdicts verdicts).results.length +
    (ofVerdicts verdicts).failures.length = verdicts.length := by
  induction verdicts with
  | nil => rfl
  | cons v rest ih => cases v <;> simp <;> omega

theorem results_ofVerdicts_sublist (verdicts : List Verdict) :
    ((ofVerdicts verdicts).results.map Annotation.path).Sublist (verdicts.map Verdict.path) := by
  induction verdicts with
  | nil => exact List.Sublist.refl _
  | cons v rest ih =>
    cases v with
    | result a => exact ih.cons_cons _
    | failure path f own => exact ih.cons _

theorem failures_ofVerdicts_sublist (verdicts : List Verdict) :
    ((ofVerdicts verdicts).failures.map Prod.fst).Sublist (verdicts.map Verdict.path) := by
  induction verdicts with
  | nil => exact List.Sublist.refl _
  | cons v rest ih =>
    cases v with
    | result a => exact ih.cons _
    | failure path f own => exact ih.cons_cons _

theorem path?_of_mem_failures {o : Text × Failure} (h : o ∈ (ofVerdicts verdicts).failures) :
    o.2.path? = some o.1 := by
  obtain ⟨v, -, hv⟩ := List.mem_filterMap.mp h
  cases v with
  | result a => cases hv
  | failure path f own =>
    obtain rfl := Option.some.inj hv
    exact own

theorem accountsFor_ofVerdicts (verdicts : List Verdict) :
    (ofVerdicts verdicts).AccountsFor (verdicts.map Verdict.path) where
  verdicts := ⟨verdicts, rfl, rfl⟩
  results := results_ofVerdicts_sublist verdicts
  failures := failures_ofVerdicts_sublist verdicts
  own o ho := Failure.path?_eq_some_iff.mp (path?_of_mem_failures ho)
  summaries a _ := a.outcome.summary?_eq_none_iff
  total := by
    have hresults := count_sum (ofVerdicts verdicts)
    have hall := length_ofVerdicts verdicts
    simp only [counts, List.sum_cons, List.sum_nil, List.length_map]
    omega
  lines := rfl

end Report

namespace Service

variable {α σ : Type} {sv : Service α σ} {known : Index} {paths : List Text} {report : Report}
  {s s' : Session α σ}

/-- A batch that ends well gives one verdict after the other. -/
theorem verdicts_of_annotateAll (h : sv.annotateAll known paths s = (.ok report, s')) :
    ∃ verdicts : List Verdict, verdicts.map Verdict.path = paths ∧
      report = Report.ofVerdicts verdicts := by
  induction paths generalizing s report with
  | nil =>
    simp only [annotateAll, Prod.mk.injEq, Except.ok.injEq] at h
    exact ⟨[], rfl, h.1.symm⟩
  | cons path r ih =>
    cases hcall : sv.annotate known path s with
    | mk result next =>
      cases result with
      | ok a =>
        have hspec := annotate_spec sv known path s
        rw [hcall] at hspec
        rw [annotateAll_ok hcall] at h
        obtain ⟨rest, hrest, rfl⟩ := ok_of_map h
        obtain ⟨verdicts, hpaths, rfl⟩ := ih hrest
        refine ⟨.result a :: verdicts, ?_, rfl⟩
        rw [List.map_cons, hpaths, Verdict.path, hspec.path_eq]
      | error f =>
        cases hcollected : sv.isCollected f with
        | true =>
          have hsome : f.path?.isSome := by
            simp only [isCollected, Bool.and_eq_true] at hcollected
            exact hcollected.1
          have hown := path?_of_annotate (congrArg Prod.fst hcall) hsome
          rw [annotateAll_collected hcall hcollected] at h
          obtain ⟨rest, hrest, rfl⟩ := ok_of_map h
          obtain ⟨verdicts, hpaths, rfl⟩ := ih hrest
          refine ⟨.failure path f hown :: verdicts, ?_, rfl⟩
          rw [List.map_cons, hpaths, Verdict.path]
        | false =>
          rw [annotateAll_stopped hcall hcollected] at h
          simp at h

theorem accountsFor_of_annotateAll (h : sv.annotateAll known paths s = (.ok report, s')) :
    report.AccountsFor paths := by
  obtain ⟨verdicts, rfl, rfl⟩ := verdicts_of_annotateAll h
  exact Report.accountsFor_ofVerdicts verdicts

theorem accountsFor_of_run (h : sv.run paths s = (.ok report, s')) : report.AccountsFor paths := by
  cases hload : sv.load s with
  | mk loaded start =>
    cases loaded with
    | error f => simp [run, hload] at h
    | ok known =>
      cases hall : sv.annotateAll known paths start with
      | mk result mid =>
        cases result with
        | error f => simp [run_stopped hload hall] at h
        | ok made =>
          rw [run_compiled hload hall] at h
          obtain ⟨index, -, rfl⟩ := ok_of_map h
          exact Service.accountsFor_of_annotateAll hall

end Service

namespace Command

variable {α σ : Type} {sv : Service α σ} {s : Session α σ}

/-- What the `run` command prints of a report, and how it ends. -/
theorem conclude_report (sv : Service α σ) (report : Report) (s : Session α σ) :
    conclude sv (.ok report, s) = (.ok (if report.failures = [] then 0 else 1),
      s.close.record ((report.lines ++ ["Wrote " ++ sv.index.text]).map (.printed .output))) := by
  rw [conclude, Session.foldl_print]
  simp [Report.isClean, Session.print, Session.record_record]

/-- Each path of a batch has one verdict in its report, and the `run` command ends with zero just if
no path has failed. -/
theorem accountsFor_of_batch (sv : Service α σ) :
    (∀ known paths s report s', sv.annotateAll known paths s = (.ok report, s') →
      report.AccountsFor paths) ∧
    ∀ given s chosen start report s', chosenPaths sv given s = (.ok chosen, start) → chosen ≠ [] →
      sv.run chosen start = (.ok report, s') → report.AccountsFor chosen ∧
        annotateFiles sv given s = (.ok (if report.failures = [] then 0 else 1),
          s'.close.record
            ((report.lines ++ ["Wrote " ++ sv.index.text]).map (.printed .output))) := by
  constructor
  · intro known paths s report s' hall
    exact Service.accountsFor_of_annotateAll hall
  · intro given s chosen start report s' hchosen hne hrun
    rw [annotateFiles_of_chosen hchosen hne, hrun]
    exact ⟨Service.accountsFor_of_run hrun, conclude_report sv report s'⟩

/-- A path that is given twice, one that leads nowhere, and one of another type. -/
theorem accountsFor_of_batch_repeated :
    let sv := Service.always "s"
    let given := ["a.ts", "b.ts", "a.ts", "c.txt"]
    let s := Service.folder [("a.ts", "x")]
    (∃ report s', sv.annotateAll [] given s = (.ok report, s') ∧ report.AccountsFor given ∧
      report.counts = [1, 1, 0, 1, 1]) ∧
    ∃ report s', sv.run given s = (.ok report, s') ∧ report.AccountsFor given ∧
      (annotateFiles sv given s).1 = .ok 1 := by
  intro sv given s
  obtain ⟨hbatch, hcommand⟩ := accountsFor_of_batch sv
  constructor
  · have hcounts : (sv.annotateAll [] given s).1.toOption.map Report.counts =
        some [1, 1, 0, 1, 1] := by decide +kernel
    cases hall : sv.annotateAll [] given s with
    | mk result s' =>
      rw [hall] at hcounts
      cases result with
      | error f => simp [Except.toOption] at hcounts
      | ok report =>
        exact ⟨report, s', rfl, hbatch [] given s report s' hall, Option.some.inj hcounts⟩
  · have hfails : (sv.run given s).1.toOption.map Report.isClean = some false := by decide +kernel
    obtain ⟨report, s', hrun, hclean⟩ := Service.exists_run_of_map hfails
    have hchosen : chosenPaths sv given s = (.ok given, s) := rfl
    obtain ⟨haccounts, hends⟩ := hcommand given s given s report s' hchosen (by simp [given]) hrun
    have hsome : report.failures ≠ [] := by
      intro hnone
      simp [Report.isClean, hnone] at hclean
    refine ⟨report, s', hrun, haccounts, ?_⟩
    rw [hends, if_neg hsome]

end Command

end Synopsis
