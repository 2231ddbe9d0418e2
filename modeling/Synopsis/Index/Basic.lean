import Synopsis.Annotation
import Synopsis.Keyed

namespace Synopsis

structure Entry where
  path : Text
  summary : Text
  deriving DecidableEq

abbrev Index := Keyed Entry

namespace Index

/-- A summary that is there and not empty. -/
def summary? (index : Index) (path : Text) : Option Text :=
  match Keyed.get? index path with
  | some e => if e.summary = "" then none else some e.summary
  | none => none

/-- Enters what an annotation yielded. A path keeps the place of its first result. -/
def enter (index : Index) (a : Annotation) : Index :=
  match a.outcome.summary? with
  | some s => Keyed.set index a.path ⟨a.path, s⟩
  | none => index

/-- The results of a run in their order, and behind them the entries that the run did not touch,
unless those are to be pruned. -/
def compile (prune : Bool) (results : List Annotation) (former : Index) : Index :=
  let made := results.foldl enter []
  if prune then made else former.foldl (fun index e => Keyed.setDefault index e.1 e.2) made

end Index

end Synopsis
