import Synopsis.Proofs.Index.Latest
import Synopsis.Proofs.Service.Batch

namespace Synopsis

/-- An index is found at the path, or none is and the document that is written there may be read. -/
def Index.ValidOrAbsent (t : Tree) (path : Path) : Prop :=
  ∃ index found, Index.load t path = .ok (index, found) ∧ (found = false → MayLoad t path)

theorem Index.mayLoad_of_validOrAbsent {t : Tree} {path : Path} (h : ValidOrAbsent t path) :
    MayLoad t path := by
  obtain ⟨index, found, hload, habsent⟩ := h
  refine mayLoad_of_load hload fun empty hempty => ?_
  rw [hload, Except.ok.injEq, Prod.mk.injEq] at hempty
  exact habsent hempty.2

namespace Service

variable {α σ : Type} {sv : Service α σ} {known : Index} {path : Text} {paths : List Text}
  {t t' : Tree} {p : Path} {report : Report} {s s' : Session α σ}

theorem Annotates.mayLoad {result : Except Failure Annotation}
    (h : Annotates sv known path t result t') (hmay : Index.MayLoad t p) :
    Index.MayLoad t' p := by
  cases h with
  | written hyes file source hread hnone summary hreply d hin _ hwrite =>
    have hspares := Tree.replaceText_spares hwrite
    by_cases hsame : t.destination p = t.destination file
    · -- what was read can be read again
      obtain ⟨-, raw, hexact, -⟩ := read_eq_ok_iff.mp (read_of_write hread hwrite)
      have hfile := Index.mayLoad_of_readExact hexact
      rw [Index.MayLoad, Tree.destination_of_here hspares.here] at hfile ⊢
      rwa [hsame]
    · exact hmay.spares hspares hsame
  | _ => exact hmay

theorem AnnotatesAll.mayLoad (h : AnnotatesAll sv known paths t report t')
    (hmay : Index.MayLoad t p) : Index.MayLoad t' p := by
  induction h with
  | nil => exact hmay
  | result hone _ ih => exact ih (hone.mayLoad hmay)
  | failure hone _ _ ih => exact ih (hone.mayLoad hmay)

end Service

end Synopsis
