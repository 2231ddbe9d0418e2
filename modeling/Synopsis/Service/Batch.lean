import Synopsis.Service.Basic
import Synopsis.Service.Report

namespace Synopsis.Service

variable {α σ : Type}

/-- Whether a run goes on after a failure. -/
def isCollected (sv : Service α σ) (f : Failure) : Bool :=
  f.path?.isSome && !sv.settings.failFast

def annotateAll (sv : Service α σ) (known : Index) :
    List Text → Session α σ → Except Failure Report × Session α σ
  | [], s => (.ok ⟨[], []⟩, s)
  | path :: r, s =>
    match sv.annotate known path s with
    | (.ok a, s) =>
      match annotateAll sv known r s with
      | (.ok report, s) => (.ok { report with results := a :: report.results }, s)
      | (.error f, s) => (.error f, s)
    | (.error f, s) =>
      if sv.isCollected f then
        match annotateAll sv known r (s.note (.failed path f.message)) with
        | (.ok report, s) => (.ok { report with failures := (path, f) :: report.failures }, s)
        | (.error f, s) => (.error f, s)
      else (.error f, s)

/-- The index as its file holds it. -/
def load (sv : Service α σ) (s : Session α σ) : Except Failure Index × Session α σ :=
  match Index.load s.tree sv.index with
  | .error f => (.error (.index f), s)
  | .ok (index, true) => (.ok index, s)
  | .ok (index, false) => (.ok index, s.note (.indexMissing sv.index.text))

/-- Writes entries to the file of the index. -/
def store (sv : Service α σ) (entries : List Entry) (s : Session α σ) :
    Except Failure Unit × Session α σ :=
  match Index.store s.tree sv.index entries with
  | (.error f, tree) => (.error (.unstored f), { s with tree })
  | (.ok (), tree) =>
    (.ok (),
      Session.note { s with tree } (.indexWritten (Index.summaries entries).length sv.index.text))

/-- Brings the index up to date with the results of a run. -/
def compile (sv : Service α σ) (results : List Annotation) (former : Index) (s : Session α σ) :
    Except Failure Index × Session α σ :=
  let index := Index.compile sv.settings.prune results former
  match sv.store (index.map Prod.snd) s with
  | (.error f, s) => (.error f, s)
  | (.ok (), s) => (.ok index, s.note (.compiled index.length sv.index.text))

/-- Loads the index, annotates the files and stores the index again. -/
def run (sv : Service α σ) (paths : List Text) (s : Session α σ) :
    Except Failure Report × Session α σ :=
  match sv.load s with
  | (.error f, s) => (.error f, s)
  | (.ok known, s) =>
    match sv.annotateAll known paths s with
    | (.error f, s) => (.error f, s)
    | (.ok report, s) =>
      match sv.compile report.results known s with
      | (.error f, s) => (.error f, s)
      | (.ok _, s) => (.ok report, s)

end Synopsis.Service
