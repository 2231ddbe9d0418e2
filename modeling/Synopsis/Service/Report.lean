import Synopsis.Service.Session

namespace Synopsis

/-- The results, and beside them the files that failed, each with its failure. -/
structure Report where
  results : List Annotation
  failures : List (Text × Failure)

namespace Report

def isClean (r : Report) : Bool := r.failures.isEmpty

def count (r : Report) (status : Status) : Nat :=
  (r.results.filter fun a => a.outcome.status = status).length

def describe (path : Text) (f : Failure) : Text := path ++ ": " ++ f.message

def lines (r : Report) : List Text :=
  let counts : List Text := ["Generated: " ++ toString (r.count .generated),
    "From file: " ++ toString (r.count .embedded),
    "From cache: " ++ toString (r.count .cached),
    "Skipped: " ++ toString (r.count .skipped),
    "Failed: " ++ toString r.failures.length]
  counts ++ r.failures.map fun (path, f) => "  " ++ describe path f

end Report

end Synopsis
