import Synopsis.Text.Basic

namespace Synopsis

/-- Where the summary of a file was found, or that there is none because the type of the file is
not supported. -/
inductive Outcome where
  | skipped
  | cached (summary : Text)
  | embedded (summary : Text)
  | generated (summary : Text)
  deriving DecidableEq

def Outcome.summary? : Outcome → Option Text
  | .skipped => none
  | .cached s => some s
  | .embedded s => some s
  | .generated s => some s

/-- An outcome without its summary. -/
inductive Status where
  | skipped
  | cached
  | embedded
  | generated
  deriving DecidableEq

def Outcome.status : Outcome → Status
  | .skipped => .skipped
  | .cached _ => .cached
  | .embedded _ => .embedded
  | .generated _ => .generated

def Status.text : Status → Text
  | .skipped => "skipped"
  | .cached => "cached"
  | .embedded => "embedded"
  | .generated => "generated"

structure Annotation where
  path : Text
  outcome : Outcome
  deriving DecidableEq

end Synopsis
