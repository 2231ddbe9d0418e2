import Synopsis.Index.Store
import Synopsis.Source
import Synopsis.Summarizer

namespace Synopsis

/-- Why a step of the service fails. The first three concern a single file and can be counted on. -/
inductive Failure where
  | unreadable (path : Text) (why : ReadFault)
  | unwritable (path : Text) (why : Fault)
  | unanswered (path : Text) (why : OracleFault)
  | unnameable (why : NameFault)
  | unencodable (why : Text.EncodingFault)
  | accident (why : WireFault)
  | home (why : HomeFault)
  | unbuilt (why : BuildFault)
  | index (why : IndexFault)
  | unstored (why : WriteFault)
  deriving DecidableEq

def BuildFault.message : BuildFault → Text
  | .none => "AnnotationService requires a Summarizer to generate summaries"
  | .prompt f => f.message
  | .setup (.key f) => f.message
  | .setup (.completion e) => e.message

namespace Failure

def message : Failure → Text
  | unreadable path why => "Could not read " ++ path ++ ": " ++ why.message
  | unwritable path why => "Could not write " ++ path ++ ": " ++ why.message
  | unanswered _ why => why.message
  | unnameable why => why.message
  | unencodable why => why.message
  | accident why => why.message
  | home why => why.message
  | unbuilt why => why.message
  | index why => why.message
  | unstored why => why.message

/-- The file that a failure concerns, if it concerns just one. -/
def path? : Failure → Option Text
  | unreadable path _ => some path
  | unwritable path _ => some path
  | unanswered path _ => some path
  | _ => none

end Failure

/-- The summarizer in hand. One that was lent is not closed here. -/
inductive Holding (α : Type) where
  | none
  | lent (summarizer : α)
  | own (summarizer : α)
  deriving DecidableEq

structure Session (α σ : Type) where
  tree : Tree
  holding : Holding α
  outside : σ
  events : List Event

namespace Session

variable {α σ : Type}

def record (s : Session α σ) (events : List Event) : Session α σ :=
  { s with events := s.events ++ events }

def note (s : Session α σ) (n : Note) : Session α σ := s.record [.noted n]

def print (s : Session α σ) (stream : Stream) (line : Text) : Session α σ :=
  s.record [.printed stream line]

/-- Gives up the summarizer in hand if it was built here. -/
def close (s : Session α σ) : Session α σ :=
  match s.holding with
  | .own _ => { s.record [.closed] with holding := .none }
  | _ => s

end Session

end Synopsis
