import Synopsis.Command.Arguments
import Synopsis.Event

namespace Synopsis.Command

/-- The least level of the notes that are shown. -/
def threshold (verbosity : Nat) : Level :=
  match verbosity with
  | 0 => .warning
  | 1 => .info
  | _ => .debug

def verbosityOf (args : List Text) : Nat :=
  match read args with
  | .invoke i => i.verbosity
  | _ => 0

def partName : Part → Text
  | .service => "autosummary.summaries.service"
  | .summarizer => "autosummary.summaries.summarizer"
  | .discovery => "autosummary.discovery"

def noteLine (n : Note) : Text := n.level.text ++ " " ++ partName n.part ++ ": " ++ n.message

/-- The line that an event leaves on a stream. -/
def lineOn (verbosity : Nat) (stream : Stream) : Event → Option Text
  | .printed s line => if s = stream then some line else none
  | .noted n =>
    if stream = .errors ∧ (threshold verbosity).rank ≤ n.level.rank then some (noteLine n) else none
  | _ => none

def textOn (verbosity : Nat) (stream : Stream) (events : List Event) : Text :=
  Text.join ((events.filterMap (lineOn verbosity stream)).map (· ++ "\n"))

end Synopsis.Command
