import Synopsis.Completion.Message
import Synopsis.Tree.Fault

namespace Synopsis

inductive Level where
  | debug
  | info
  | warning
  | error
  deriving DecidableEq

def Level.rank : Level → Nat
  | .debug => 10
  | .info => 20
  | .warning => 30
  | .error => 40

def Level.text : Level → Text
  | .debug => "DEBUG"
  | .info => "INFO"
  | .warning => "WARNING"
  | .error => "ERROR"

/-- The part of the program that a note comes from. -/
inductive Part where
  | service
  | summarizer
  | discovery
  deriving DecidableEq

/-- What is noted along the way. -/
inductive Note where
  | unsupported (path : Text)
  | indexReused (path : Text)
  | blockReused (path : Text)
  | indexedOnly (path : Text)
  | embedded (path : Text)
  | removed (path : Text)
  | failed (path reason : Text)
  | indexMissing (index : Text)
  | indexWritten (count : Nat) (index : Text)
  | compiled (count : Nat) (index : Text)
  | answered
  | listingUnavailable (root reason : Text)
  deriving DecidableEq

namespace Note

def level : Note → Level
  | unsupported _ | indexReused _ | blockReused _ | indexedOnly _ | embedded _ | removed _ => .info
  | failed .. => .error
  | indexMissing _ | indexWritten .. | compiled .. | answered | listingUnavailable .. => .debug

def part : Note → Part
  | answered => .summarizer
  | listingUnavailable .. => .discovery
  | _ => .service

def message : Note → Text
  | unsupported path => path ++ ": Skipped. File type not supported."
  | indexReused path => path ++ ": Skipped. Summary exists in storage. Filetype excluded."
  | blockReused path => path ++ ": Skipped. Summary exists in file. Updating storage."
  | indexedOnly path => path ++ ": Summary generated. Filetype excluded."
  | embedded path => path ++ ": Summary generated. Prepended to file."
  | removed path => path ++ ": Summary removed from file."
  | failed path reason => path ++ ": Failed. " ++ reason
  | indexMissing index => "Summary cache " ++ index ++ " not found; starting empty"
  | indexWritten count index => "Wrote " ++ toString count ++ " summaries to " ++ index
  | compiled .. => "annotation-service"
  | answered => "summarizer"
  | listingUnavailable root reason =>
    "git ls-files unavailable in " ++ root ++ " (" ++ reason ++ "); walking tree instead"

end Note

inductive Stream where
  | output
  | errors
  deriving DecidableEq

/-- `built`, `asked` and `closed` concern a summarizer, `requested` the chat behind it, `posted` and
`slept` the way to a completion service. -/
inductive Event where
  | built
  | asked (path content : Text)
  | closed
  | requested (r : ChatRequest)
  | posted (r : WebRequest)
  | slept (seconds : Number)
  | noted (n : Note)
  | printed (stream : Stream) (line : Text)

end Synopsis
