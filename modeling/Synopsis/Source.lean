import Synopsis.Block.Basic

namespace Synopsis

structure Source where
  lines : List Text
  lineBreak : Text.LineBreak
  deriving DecidableEq

namespace Source

def ofText (raw : Text) : Source :=
  let lineBreak := Text.LineBreak.ofText raw
  ⟨Text.splitLines (lineBreak.undo raw), lineBreak⟩

/-- What a summary is asked for: the lines, joined by line feeds. -/
def content (s : Source) : Text := Text.joinLines s.lines

/-- What is written to the file. -/
def text (s : Source) : Text := s.lineBreak.apply s.content

/-- The summary in the block of a file. A blank one does not count. -/
def summary? (d : Dialect) (s : Source) : Option Text :=
  (Block.extract? d s.lines).bind fun body =>
    let summary := Text.joinLines body
    if Text.isBlank summary then none else some summary

/-- Puts a summary into the file in the place of a former one. -/
def annotate (d : Dialect) (summary : Text) (s : Source) : Source :=
  { s with lines := Block.place (Block.compose d summary) (Block.remove d s.lines) }

def strip? (d : Dialect) (s : Source) : Option Source :=
  (Block.strip? d s.lines).map fun lines => { s with lines }

end Source

end Synopsis
