import Synopsis.Text.Basic

namespace Synopsis

/-- The lines around a block, and what stands in front of every line between them. -/
structure Dialect where
  header : Text
  footer : Text
  indent : Text
  deriving DecidableEq

namespace Dialect

/-- One comment from the header to the footer. -/
def script : Dialect := ⟨"/** AUTO-SUMMARY **", "*** END-SUMMARY **/", "   "⟩

/-- Every line is a comment of its own. -/
def hash : Dialect := ⟨"### AUTO-SUMMARY ###", "### END-SUMMARY ###", "#  "⟩

/-- The dialect of a type of file. Types of other files cannot hold a summary. -/
def ofExtension? (extension : Text) : Option Dialect :=
  if extension ∈ ([".ts", ".js", ".tsx", ".jsx"] : List Text) then some script
  else if extension ∈ ([".yaml", ".yml", ".sh"] : List Text) then some hash
  else none

end Dialect

end Synopsis
