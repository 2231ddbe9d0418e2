import Synopsis.Proofs.Command.Execution
import Synopsis.Proofs.Service.Framing

namespace Synopsis.Command

open Service

variable {α σ : Type} {h : Host} {supply : Supply α σ} {t : Tree} {args : List Text}
  {sv : Service α σ} {paths : List Text} {s : Session α σ} {loc : Location}

/-- A command line, with the machine, the summarizers and the world outside that it finds. -/
structure CommandLine (α σ : Type) where
  host : Host
  supply : Supply α σ
  args : List Text
  outside : σ

/-- A command line starts without a summarizer. -/
def CommandLine.start (line : CommandLine α σ) (t : Tree) : Session α σ :=
  ⟨t, .none, line.outside, []⟩

/-- The tree that a command line leaves. -/
def CommandLine.after (line : CommandLine α σ) (t : Tree) : Tree :=
  (execute line.host line.supply line.args (line.start t)).2.tree

/-- The tree that some command lines leave. -/
def after (lines : List (CommandLine α σ)) (t : Tree) : Tree :=
  lines.foldl (fun t line => line.after t) t

/-- What is so of one of some command lines, in the tree that it finds. -/
def Sometime (lines : List (CommandLine α σ)) (t : Tree)
    (holds : CommandLine α σ → Tree → Prop) : Prop :=
  ∃ front line rest, lines = front ++ line :: rest ∧ holds line (after front t)

variable {lines : List (CommandLine α σ)} {line : CommandLine α σ}

theorem Sometime.head (lines : List (CommandLine α σ)) (holds : CommandLine α σ → Tree → Prop)
    (hholds : holds line t) :
    Sometime (line :: lines) t holds :=
  ⟨[], line, lines, rfl, hholds⟩

theorem Sometime.tail (holds : CommandLine α σ → Tree → Prop)
    (hholds : Sometime lines (line.after t) holds) : Sometime (line :: lines) t holds := by
  obtain ⟨front, other, rest, rfl, hother⟩ := hholds
  exact ⟨line :: front, other, rest, rfl, hother⟩

end Synopsis.Command
