import Synopsis.Command.Usage
import Synopsis.Datum
import Synopsis.Decimal.Reading

namespace Synopsis

/-- What the `run` command sets in place of the project's settings. -/
structure RunOptions where
  force : Bool
  failFast : Bool
  prune : Bool
  model : Supplied Text
  prompt : Supplied Text
  maxTokens : Supplied Int
  deriving DecidableEq

inductive Command where
  | run (paths : List Text) (options : RunOptions)
  | display (path : Text)
  | list
  | strip (paths : List Text)
  deriving DecidableEq

/-- A root that was given as nothing is none. -/
structure Invocation where
  root : Option Text
  verbosity : Nat
  command : Command
  deriving DecidableEq

/-- What a command line comes to. A fault is told under the name of the command it was found in. -/
inductive Request where
  | help
  | fault (program : Text) (f : UsageFault)
  | invoke (i : Invocation)
  deriving DecidableEq

namespace Command

def program : Text := "autosummary"

def helpOption : CommandOption := ⟨["-h", "--help"], false⟩

def rootOption : CommandOption := ⟨["--root"], true⟩

def verboseOption : CommandOption := ⟨["-v", "--verbose"], false⟩

def forceOption : CommandOption := ⟨["-f", "--force"], false⟩

def failFastOption : CommandOption := ⟨["--fail-fast"], false⟩

def pruneOption : CommandOption := ⟨["--prune"], false⟩

def modelOption : CommandOption := ⟨["--model"], true⟩

def promptOption : CommandOption := ⟨["--prompt"], true⟩

def maxTokensOption : CommandOption := ⟨["--max-tokens"], true⟩

def names : List Text := ["run", "show", "list", "strip"]

def grammar : Grammar :=
  ⟨[helpOption, rootOption, verboseOption], .command "cmd" names⟩

def runGrammar : Grammar :=
  ⟨[helpOption, forceOption, failFastOption, pruneOption, modelOption, promptOption,
    maxTokensOption], .many "paths"⟩

def showGrammar : Grammar := ⟨[helpOption], .one "path"⟩

def listGrammar : Grammar := ⟨[helpOption], .none⟩

def stripGrammar : Grammar := ⟨[helpOption], .many "paths"⟩

/-- Why a reading ends before all is known. -/
inductive Stop where
  | help
  | fault (f : UsageFault)
  deriving DecidableEq

/-- The options and operands of a command, as far as they are read. -/
structure Found where
  options : RunOptions
  operands : List Text
  deriving DecidableEq

def Found.start : Found := ⟨⟨false, false, false, .absent, .absent, .absent⟩, []⟩

def takeStep (found : Found) : Grammar.Step → Except Stop Found
  | .operands texts => .ok { found with operands := texts }
  | .command .. => .ok found
  | .set o value =>
    let options := found.options
    if o = helpOption then .error .help
    else if o = forceOption then .ok { found with options := { options with force := true } }
    else if o = failFastOption then .ok { found with options := { options with failFast := true } }
    else if o = pruneOption then .ok { found with options := { options with prune := true } }
    else if o = modelOption then .ok { found with options := { options with model := value } }
    else if o = promptOption then .ok { found with options := { options with prompt := value } }
    else
      match value with
      | .absent => .ok { found with options := { options with maxTokens := .absent } }
      | .nothing => .ok { found with options := { options with maxTokens := .nothing } }
      | .value s =>
        match readInt s with
        | .ok n => .ok { found with options := { options with maxTokens := .value n } }
        | .error _ => .error (.fault (.notWhole o.names s))

/-- Takes the steps of a reading in turn; a fault of the reading comes after its steps. -/
def takeAll (r : Grammar.Reading) : Except Stop Found :=
  match r.steps.foldlM takeStep Found.start with
  | .error stop => .error stop
  | .ok found =>
    match r.fault with
    | some f => .error (.fault f)
    | none => .ok found

/-- Reads the arguments of a command, and tells which of them nothing takes. -/
def ofWord (word : Text) (args : List Text) : Except Stop (Command × List Text) :=
  let reading :=
    if word = "run" then runGrammar.read args
    else if word = "show" then showGrammar.read args
    else if word = "list" then listGrammar.read args
    else stripGrammar.read args
  match takeAll reading with
  | .error stop => .error stop
  | .ok found =>
    if word = "run" then .ok (.run found.operands found.options, reading.surplus)
    else if word = "show" then
      match found.operands with
      | path :: _ => .ok (.display path, reading.surplus)
      | [] => .error (.fault (.missing ["path"]))
    else if word = "list" then .ok (.list, reading.surplus)
    else .ok (.strip found.operands, reading.surplus)

/-- The options before the command, and the command once it is found. -/
structure Front where
  root : Option Text
  verbosity : Nat
  command : Option (Command × List Text)
  deriving DecidableEq

def takeFront (front : Front) : Grammar.Step → Except Request Front
  | .operands _ => .ok front
  | .set o value =>
    if o = helpOption then .error .help
    else if o = rootOption then
      let root := match value with
        | .value s => some s
        | _ => none
      .ok { front with root }
    else .ok { front with verbosity := front.verbosity + 1 }
  | .command word rest =>
    if word ∈ names then
      match ofWord word rest with
      | .ok command => .ok { front with command := some command }
      | .error .help => .error .help
      | .error (.fault f) => .error (.fault (program ++ " " ++ word) f)
    else .error (.fault program (.unknownCommand "cmd" word names))

def read (args : List Text) : Request :=
  let reading := grammar.read args
  match reading.steps.foldlM takeFront ⟨some ".", 0, none⟩ with
  | .error request => request
  | .ok front =>
    match reading.fault, front.command with
    | some f, _ => .fault program f
    | none, none => .fault program (.missing ["cmd"])
    | none, some (command, surplus) =>
      match reading.surplus ++ surplus with
      | [] => .invoke ⟨front.root, front.verbosity, command⟩
      | arguments => .fault program (.unrecognized arguments)

end Command

/-- What an option sets. Nothing at all is set as an empty list. -/
def Supplied.datum {α : Type} (f : α → Datum) : Supplied α → Datum
  | .absent => .null
  | .nothing => .list []
  | .value a => f a

/-- The settings that the options of the `run` command stand for. -/
def RunOptions.overrides (o : RunOptions) : List (Text × Datum) :=
  let flag (b : Bool) : Datum := if b then .bool true else .null
  [("force", flag o.force), ("fail_fast", flag o.failFast), ("prune", flag o.prune),
    ("model", o.model.datum .text), ("prompt", o.prompt.datum .text),
    ("max_tokens", o.maxTokens.datum .int)]

end Synopsis
