import Synopsis.Text.Quoted

namespace Synopsis

structure CommandOption where
  names : List Text
  takesValue : Bool
  deriving DecidableEq

/-- What a command line may hold besides options. The word of a `command` takes all that follows it
along. -/
inductive Operands where
  | none
  | one (name : Text)
  | many (name : Text)
  | command (name : Text) (choices : List Text)
  deriving DecidableEq

structure Grammar where
  options : List CommandOption
  operands : Operands
  deriving DecidableEq

inductive UsageFault where
  | ambiguous (given : Text) (candidates : List Text)
  | ignoredValue (names : List Text) (value : Text)
  | lacksValue (names : List Text)
  | notWhole (names : List Text) (value : Text)
  | unknownCommand (name given : Text) (choices : List Text)
  | missing (names : List Text)
  | unrecognized (arguments : List Text)
  deriving DecidableEq

namespace UsageFault

def ofOption (names : List Text) (text : Text) : Text :=
  "argument " ++ Text.intercalate "/" names ++ ": " ++ text

def message : UsageFault → Text
  | ambiguous given candidates =>
    "ambiguous option: " ++ given ++ " could match " ++ Text.intercalate ", " candidates
  | ignoredValue names value =>
    ofOption names ("ignored explicit argument " ++ Text.quoted value)
  | lacksValue names => ofOption names "expected one argument"
  | notWhole names value => ofOption names ("invalid int value: " ++ Text.quoted value)
  | unknownCommand name given choices =>
    ofOption [name] ("invalid choice: " ++ Text.quoted given ++ " (choose from " ++
      Text.intercalate ", " (choices.map Text.quoted) ++ ")")
  | missing names => "the following arguments are required: " ++ Text.intercalate ", " names
  | unrecognized arguments => "unrecognized arguments: " ++ Text.intercalate " " arguments

end UsageFault

/-- What an argument is taken for. A value may be attached to an option, behind an equals sign or
directly behind its letter; `byLetter` tells that the option was named by a letter. -/
inductive Argument where
  | operand (text : Text)
  | dashes
  | unknown (text : Text)
  | option (text : Text) (option : CommandOption) (byLetter : Bool) (attached : Option Text)
  deriving DecidableEq

def Argument.text : Argument → Text
  | operand text => text
  | dashes => "--"
  | unknown text => text
  | option text .. => text

/-- What an option gets. Two dashes as its value count as nothing at all, which is more than no
value. -/
inductive Supplied (α : Type) where
  | absent
  | nothing
  | value (a : α)
  deriving DecidableEq

def Supplied.ofText (s : Text) : Supplied Text := if s = "--" then nothing else value s

namespace Grammar

def find? (g : Grammar) (name : Text) : Option CommandOption :=
  g.options.find? fun o => name ∈ o.names

/-- The text before the first equals sign, and the text after it. -/
def splitValue (text : Text) : Text × Option Text :=
  let cs := text.toList
  match cs.dropWhile (· ≠ ('=' : Rune)) with
  | [] => (text, none)
  | _ :: r => (.ofList (cs.takeWhile (· ≠ ('=' : Rune))), some (.ofList r))

def startsWith (text start : Text) : Bool := start.toList.isPrefixOf text.toList

/-- Names with one dash are letters, all others are words. -/
def isLetter (name : Text) : Bool := !startsWith name "--"

/-- The options that a text may be short for, each with the name it stands for. A single dash may
be followed by the letter of an option and then by other letters or a value. -/
def candidates (g : Grammar) (text : Text) : List (CommandOption × Text × Option Text) :=
  let named := g.options.flatMap fun o => o.names.map fun n => (o, n)
  if startsWith text "--" then
    let (start, value) := splitValue text
    (named.filter fun (_, n) => startsWith n start).map fun (o, n) => (o, n, value)
  else
    named.filterMap fun (o, n) =>
      if n.toList = text.toList.take 2 then some (o, n, some (.ofList (text.toList.drop 2)))
      else if startsWith n text then some (o, n, none)
      else none

/-- A minus sign and digits, perhaps with a point among them. A line feed may follow. -/
def isNegativeNumber (text : Text) : Bool :=
  let cs := text.toList
  match if cs.getLast? = some (.char '\n') then cs.dropLast else cs with
  | '-' :: r =>
    match r.dropWhile fun c => (Text.digitValue? c).isSome with
    | [] => r ≠ []
    | '.' :: s => s ≠ [] && s.all fun c => (Text.digitValue? c).isSome
    | _ => false
  | _ => false

def classify (g : Grammar) (text : Text) : Except UsageFault Argument :=
  if text.toList.head? ≠ some (.char '-') ∨ text = "-" then .ok (.operand text)
  else
    let (start, value) := splitValue text
    match g.find? text, g.find? start with
    | some o, _ => .ok (.option text o (isLetter text) none)
    | none, some o => .ok (.option text o (isLetter start) value)
    | none, none =>
      match g.candidates text with
      | [(o, name, value)] => .ok (.option text o (isLetter name) value)
      | [] =>
        if isNegativeNumber text ∨ (' ' : Rune) ∈ text.toList then .ok (.operand text)
        else .ok (.unknown text)
      | several => .error (.ambiguous text (several.map fun c => c.2.1))

/-- Behind two dashes everything stands for itself. -/
def classifyAll (g : Grammar) : List Text → Except UsageFault (List Argument)
  | [] => .ok []
  | text :: r =>
    if text = "--" then .ok (.dashes :: r.map .operand)
    else
      match g.classify text with
      | .error f => .error f
      | .ok a => (classifyAll g r).map (a :: ·)

/-- What a command line asks for, step by step. -/
inductive Step where
  | set (option : CommandOption) (value : Supplied Text)
  | operands (texts : List Text)
  | command (word : Text) (rest : List Text)
  deriving DecidableEq

/-- The steps up to the end or to the first fault, and the arguments that nothing takes. -/
structure Reading where
  steps : List Step
  fault : Option UsageFault
  surplus : List Text
  deriving DecidableEq

namespace Reading

def done : Reading := ⟨[], none, []⟩

def stop (f : UsageFault) : Reading := ⟨[], some f, []⟩

def andThen (steps : List Step) (r : Reading) : Reading := { r with steps := steps ++ r.steps }

def leave (texts : List Text) (r : Reading) : Reading := { r with surplus := texts ++ r.surplus }

end Reading

/-- Reads the letters behind an option that shares its dash with them: the steps of all but the last
option, and the last one with the value that is attached to it. -/
def cluster (g : Grammar) (o : CommandOption) :
    List Rune → Except UsageFault (List Step × CommandOption × Option Text)
  | [] => .ok ([], o, none)
  | c :: r =>
    if o.takesValue then .ok ([], o, some (.ofList (c :: r)))
    else
      match g.find? (.ofList ['-', c]) with
      | none => .error (.ignoredValue o.names (.ofList (c :: r)))
      | some next => (cluster g next r).map fun (steps, last) => (.set o .absent :: steps, last)

/-- The option that an argument ends with, after the steps of those that share its dash. -/
def spread (g : Grammar) (o : CommandOption) (byLetter : Bool) :
    Option Text → Except UsageFault (List Step × CommandOption × Option Text)
  | some value =>
    if byLetter ∧ value ≠ "" then g.cluster o value.toList else .ok ([], o, some value)
  | none => .ok ([], o, none)

/-- The first of two dashes does not count among the operands. -/
def dropDashes : List Argument → List Text
  | [] => []
  | .dashes :: r => r.map Argument.text
  | a :: r => a.text :: dropDashes r

def isOption : Argument → Bool
  | .option .. => true
  | .unknown _ => true
  | _ => false

def isDashes : Argument → Bool
  | .dashes => true
  | _ => false

/-- The operands at the front of some arguments, taken as the grammar says: the step they make, and
the arguments behind them. -/
def takeOperands (kind : Operands) (args : List Argument) : Option (Step × List Argument) :=
  match kind with
  | .none => none
  | .one _ =>
    match args.dropWhile isDashes with
    | .operand text :: r => some (.operands [text], r.dropWhile isDashes)
    | _ => none
  | .many _ =>
    let front := args.takeWhile fun a => !isOption a
    if front = [] then none
    else some (.operands (dropDashes front), args.dropWhile fun a => !isOption a)
  | .command .. =>
    match args with
    | [] => none
    | a :: r =>
      if isOption a ∨ (args.all isDashes) then none
      else some (.command a.text (r.map Argument.text), [])

/-- Reads classified arguments; `taken` tells whether the operands are already found. -/
def readArguments (g : Grammar) :
    (fuel : Nat) → (taken : Bool) → List Argument → Reading
  | 0, _, _ => .done
  | _, _, [] => .done
  | fuel + 1, taken, .unknown text :: r => (readArguments g fuel taken r).leave [text]
  | fuel + 1, taken, .option _ o byLetter value :: r =>
    match g.spread o byLetter value with
    | .error f => .stop f
    | .ok (steps, o, value) =>
      match o.takesValue, value, r with
      | true, some v, _ =>
        (readArguments g fuel taken r).andThen (steps ++ [.set o (.ofText v)])
      | true, none, .operand v :: rest =>
        (readArguments g fuel taken rest).andThen (steps ++ [.set o (.ofText v)])
      | true, none, _ => .stop (.lacksValue o.names)
      | false, some v, _ => .stop (.ignoredValue o.names v)
      | false, none, _ => (readArguments g fuel taken r).andThen (steps ++ [.set o .absent])
  | fuel + 1, taken, a :: r =>
    match (if taken then none else takeOperands g.operands (a :: r)) with
    | some (step, rest) => (readArguments g fuel true rest).andThen [step]
    | none => (readArguments g fuel taken r).leave [a.text]

def read (g : Grammar) (args : List Text) : Reading :=
  match g.classifyAll args with
  | .error f => .stop f
  | .ok classified => g.readArguments (classified.length + 1) false classified

end Grammar

end Synopsis
