import Synopsis.Datum
import Synopsis.Settings.Basic
import Synopsis.Tree.Basic
import Synopsis.Yaml.Value

namespace Synopsis

/-- What the value of a key has to be. -/
inductive Rule where
  | truth
  | nonEmptyText
  | wholeNumber
  | number
  | extensions
  | path
  deriving DecidableEq

def Rule.text : Rule → Text
  | .truth => "true or false"
  | .nonEmptyText => "a non-empty string"
  | .wholeNumber => "an integer"
  | .number => "a number"
  | .extensions => "a list of extensions like '.ts'"
  | .path => "a path"

/-- Why settings cannot be had. The `source` is a path or the name of a layer. -/
inductive SettingsFault where
  | home (f : HomeFault)
  | unreadable (f : ReadFault)
  | notYaml (source : Text)
  | value (f : Yaml.Fault)
  | notMapping (source : Text)
  | unknownKeys (source : Text) (keys : List Text)
  | keyNotText (kind : Text)
  | keysNotOrdered (left right : Text)
  | breaks (key source : Text) (rule : Rule)
  | numberTooLarge
  deriving DecidableEq

def SettingsFault.message : SettingsFault → Text
  | .home f => f.message
  | .unreadable f => f.message
  | .notYaml source =>
    "Config file '" ++ source ++ "' is not valid YAML: " ++ Yaml.Fault.malformed.message
  | .value f => f.message
  | .notMapping source => "Config file '" ++ source ++ "' must contain a mapping"
  | .unknownKeys source keys =>
    "Unknown config keys in " ++ source ++ ": " ++ Text.intercalate ", " keys
  | .keyNotText kind => "sequence item 0: expected str instance, " ++ kind ++ " found"
  | .keysNotOrdered left right =>
    "'<' not supported between instances of '" ++ left ++ "' and '" ++ right ++ "'"
  | .breaks key source rule => "'" ++ key ++ "' in " ++ source ++ " must be " ++ rule.text
  | .numberTooLarge => "int too large to convert to float"

namespace Settings

def truth? : Datum → Option Bool
  | .bool b => some b
  | _ => none

def nonEmptyText? : Datum → Option Text
  | .text s => if s = "" then none else some s
  | _ => none

/-- A whole number, or expressly none. -/
def limit? : Datum → Option (Option Int)
  | .null => some none
  | .int n => some (some n)
  | _ => none

def extensions? : Datum → Option (List Text)
  | .list items =>
    if items.all fun d => (d.text?.bind fun s => s.toList.head?) = some (.char '.') then
      some (items.filterMap Datum.text?)
    else none
  | _ => none

def path? (d : Datum) : Option Path := (nonEmptyText? d).map Path.ofText

/-- A whole number may be too large for a fraction to be added to it. -/
def temperature? : Datum → Option (Except SettingsFault Number)
  | .real x => some (.ok (.real x))
  | .int n =>
    let x := Float.ofInt n
    some (if x.isInf then .error .numberTooLarge else .ok (.real x))
  | _ => none

def knownKeys : List Text :=
  ["cache_path", "force", "fail_fast", "prune", "extensions", "embed_exclusions", "model",
    "temperature", "max_tokens", "seed", "prompt"]

/-- Sets the value of a known key. -/
def assign (source : Text) (s : Settings) (key : Text) (value : Datum) :
    Except SettingsFault Settings :=
  let given {α : Type} (rule : Rule) (read : Datum → Option α) (put : α → Settings) :
      Except SettingsFault Settings :=
    match read value with
    | some v => .ok (put v)
    | none => .error (.breaks key source rule)
  if key = "force" then given .truth truth? fun v => { s with force := v }
  else if key = "fail_fast" then given .truth truth? fun v => { s with failFast := v }
  else if key = "prune" then given .truth truth? fun v => { s with prune := v }
  else if key = "model" then given .nonEmptyText nonEmptyText? fun v => { s with model := v }
  else if key = "prompt" then given .nonEmptyText nonEmptyText? fun v => { s with prompt := v }
  else if key = "max_tokens" then given .wholeNumber limit? fun v => { s with maxTokens := v }
  else if key = "seed" then given .wholeNumber limit? fun v => { s with seed := v }
  else if key = "extensions" then given .extensions extensions? fun v => { s with extensions := v }
  else if key = "embed_exclusions" then
    given .extensions extensions? fun v => { s with exclusions := v }
  else if key = "cache_path" then given .path path? fun v => { s with indexPath := v }
  else if key = "temperature" then
    match temperature? value with
    | some (.ok v) => .ok { s with temperature := v }
    | some (.error f) => .error f
    | none => .error (.breaks key source .number)
  else .error (.unknownKeys source [key])

def isKnown (key : Datum) : Bool :=
  match key with
  | .text s => s ∈ knownKeys
  | _ => false

/-- The least of the numbers among some keys. -/
def leastNumber? (keys : List Datum) : Option Datum :=
  keys.foldl (fun least d =>
    match least, d.number? with
    | none, some _ => some d
    | some l, some x => if x < (l.number?.getD x) then some d else some l
    | least, none => least) none

/-- What is wrong with keys that are not known. They are named in order, which only texts allow. -/
def refuseKeys (source : Text) (keys : List Datum) : SettingsFault :=
  match keys with
  | [] => .unknownKeys source []
  | first :: rest =>
    if keys.all fun d => d.text?.isSome then
      .unknownKeys source ((keys.filterMap Datum.text?).mergeSort (· ≤ ·))
    else if rest = [] then .keyNotText first.kind
    else if keys.all fun d => d.number?.isSome then
      .keyNotText ((leastNumber? keys).getD first).kind
    else
      match rest.find? fun d => d.text?.isSome != first.text?.isSome || d.kind != first.kind with
      | some d => .keysNotOrdered d.kind first.kind
      | none => .keyNotText first.kind

def assignAll (source : Text) (s : Settings) :
    List (Datum × Datum) → Except SettingsFault Settings
  | [] => .ok s
  | (key, value) :: r =>
    match s.assign source (key.text?.getD "") value with
    | .ok s => assignAll source s r
    | .error f => .error f

/-- Puts a layer over settings. -/
def overlay (source : Text) (s : Settings) (entries : List (Datum × Datum)) :
    Except SettingsFault Settings :=
  match (entries.map Prod.fst).filter fun d => !isKnown d with
  | [] => assignAll source s entries
  | unknown => .error (refuseKeys source unknown)

/-- The layer of a project's document. A path that leads to no file stands for no settings. -/
def overlayFile (t : Tree) (p : Path) (s : Settings) : Except SettingsFault Settings :=
  match t.isFile p with
  | .error f => .error (.unreadable (.file f))
  | .ok false => .ok s
  | .ok true =>
    match t.readText p with
    | .error f => .error (.unreadable f)
    | .ok text =>
      match Yaml.read text with
      | .error .malformed => .error (.notYaml p.text)
      | .error f => .error (.value f)
      | .ok .null => .ok s
      | .ok (.map entries) => s.overlay p.text entries
      | .ok _ => .error (.notMapping p.text)

def documentPath : Path := ⟨.relative, [".autosummary", "config.yaml"]⟩

/-- The settings of a project. Of `overrides`, values that are null do not count. -/
def load (h : Host) (t : Tree) (root : Path) (overrides : List (Text × Datum))
    (document : Option Path) : Except SettingsFault Settings :=
  match h.expand root with
  | .error f => .error (.home f)
  | .ok root =>
    match standard.overlayFile t (document.getD (root / documentPath)) with
    | .error f => .error f
    | .ok s =>
      let given := overrides.filter fun e => !e.2.isNull
      match s.overlay "overrides" (given.map fun e => (.text e.1, e.2)) with
      | .error f => .error f
      | .ok s => .ok { s with root }

end Settings

end Synopsis
