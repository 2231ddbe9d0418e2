import Synopsis.Command.Arguments
import Synopsis.Discovery
import Synopsis.Service.Batch
import Synopsis.Settings.Loading

namespace Synopsis.Command

variable {α σ : Type}

/-- A failure that no command expects. -/
inductive Crash where
  | rootNotPath
  | home (f : HomeFault)
  | file (f : Fault)
  | settings (f : SettingsFault)
  | service (f : Failure)
  deriving DecidableEq

def Crash.message : Crash → Text
  | .rootNotPath => "'list' object has no attribute 'expanduser'"
  | .home f => f.message
  | .file f => f.message
  | .settings f => f.message
  | .service f => f.message

abbrev Exit := Except Crash Nat

def helpText : Text :=
  "usage: autosummary [-h] [--root ROOT] [-v] \x7brun,show,list,strip\x7d ..."

/-- Ends a command that was not called rightly. -/
def reject (programName message : Text) (s : Session α σ) : Exit × Session α σ :=
  (.ok 2, s.print .errors (programName ++ ": error: " ++ message))

/-- Whether a fault lies in what the settings say, and not in how they are kept. -/
def isMisconfigured : SettingsFault → Bool
  | .notYaml _ | .notMapping _ | .unknownKeys .. | .breaks .. => true
  | _ => false

/-- Whether a failure asks for another call of the program. -/
def isRejection : Failure → Bool
  | .unbuilt (.prompt (.notFound ..)) => true
  | .unbuilt (.prompt (.empty _)) => true
  | .unbuilt (.prompt (.unbalanced ..)) => true
  | .unbuilt (.prompt (.lacks ..)) => true
  | .unbuilt (.setup (.completion e)) => e.family? = some .authentication
  | .unstored (.file f) => f.refusal = .missing
  | _ => false

/-- Whether a failure means that the index cannot be trusted. -/
def isSpoiledIndex : Failure → Bool
  | .index (.file _) => false
  | .index (.excessive _) => false
  | .index _ => true
  | _ => false

/-- The paths that were given, or else those that are found. -/
def chosenPaths (sv : Service α σ) (paths : List Text) (s : Session α σ) :
    Except Crash (List Text) × Session α σ :=
  if paths ≠ [] then (.ok paths, s)
  else
    let (found, notes) :=
      Discovery.discover sv.host s.tree sv.settings.root sv.settings.extensions
    let s := s.record (notes.map .noted)
    match found with
    | .ok paths => (.ok paths, s)
    | .error (.home f) => (.error (.home f), s)
    | .error (.file f) => (.error (.file f), s)

/-- Ends the `run` command after a failure. -/
def afterFailure (f : Failure) (s : Session α σ) : Exit × Session α σ :=
  match f.path? with
  | some path =>
    (.ok 1, s.print .errors ("Aborted at " ++ path ++ ": " ++ f.message))
  | none =>
    if isRejection f then reject program f.message s
    else if isSpoiledIndex f then (.ok 1, s.print .errors f.message)
    else (.error (.service f), s)

def annotateFiles (sv : Service α σ) (paths : List Text) (s : Session α σ) : Exit × Session α σ :=
  match chosenPaths sv paths s with
  | (.error crash, s) => (.error crash, s)
  | (.ok [], s) =>
    (.ok 0, s.print .output ("No project files found under " ++ sv.settings.root.text))
  | (.ok paths, s) =>
    match sv.run paths s with
    | (.error f, s) => afterFailure f s.close
    | (.ok report, s) =>
      let s := report.lines.foldl (fun s line => s.print .output line) s.close
      (.ok (if report.isClean then 0 else 1), s.print .output ("Wrote " ++ sv.index.text))

/-- The index, for a command that only reads it. -/
def withIndex (sv : Service α σ) (s : Session α σ)
    (use : Index → Session α σ → Exit × Session α σ) : Exit × Session α σ :=
  match sv.load s with
  | (.error f, s) =>
    if isSpoiledIndex f then (.ok 1, s.print .errors f.message) else (.error (.service f), s)
  | (.ok index, s) => use index s

def displaySummary (sv : Service α σ) (path : Text) (s : Session α σ) : Exit × Session α σ :=
  withIndex sv s fun index s =>
    match Keyed.get? index path with
    | some e => (.ok 0, s.print .output e.summary)
    | none => (.ok 1, s.print .errors ("No cached summary for " ++ path))

def listPaths (sv : Service α σ) (s : Session α σ) : Exit × Session α σ :=
  withIndex sv s fun index s =>
    (.ok 0, (Keyed.keys index).foldl (fun s path => s.print .output path) s)

/-- Strips files one after the other. A file that cannot be read or written does not stop the
others. -/
def stripAll (sv : Service α σ) : (code : Nat) → List Text → Session α σ → Exit × Session α σ
  | code, [], s => (.ok code, s)
  | code, path :: r, s =>
    match sv.strip path s with
    | (.ok true, s) => stripAll sv code r (s.print .output ("Stripped " ++ path))
    | (.ok false, s) => stripAll sv code r s
    | (.error f, s) =>
      if f.path?.isSome then stripAll sv 1 r (s.print .errors f.message)
      else (.error (.service f), s)

def stripFiles (sv : Service α σ) (paths : List Text) (s : Session α σ) : Exit × Session α σ :=
  match chosenPaths sv paths s with
  | (.error crash, s) => (.error crash, s)
  | (.ok paths, s) => stripAll sv 0 paths s

def overridesOf : Command → List (Text × Datum)
  | .run _ options => options.overrides
  | _ => []

def carryOut (sv : Service α σ) (c : Command) (s : Session α σ) : Exit × Session α σ :=
  match c with
  | .run paths _ => annotateFiles sv paths s
  | .display path => displaySummary sv path s
  | .list => listPaths sv s
  | .strip paths => stripFiles sv paths s

/-- Loads the settings of a project and carries out a command on it. -/
def invoke (h : Host) (supply : Supply α σ) (root : Path) (c : Command) (s : Session α σ) :
    Exit × Session α σ :=
  match h.expand root with
  | .error f => (.error (.home f), s)
  | .ok root =>
    match s.tree.isDir root with
    | .error f => (.error (.file f), s)
    | .ok false => reject program ("Project root does not exist: " ++ root.text) s
    | .ok true =>
      match Settings.load h s.tree root (overridesOf c) none with
      | .error f =>
        if isMisconfigured f then reject program f.message s else (.error (.settings f), s)
      | .ok settings =>
        match Service.create h settings supply with
        | .error f => (.error (.home f), s)
        | .ok sv => carryOut sv c s

/-- The whole program: from its arguments to its exit. -/
def execute (h : Host) (supply : Supply α σ) (args : List Text) (s : Session α σ) :
    Exit × Session α σ :=
  match read args with
  | .help => (.ok 0, s.print .output helpText)
  | .fault name f => reject name f.message s
  | .invoke ⟨none, _, _⟩ => (.error .rootNotPath, s)
  | .invoke ⟨some root, _, c⟩ => invoke h supply (.ofText root) c s

end Synopsis.Command
