import Synopsis.Event
import Synopsis.Host
import Synopsis.Tree.Basic

namespace Synopsis.Discovery

def ignoredDirectories : List Text := ["node_modules", ".git", ".autosummary"]

def isIgnoredName (name : Text) : Bool :=
  name = "package.json" || name = "tsconfig.json" ||
    ("-lock.json" : Text).toList.isSuffixOf name.toList

def isIgnored (path : Text) : Bool :=
  let p := Path.ofText path
  (p.parts.dropLast.any fun part => part ∈ ignoredDirectories) || isIgnoredName p.name

/-- Paths of the files below a directory, from there. A directory that cannot be found has none, but
nothing can be looked for below a path with a NUL. -/
def filesBelow (t : Tree) (root : Path) : Except Fault (List Text) :=
  match t.look root with
  | .ok n =>
    .ok ((n.files fun name => name ∉ ignoredDirectories).map fun loc => Text.intercalate "/" loc)
  | .error (.unnameable why) => .error (.of (.unnameable why) root.text)
  | .error _ => .ok []

/-- The signals that can end a program, in the order of their numbers. -/
def signalNames : List Text :=
  ["SIGHUP", "SIGINT", "SIGQUIT", "SIGILL", "SIGTRAP", "SIGABRT", "SIGBUS", "SIGFPE", "SIGKILL",
    "SIGUSR1", "SIGSEGV", "SIGUSR2", "SIGPIPE", "SIGALRM", "SIGTERM", "SIGSTKFLT", "SIGCHLD",
    "SIGCONT", "SIGSTOP", "SIGTSTP", "SIGTTIN", "SIGTTOU", "SIGURG", "SIGXCPU", "SIGXFSZ",
    "SIGVTALRM", "SIGPROF", "SIGWINCH", "SIGIO", "SIGPWR", "SIGSYS"]

/-- The name of a signal; of the signals without a meaning only the first and the last have one. -/
def signalName? (number : Nat) : Option Text :=
  if number = 34 then some "SIGRTMIN"
  else if number = 64 then some "SIGRTMAX"
  else signalNames[number - 1]?

/-- How a program ended. A negative status is the number of the signal that ended it. -/
def exitText (status : Int) : Text :=
  if 0 ≤ status then "returned non-zero exit status " ++ toString status ++ "."
  else
    let number := status.natAbs
    match signalName? number with
    | some name => "died with <Signals." ++ name ++ ": " ++ toString number ++ ">."
    | none => "died with unknown signal " ++ toString number ++ "."

/-- What version control lists, or why it does not. -/
def listed : Listing → Except Text (List Text)
  | .notInstalled => .error "[Errno 2] No such file or directory: 'git'"
  | .failed status => .error ("Command '['git']' " ++ exitText status)
  | .entries paths => .ok (paths.filter (· ≠ ("" : Text)))

/-- Whether a path counts; the tree is asked last. -/
def isWanted (t : Tree) (root : Path) (extensions : List Text) (path : Text) :
    Except Fault Bool :=
  if Path.extension path ∈ extensions ∧ !isIgnored path then t.isFile (root / path)
  else .ok false

def wanted (t : Tree) (root : Path) (extensions : List Text) :
    List Text → Except Fault (List Text)
  | [] => .ok []
  | path :: r =>
    match isWanted t root extensions path with
    | .error f => .error f
    | .ok keep =>
      (wanted t root extensions r).map fun rest => if keep then path :: rest else rest

/-- Each path once, in the order of their characters. -/
def inOrder (paths : List Text) : List Text := (paths.mergeSort (· ≤ ·)).eraseDups

inductive DiscoveryFault where
  | home (f : HomeFault)
  | file (f : Fault)
  deriving DecidableEq

/-- The paths that may count, and what is noted on the way: those that version control lists, or all
below the root. -/
def candidates (h : Host) (t : Tree) (root : Path) : Except Fault (List Text) × List Note :=
  match listed h.listing with
  | .ok paths => (.ok paths, [])
  | .error reason => (filesBelow t root, [.listingUnavailable root.text reason])

/-- The files to work on, and what is noted on the way. -/
def discover (h : Host) (t : Tree) (root : Path) (extensions : List Text) :
    Except DiscoveryFault (List Text) × List Note :=
  match h.expand root with
  | .error f => (.error (.home f), [])
  | .ok root =>
    match candidates h t root with
    | (.error f, notes) => (.error (.file f), notes)
    | (.ok paths, notes) =>
      match wanted t root extensions paths with
      | .error f => (.error (.file f), notes)
      | .ok paths => (.ok (inOrder paths), notes)

end Synopsis.Discovery
