import Synopsis.Command.Run
import Synopsis.Command.Transcript
import Synopsis.Prompt.Standard

namespace Synopsis.Main

/-- Where the prompt that comes with the program appears in the tree. -/
def promptDirectory : Path := ⟨.root, ["usr", "share", "synopsis", "prompts"]⟩

def locationOf (path : String) : Location := (Path.ofText path).parts

/-- A file or a directory with all that lies in it. What cannot be read is left out. -/
partial def readNode (path : String) : IO (Option Node) := do
  let entry : IO.FS.DirEntry := ⟨path, "."⟩
  if ← entry.path.isDir then
    let entries ← try entry.path.readDir catch _ => pure #[]
    let mut children : List (Text × Node) := []
    for e in entries do
      if let some child ← readNode (path ++ "/" ++ e.fileName) then
        children := (↑e.fileName, child) :: children
    return some (.dir children.reverse)
  else
    try return some (.file (← IO.FS.readBinFile path).toList 0o644) catch _ => return none

def plantPath (top : Node) (path : String) : IO Node := do
  match ← readNode path with
  | some n => return top.plant (locationOf path) n
  | none => return top

/-- The places outside the working directory that the arguments name. -/
def namedPlaces (h : Host) (args : List String) : List String :=
  args.filterMap fun a : String =>
    match h.expand (.ofText a) with
    | .ok p => if p.isAbsolute then some p.text.toString else none
    | .error _ => none

def readTree (h : Host) (here : String) (args : List String) : IO Tree := do
  let top : Node := Node.plant (.dir []) (promptDirectory.parts ++ [("default.md" : Text)])
    (.file (Utf8.encode Prompt.standardText) 0o644)
  let places := here :: (h.home.toString ++ "/.config/openrouter") :: namedPlaces h args
  let top ← places.foldlM plantPath top
  return ⟨top, locationOf here, 0o022⟩

def readHost : IO Host := do
  return {
    home := ((← IO.getEnv "HOME").getD "/root" : String)
    accounts := []
    apiKey := (← IO.getEnv "OPENROUTER_API_KEY").map .ofString
    apiBase := (← IO.getEnv "OPENROUTER_API_BASE").map .ofString
    apiTitle := (← IO.getEnv "OPENROUTER_TITLE").map .ofString
    bundledPrompts := promptDirectory
    listing := .notInstalled }

/-- Writes the files that a command changed or made. -/
def writeChanges (before after : Tree) : IO Unit := do
  for loc in after.top.files fun _ => true do
    if let some (.file content _) := after.top.get? loc then
      let same := match before.top.get? loc with
        | some (.file old _) => old = content
        | _ => false
      if !same then
        IO.FS.createDirAll (Path.mk .root loc.dropLast).text.toString
        IO.FS.writeBinFile (Path.mk .root loc).text.toString ⟨content.toArray⟩

/-- No connection to a completion service is made from here. -/
def unconnected : Wire := ⟨fun _ => .fault false, 0, .real 1.0⟩

def run (args : List String) : IO UInt32 := do
  let host ← readHost
  let tree ← readTree host (← IO.currentDir).toString args
  let words := args.map Text.ofString
  let (exit, after) :=
    Command.execute host (Supply.online host) words ⟨tree, .none, unconnected, []⟩
  writeChanges tree after.tree
  let verbosity := Command.verbosityOf words
  IO.print (Command.textOn verbosity .output after.events).toString
  IO.eprint (Command.textOn verbosity .errors after.events).toString
  match exit with
  | .ok code => return code.toUInt32
  | .error crash =>
    IO.eprintln crash.message.toString
    return 1

end Synopsis.Main

def main (args : List String) : IO UInt32 := Synopsis.Main.run args
