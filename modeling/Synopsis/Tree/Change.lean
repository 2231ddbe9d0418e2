import Synopsis.Tree.Basic

namespace Synopsis.Tree

/-- The directory of a path and the name in it. -/
def slot (t : Tree) (p : Path) : Except Refusal (Location × Option Node) :=
  match obstacle? p, walk t.top (t.start p) p.parts.dropLast with
  | some e, _ => .error e
  | none, .error e => .error e
  | none, .ok dir =>
    match t.top.get? dir with
    | some (.dir entries) =>
      if nameLimit < p.name.fileSize then .error .nameTooLong
      else .ok (dir ++ [p.name], Keyed.get? entries p.name)
    | some (.file ..) => .error .notDirectory
    | none => .error .missing

/-- A path that ends in no name of its own leads to a directory. -/
def isNamed (p : Path) : Bool := p.name ≠ "" && p.name ≠ ".."

def makeDir (t : Tree) (p : Path) : Except Refusal Tree :=
  match t.slot p with
  | .error e => .error e
  | .ok (loc, old) =>
    if isNamed p && old.isNone then .ok { t with top := t.top.set loc (.dir []) }
    else .error .occupied

/-- A directory that is already there is as good as a new one. -/
def settle (t : Tree) (p : Path) (e : Refusal) : Except Fault Unit × Tree :=
  match t.isDir p with
  | .ok true => (.ok (), t)
  | _ => (.error (.of e p.text), t)

/-- Makes a directory and those above it. The path is given by its parts, the last one first. -/
def makeDirsBack (t : Tree) (anchor : Anchor) : List Text → Except Fault Unit × Tree
  | [] => t.settle ⟨anchor, []⟩ .occupied
  | name :: up =>
    let p : Path := ⟨anchor, (name :: up).reverse⟩
    match t.makeDir p with
    | .ok made => (.ok (), made)
    | .error .missing =>
      match makeDirsBack t anchor up with
      | (.error f, above) => (.error f, above)
      | (.ok (), above) =>
        match above.makeDir p with
        | .ok made => (.ok (), made)
        | .error .missing => (.error (.of .missing p.text), above)
        | .error e => above.settle p e
    | .error e => t.settle p e

def makeDirs (t : Tree) (p : Path) : Except Fault Unit × Tree :=
  t.makeDirsBack p.anchor p.parts.reverse

/-- Puts a file or a directory at a path, and makes the directories that lead there. A directory
that is there already keeps what it holds. -/
def put (t : Tree) (p : Path) : Node → Except Fault Unit × Tree
  | .dir _ => t.makeDirs p
  | .file content mode =>
    match t.makeDirs p.parent with
    | (.error f, t) => (.error f, t)
    | (.ok (), t) =>
      let refuse (e : Refusal) : Except Fault Unit × Tree := (.error (.of e p.text), t)
      match t.slot p with
      | .error e => refuse e
      | .ok (loc, old) =>
        let written : Except Fault Unit × Tree :=
          (.ok (), { t with top := t.top.set loc (.file content mode) })
        if !isNamed p then refuse .isDirectory
        else
          match old with
          | none => written
          | some (.dir _) => refuse .isDirectory
          | some (.file _ oldMode) => if Node.mayWrite oldMode then written else refuse .denied

/-- Takes a file away. -/
def remove (t : Tree) (p : Path) : Except Fault Tree :=
  match t.slot p with
  | .error e => .error (.of e p.text)
  | .ok (loc, old) =>
    if !isNamed p then .error (.of .isDirectory p.text)
    else
      match old with
      | none => .error (.of .missing p.text)
      | some (.dir _) => .error (.of .isDirectory p.text)
      | some (.file ..) => .ok { t with top := t.top.erase loc }

/-- The part of a temporary name that is tried as the `n`-th. -/
def stamp (n : Nat) : Text :=
  let ds := if n = 0 then [] else Nat.toDigits 10 n
  .ofChars (List.replicate (8 - ds.length) 'X' ++ ds)

def temporary (t : Tree) (p : Path) (n : Nat) : Path :=
  t.absolute p.parent / ("." ++ p.name ++ "." ++ stamp n ++ ".tmp" : Text)

/-- Creates a file that was not there, under the first name that is free. -/
def createBeside (t : Tree) (p : Path) (content : List UInt8) :
    (tries n : Nat) → Except Fault (Path × Location × Tree)
  | 0, _ => .error .noFreeName
  | tries + 1, n =>
    let temp := t.temporary p n
    match t.slot temp with
    | .error e => .error (.of e temp.text)
    | .ok (loc, none) => .ok (temp, loc, { t with top := t.top.set loc (.file content 0o600) })
    | .ok (_, some _) => createBeside t p content tries (n + 1)

/-- The mode of a new file. -/
def newMode (t : Tree) : Nat := 0o666 ^^^ (0o666 &&& t.mask)

/-- A file keeps its mode. -/
def modeFor (t : Tree) (p : Path) : Except Fault Nat :=
  (t.look? p).map fun
    | some (.file _ mode) => mode
    | some (.dir _) => 0o755
    | none => t.newMode

/-- Moves a file over a path. A directory does not give way. -/
def moveOver (t : Tree) (temp : Path) (loc : Location) (p : Path) : Except Fault Tree :=
  let refuse (e : Refusal) : Except Fault Tree := .error (.moving e temp.text p.text)
  match t.slot p with
  | .error e => refuse e
  | .ok (target, old) =>
    if !isNamed p then refuse .busy
    else
      match old, t.top.get? loc with
      | some (.dir _), _ => refuse .isDirectory
      | _, some n => .ok { t with top := (t.top.set target n).erase loc }
      | _, none => refuse .missing

/-- Replaces the content of a file, or makes a new file. It is written beside its target and then
moved over it, so that no other program sees half of it; whatever fails, it is taken away again. -/
def replaceFile (t : Tree) (p : Path) (content : List UInt8) : Except Fault Unit × Tree :=
  match t.createBeside p content 10000 0 with
  | .error f => (.error f, t)
  | .ok (temp, loc, written) =>
    let moved : Except Fault Tree := match written.modeFor p with
      | .error f => .error f
      | .ok mode =>
        Tree.moveOver { written with top := written.top.set loc (.file content mode) } temp loc p
    match moved with
    | .ok done => (.ok (), done)
    | .error f => (.error f, { written with top := written.top.erase loc })

/-- Replaces the content of a file by a text. -/
def replaceText (t : Tree) (p : Path) (text : Text) : Except WriteFault Unit × Tree :=
  match Text.Encoding.utf8.fault? text with
  | none =>
    let (done, t) := t.replaceFile p (Utf8.encode text)
    (done.mapError .file, t)
  | some f =>
    match t.createBeside p [] 10000 0 with
    | .error e => (.error (.file e), t)
    | .ok _ => (.error (.encoding f), t)

end Synopsis.Tree
