import Synopsis.Keyed
import Synopsis.Yaml.Token

namespace Synopsis.Yaml

inductive Node where
  | scalar (tag : Option Text) (plain : Bool) (text : Text)
  | seq (tag : Option Text) (items : List Node)
  | map (tag : Option Text) (entries : List (Node × Node))
  deriving Inhabited

def Node.empty : Node := .scalar none true ""

/-- The tokens still to be read, the anchors so far, and what the declared tag handles stand for. -/
structure Feed where
  tokens : List Token
  anchors : Keyed Node
  handles : Keyed Text

abbrev Reader := StateT Feed Option

namespace Reader

def peek : Reader Token := do return (← get).tokens.headD .streamEnd

def drop : Reader Unit := modify fun f => { f with tokens := f.tokens.tail }

def refuse {α : Type} : Reader α := fun _ => none

def accept (t : Token) : Reader Bool := do
  if (← peek) = t then
    drop
    return true
  return false

def expect (t : Token) : Reader Unit := do
  if !(← accept t) then refuse

/-- An anchor and a tag, in either order. -/
def properties : Reader (Option Text × Option (Option Text × Text)) := do
  match ← peek with
  | .anchor name =>
    drop
    match ← peek with
    | .tag handle rest => drop; return (some name, some (handle, rest))
    | _ => return (some name, none)
  | .tag handle rest =>
    drop
    match ← peek with
    | .anchor name => drop; return (some name, some (handle, rest))
    | _ => return (none, some (handle, rest))
  | _ => return (none, none)

/-- What a node with parts counts as while its parts are being read: an alias may stand within the
node that it names. -/
def outline (tag : Option Text) : Token → Option Node
  | .flowSequence | .blockSequence | .blockEntry => some (.seq tag [])
  | .flowMapping | .blockMapping => some (.map tag [])
  | _ => none

def setAnchor (name : Text) (n : Node) : Reader Unit :=
  modify fun f => { f with anchors := Keyed.set f.anchors name n }

/-- What a tag handle stands for if the document does not declare it. -/
def standardHandles : Keyed Text := [("!", "!"), ("!!", "tag:yaml.org,2002:")]

def resolveTag : Option (Option Text × Text) → Reader (Option Text)
  | none => return none
  | some (none, rest) => return some rest
  | some (some handle, rest) => do
    match (Keyed.get? (← get).handles handle).or (Keyed.get? standardHandles handle) with
    | some start => return some (start ++ rest)
    | none => refuse

/-- What may hold a node: a block collection, the value of a key, or a flow collection. -/
inductive Place where
  | block
  | value
  | flow
  deriving DecidableEq

mutual

def node : (fuel : Nat) → Place → Reader Node
  | 0, _ => refuse
  | fuel + 1, place => do
    match ← peek with
    | .alias name =>
      drop
      match Keyed.get? (← get).anchors name with
      | some n => return n
      | none => refuse
    | _ =>
      let (anchor, written) ← properties
      let tag ← resolveTag written
      match anchor with
      | none => content fuel place tag tag.isSome
      | some name =>
        if (Keyed.get? (← get).anchors name).isSome then refuse
        if let some n := outline (tag.filter (· ≠ ("!" : Text))) (← peek) then setAnchor name n
        let n ← content fuel place tag true
        setAnchor name n
        return n

def content : (fuel : Nat) → Place → Option Text → (mayBeEmpty : Bool) → Reader Node
  | 0, _, _, _ => refuse
  | fuel + 1, place, tag, mayBeEmpty => do
    let plainByTag := tag = some ("!" : Text)
    let tag := tag.filter (· ≠ ("!" : Text))
    match ← peek, place with
    | .blockEntry, .value => return .seq tag (← indentless fuel)
    | .scalar plain text, _ => drop; return .scalar tag (plain || plainByTag) text
    | .flowSequence, _ => drop; return .seq tag (← flowItems fuel true)
    | .flowMapping, _ => drop; return .map tag (← flowEntries fuel true)
    | .blockSequence, .block => drop; return .seq tag (← blockItems fuel)
    | .blockSequence, .value => drop; return .seq tag (← blockItems fuel)
    | .blockMapping, .block => drop; return .map tag (← blockEntries fuel)
    | .blockMapping, .value => drop; return .map tag (← blockEntries fuel)
    | _, _ => if mayBeEmpty then return .scalar tag true "" else refuse

/-- A node, or an empty one if a token comes that ends it. -/
def nodeUnless : (fuel : Nat) → Place → List Token → Reader Node
  | 0, _, _ => refuse
  | fuel + 1, place, ends => do if (← peek) ∈ ends then return .empty else node fuel place

def blockItems : (fuel : Nat) → Reader (List Node)
  | 0 => refuse
  | fuel + 1 => do
    if ← accept .blockEntry then
      let n ← nodeUnless fuel .block [.blockEntry, .blockEnd]
      return n :: (← blockItems fuel)
    else
      expect .blockEnd
      return []

/-- Entries of a list that stand no deeper than the key they belong to. -/
def indentless : (fuel : Nat) → Reader (List Node)
  | 0 => refuse
  | fuel + 1 => do
    if ← accept .blockEntry then
      let n ← nodeUnless fuel .block [.blockEntry, .key, .value, .blockEnd]
      return n :: (← indentless fuel)
    else return []

def blockEntries : (fuel : Nat) → Reader (List (Node × Node))
  | 0 => refuse
  | fuel + 1 => do
    if ← accept .key then
      let k ← nodeUnless fuel .value [.key, .value, .blockEnd]
      let v ←
        if ← accept .value then nodeUnless fuel .value [.key, .value, .blockEnd]
        else pure .empty
      return (k, v) :: (← blockEntries fuel)
    else
      expect .blockEnd
      return []

/-- A list between brackets; a single pair in it is a mapping of its own. -/
def flowItems : (fuel : Nat) → (first : Bool) → Reader (List Node)
  | 0, _ => refuse
  | fuel + 1, first => do
    if ← accept .flowSequenceEnd then return []
    if !first then expect .flowEntry
    if ← accept .flowSequenceEnd then return []
    let n ←
      if ← accept .key then
        let k ← nodeUnless fuel .flow [.value, .flowEntry, .flowSequenceEnd]
        let v ←
          if ← accept .value then nodeUnless fuel .flow [.flowEntry, .flowSequenceEnd]
          else pure .empty
        pure (.map none [(k, v)])
      else node fuel .flow
    return n :: (← flowItems fuel false)

def flowEntries : (fuel : Nat) → (first : Bool) → Reader (List (Node × Node))
  | 0, _ => refuse
  | fuel + 1, first => do
    if ← accept .flowMappingEnd then return []
    if !first then expect .flowEntry
    if ← accept .flowMappingEnd then return []
    let entry ←
      if ← accept .key then
        let k ← nodeUnless fuel .flow [.value, .flowEntry, .flowMappingEnd]
        let v ←
          if ← accept .value then nodeUnless fuel .flow [.flowEntry, .flowMappingEnd]
          else pure .empty
        pure (k, v)
      else pure (← node fuel .flow, .empty)
    return entry :: (← flowEntries fuel false)

end

/-- Only the first version of the language is known. -/
def directives : (fuel : Nat) → (version : Bool) → Reader Unit
  | 0, _ => refuse
  | fuel + 1, version => do
    match ← peek with
    | .version major =>
      drop
      if version ∨ major ≠ 1 then refuse else directives fuel true
    | .handle name start =>
      drop
      if (Keyed.get? (← get).handles name).isSome then refuse
      modify fun f => { f with handles := Keyed.set f.handles name start }
      directives fuel version
    | .directive => drop; directives fuel version
    | _ => return ()

def skipEnds : (fuel : Nat) → Reader Unit
  | 0 => return ()
  | fuel + 1 => do if ← accept .documentEnd then skipEnds fuel

/-- The one document of a text, if there is any. -/
def document (fuel : Nat) : Reader (Option Node) := do
  let explicit := match ← peek with
    | .version _ | .handle .. | .directive => true
    | .documentStart => true
    | .streamEnd => true
    | _ => false
  if explicit then
    skipEnds fuel
    if (← peek) = .streamEnd then return none
    directives fuel false
    expect .documentStart
    let n ← match ← peek with
      | .version _ | .handle .. | .directive => pure .empty
      | .documentStart => pure .empty
      | .documentEnd => pure .empty
      | .streamEnd => pure .empty
      | _ => node fuel .block
    finish n
  else finish (← node fuel .block)
where
  finish (n : Node) : Reader (Option Node) := do
    skipEnds fuel
    if (← peek) = .streamEnd then return some n else refuse

end Reader

/-- The document of a text, if the text holds one. -/
def Node.read (s : Text) : Except Fault (Option Node) :=
  match tokens s with
  | .error f => .error f
  | .ok ts =>
    match (Reader.document (4 * ts.length + 8)).run ⟨ts, [], []⟩ with
    | some (n, _) => .ok n
    | none => .error .malformed

end Synopsis.Yaml
