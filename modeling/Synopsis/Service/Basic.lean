import Synopsis.Service.Session

namespace Synopsis

/-- A service has its index at a fixed place. -/
structure Service (α σ : Type) where
  host : Host
  settings : Settings
  index : Path
  supply : Supply α σ

namespace Service

variable {α σ : Type}

def create (h : Host) (settings : Settings) (supply : Supply α σ) :
    Except HomeFault (Service α σ) :=
  (settings.index h).map fun index => ⟨h, settings, index, supply⟩

def isSupported (sv : Service α σ) (path : Text) : Bool :=
  Path.extension path ∈ sv.settings.extensions

/-- Whether summaries of such files are kept out of the files. -/
def isExcluded (sv : Service α σ) (path : Text) : Bool :=
  Path.extension path ∈ sv.settings.exclusions

/-- How summaries are written into a file, if they are. -/
def embedding? (sv : Service α σ) (path : Text) : Option Dialect :=
  if sv.isExcluded path then none else Dialect.ofExtension? (Path.extension path)

/-- The summary that the index already has, for a file that is to hold none. -/
def reusable? (sv : Service α σ) (known : Index) (path : Text) : Option Text :=
  if sv.isExcluded path then known.summary? path else none

/-- The summary that a file already holds, unless a new one is wanted in any case. -/
def embedded? (sv : Service α σ) (path : Text) (source : Source) : Option Text :=
  if sv.settings.force then none
  else (Dialect.ofExtension? (Path.extension path)).bind fun d => source.summary? d

/-- Where a file lies: a relative path starts from the root. -/
def place (sv : Service α σ) (path : Text) : Except HomeFault Path := do
  let p ← sv.host.expand (.ofText path)
  if p.isAbsolute then return p
  return (← sv.host.expand sv.settings.root) / p

/-- The file that a path stands for, and its text. -/
def read (sv : Service α σ) (t : Tree) (path : Text) : Except Failure (Path × Source) :=
  match sv.place path with
  | .error f => .error (.home f)
  | .ok file =>
    match t.readExact file with
    | .error (.file (.of (.unnameable why) _)) => .error (.unnameable why)
    | .error f => .error (.unreadable path f)
    | .ok raw => .ok (file, .ofText raw)

/-- Writes a file back; a failure is told under the path that was asked for. -/
def write (path : Text) (file : Path) (source : Source) (s : Session α σ) :
    Except Failure Unit × Session α σ :=
  match s.tree.replaceText file source.text with
  | (.ok (), tree) => (.ok (), { s with tree })
  | (.error (.file f), tree) => (.error (.unwritable path f), { s with tree })
  | (.error (.encoding f), tree) => (.error (.unencodable f), { s with tree })

/-- The summarizer in hand, or a new one. -/
def summon (sv : Service α σ) (s : Session α σ) : Except Failure α × Session α σ :=
  match s.holding with
  | .lent a => (.ok a, s)
  | .own a => (.ok a, s)
  | .none =>
    match sv.supply.build sv.settings s.tree s.outside with
    | (.error f, outside) => (.error (.unbuilt f), { s with outside })
    | (.ok a, outside) => (.ok a, { s.record [.built] with outside, holding := .own a })

/-- Asks for a summary. -/
def generate (sv : Service α σ) (path : Text) (source : Source) (s : Session α σ) :
    Except Failure Text × Session α σ :=
  match sv.summon s with
  | (.error f, s) => (.error f, s)
  | (.ok a, s) =>
    let (answer, outside) := sv.supply.ask a path source.content s.outside
    let s := { s.record (.asked path source.content :: answer.events) with outside }
    match answer.outcome with
    | .ok summary => (.ok summary, s)
    | .error (.accident f) => (.error (.accident f), s)
    | .error f => (.error (.unanswered path f), s)

/-- Finds or makes the summary of a file. `known` is the index so far. -/
def annotate (sv : Service α σ) (known : Index) (path : Text) (s : Session α σ) :
    Except Failure Annotation × Session α σ :=
  if !sv.isSupported path then (.ok ⟨path, .skipped⟩, s.note (.unsupported path))
  else
    match sv.reusable? known path with
    | some summary => (.ok ⟨path, .cached summary⟩, s.note (.indexReused path))
    | none =>
      match sv.read s.tree path with
      | .error f => (.error f, s)
      | .ok (file, source) =>
        match sv.embedded? path source with
        | some summary => (.ok ⟨path, .embedded summary⟩, s.note (.blockReused path))
        | none =>
          match sv.generate path source s with
          | (.error f, s) => (.error f, s)
          | (.ok summary, s) =>
            match sv.embedding? path with
            | none => (.ok ⟨path, .generated summary⟩, s.note (.indexedOnly path))
            | some d =>
              match write path file (source.annotate d summary) s with
              | (.error f, s) => (.error f, s)
              | (.ok (), s) => (.ok ⟨path, .generated summary⟩, s.note (.embedded path))

/-- Takes the summary out of a file, and says whether there was one. -/
def strip (sv : Service α σ) (path : Text) (s : Session α σ) :
    Except Failure Bool × Session α σ :=
  match Dialect.ofExtension? (Path.extension path) with
  | none => (.ok false, s)
  | some d =>
    match sv.read s.tree path with
    | .error f => (.error f, s)
    | .ok (file, source) =>
      match source.strip? d with
      | none => (.ok false, s)
      | some stripped =>
        match write path file stripped s with
        | (.error f, s) => (.error f, s)
        | (.ok (), s) => (.ok true, s.note (.removed path))

end Service

end Synopsis
