import Synopsis.Completion.Retry
import Synopsis.Event
import Synopsis.Host
import Synopsis.Text.Blank
import Synopsis.Tree.Basic

namespace Synopsis

/-- The requests of a client go to its `address`, which lies below the base. -/
structure Client where
  apiKey : Text
  baseUrl : Text
  address : Address
  referer : Option Text
  title : Option Text
  policy : RetryPolicy

/-- The way to the service: what the exchanges come to, one after the other, how many there were,
and the factor by which waiting times are varied. -/
structure Wire where
  exchange : Nat → Exchange
  sent : Nat
  jitter : Number

/-- Why no key can be looked up. -/
inductive KeyFault where
  | home (f : HomeFault)
  | encoding (f : Utf8.Fault)
  deriving DecidableEq

def KeyFault.message : KeyFault → Text
  | .home f => f.message
  | .encoding f => f.message

namespace Client

def standardUrl : Text := "https://openrouter.ai/api/v1"

def withoutSlashes (s : Text) : Text :=
  .ofList ((s.toList.reverse.dropWhile (· = ('/' : Rune))).reverse)

def keyHeader : Text := "Authorization"

/-- What a client tells of itself. -/
def ownHeaders (c : Client) : List (Text × Text) :=
  let given (name : Text) (value : Option Text) : List (Text × Text) :=
    ((value.filter (· ≠ ("" : Text))).map fun v => (name, v)).toList
  (keyHeader, "Bearer " ++ c.apiKey) :: given "HTTP-Referer" c.referer ++ given "X-Title" c.title

/-- A client needs a key and an address, and headers in ASCII. -/
def create (apiKey baseUrl : Text) (referer title : Option Text) (maxRetries : Int) :
    Except CompletionError Client :=
  if apiKey = "" then .error .keyEmpty
  else
    let base := withoutSlashes baseUrl
    match (Address.ofText base).bind fun a => a.append ("chat/completions" : Text).toList with
    | .error f => .error (.accident (.address f))
    | .ok address =>
      let policy := { RetryPolicy.standard with maxRetries := maxRetries.toNat }
      let c : Client := ⟨apiKey, base, address, referer, title, policy⟩
      match c.ownHeaders.findSome? fun e => Text.Encoding.ascii.fault? e.2 with
      | some f => .error (.accident (.header f))
      | none => .ok c

/-- Credentials in the address go before the key. -/
def headers (c : Client) : List (Text × Text) :=
  match c.address.credentials? with
  | some word => Keyed.set c.ownHeaders keyHeader word
  | none => c.ownHeaders

def webRequest (c : Client) (r : ChatRequest) : WebRequest :=
  ⟨c.address.text, c.headers, r.payload⟩

/-- A response that leads elsewhere counts as it is, but it has to name an address to go to. -/
def checkTarget (c : Client) (r : Response) : Exchange :=
  match if r.status ∈ [301, 302, 303, 307, 308] then r.header? "Location" else none with
  | none => .response r
  | some location =>
    match Address.ofText location with
    | .error _ => .fault false
    | .ok next =>
      match c.address.leadsTo next with
      | .error f => .accident (.address f)
      | .ok () => .response r

/-- What a client makes of an exchange. The headers of a response have to be in ASCII, and its body
is decompressed. -/
def receive (c : Client) : Exchange → Exchange
  | .response r =>
    match (r.headers.flatMap fun e => [e.1, e.2]).findSome? Text.Encoding.ascii.fault? with
    | some f => .accident (.header f)
    | none =>
      match Transfer.decodedBody? ((r.header? "Content-Encoding").getD "") r.body with
      | none => .fault false
      | some body =>
        if c.address.hasScheme then c.checkTarget { r with body }
        else .accident (.noScheme c.address.named)
  | e => e

/-- Sends a request, and sends it again as long as that is worth it. -/
def complete (c : Client) (r : ChatRequest) (w : Wire) :
    Except CompletionError Completion × List Event × Wire :=
  let request := c.webRequest r
  if !request.isSendable then (.error (.accident .unsendable), [], w)
  else
    let (pauses, last) :=
      c.policy.settle w.jitter (fun n => c.receive (w.exchange (w.sent + n))) c.policy.maxRetries 0
    (last.completion, .posted request :: pauses.flatMap fun s => [.slept s, .posted request],
      { w with sent := w.sent + pauses.length + 1 })

def keyPath : Path := ⟨.relative, ["~", ".config", "openrouter", "key"]⟩

/-- The key from the environment, or else from its file. A blank key is none. -/
def lookUpKey (h : Host) (t : Tree) : Except KeyFault (Option Text) :=
  let given (s : Text) : Option Text := if Text.isBlank s then none else some (Text.trim s)
  match h.apiKey.bind given with
  | some key => .ok (some key)
  | none =>
    match h.expand keyPath with
    | .error f => .error (.home f)
    | .ok path =>
      match t.readText path with
      | .ok text => .ok (given text)
      | .error (.file _) => .ok none
      | .error (.encoding f) => .error (.encoding f)

/-- Why no client can be made. -/
inductive SetupFault where
  | key (f : KeyFault)
  | completion (e : CompletionError)
  deriving DecidableEq

/-- The client that the environment describes. -/
def ofHost (h : Host) (t : Tree) : Except SetupFault Client :=
  match lookUpKey h t with
  | .error f => .error (.key f)
  | .ok none => .error (.completion .keyMissing)
  | .ok (some key) =>
    (create key (h.apiBase.getD standardUrl) none (some (h.apiTitle.getD "autosummary")) 3).mapError
      .completion

end Client

end Synopsis
