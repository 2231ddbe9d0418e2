import Synopsis.Address.Basic
import Synopsis.Json.Reader
import Synopsis.Number
import Synopsis.Text.Encoding
import Synopsis.Transfer.Media

namespace Synopsis

structure ChatRequest where
  model : Text
  messages : List Json
  temperature : Number
  maxTokens : Option Int
  seed : Option Int
  extra : List (Text × Json)

/-- Limits that are not given are not sent; extra fields replace others of the same name. -/
def ChatRequest.payload (r : ChatRequest) : Json :=
  let limit (name : Text) (n : Option Int) : List (Text × Json) :=
    (n.map fun n => (name, Json.int n)).toList
  let own : List (Text × Json) := [("model", .str r.model), ("messages", .arr r.messages),
    ("temperature", r.temperature.toJson)]
  let sent := own ++ limit "max_tokens" r.maxTokens ++ limit "seed" r.seed
  .obj (r.extra.foldl (fun fields e => Keyed.set fields e.1 e.2) sent)

structure WebRequest where
  url : Text
  headers : List (Text × Text)
  payload : Json

/-- Whether a payload can be sent: JSON has no numbers that are infinite or undefined. -/
def WebRequest.isSendable (r : WebRequest) : Bool := r.payload.isFinite

structure Response where
  status : Nat
  headers : List (Text × Text)
  body : List UInt8
  deriving DecidableEq

/-- The names of headers are the same in any case of letters. Several headers of one name count as
one, with commas between their values. -/
def Response.header? (r : Response) (name : Text) : Option Text :=
  let lower (s : Text) : List Rune := s.toList.map Rune.toLower
  match r.headers.filter fun e => lower e.1 = lower name with
  | [] => none
  | found => some (Text.intercalate ", " (found.map Prod.snd))

/-- The value that the body holds, in units of any width. -/
def Response.json (r : Response) : Except Json.Fault Json :=
  let (units, bytes) := Text.Units.detect r.body
  match units.read? bytes with
  | some text => Json.read text
  | none => .error .malformed

/-- What a client does not expect to happen on the way to a service and back. -/
inductive WireFault where
  | address (f : AddressFault)
  | noScheme (url : Text)
  | header (f : Text.EncodingFault)
  | unsendable
  | overflow
  | excessive (f : Json.Fault)
  | charset (f : Text.Charset.Fault)
  deriving DecidableEq

def WireFault.message : WireFault → Text
  | .address f => f.message
  | .noScheme url => "unknown url type: " ++ Text.quoted url
  | .header f => f.message
  | .unsendable => "Out of range float values are not JSON compliant"
  | .overflow => "int too large to convert to float"
  | .excessive f => f.message
  | .charset f => f.message

/-- What comes of sending a request: a response, or no connection, or an accident. -/
inductive Exchange where
  | response (r : Response)
  | fault (timedOut : Bool)
  | accident (f : WireFault)
  deriving DecidableEq

structure Completion where
  content : Text
  usage : List (Text × Json)
  finishReason : Option Text

/-- The families of errors that a completion service can give rise to. -/
inductive CompletionFamily where
  | authentication
  | rateLimit
  | transient
  | configuration
  | other
  deriving DecidableEq

/-- Why there is no completion. A `detail` is in the words of the service, and so is what is
`reported`; an accident is of no family. -/
inductive CompletionError where
  | keyMissing
  | keyEmpty
  | keyRejected
  | accessDenied
  | rateLimited (detail : Option Text)
  | serverFailed (status : Nat) (detail : Option Text)
  | refused (status : Nat) (detail : Option Text)
  | timedOut
  | unreachable
  | notJson
  | notObject
  | noChoices
  | noText
  | reported (family : CompletionFamily) (words : Text)
  | accident (f : WireFault)
  deriving DecidableEq

namespace CompletionError

def family? : CompletionError → Option CompletionFamily
  | keyMissing | keyEmpty | keyRejected | accessDenied => some .authentication
  | rateLimited _ => some .rateLimit
  | serverFailed .. | timedOut | unreachable => some .transient
  | refused .. => some .other
  | notJson | notObject | noChoices | noText => some .configuration
  | reported f _ => some f
  | accident _ => none

def message : CompletionError → Text
  | keyMissing =>
    "OpenRouter API key not found. Set OPENROUTER_API_KEY or place a key in " ++
      "~/.config/openrouter/key."
  | keyEmpty => "OpenRouter API key is required"
  | keyRejected => "OpenRouter rejected the API key (401)"
  | accessDenied => "OpenRouter denied access (403)"
  | rateLimited detail => detail.getD "OpenRouter rate limit exceeded (429)"
  | serverFailed status detail =>
    detail.getD ("OpenRouter server error (" ++ toString status ++ ")")
  | refused status detail => detail.getD ("OpenRouter request failed (" ++ toString status ++ ")")
  | timedOut => "OpenRouter request timed out after retries"
  | unreachable => "OpenRouter request failed after retries"
  | notJson => "OpenRouter returned a non-JSON response"
  | notObject => "OpenRouter response was not a JSON object"
  | noChoices => "OpenRouter chat response missing choices"
  | noText => "OpenRouter chat response missing text content"
  | reported _ words => words
  | accident f => f.message

end CompletionError

namespace Response

/-- The whole body as text, in the charset that its type names. -/
def text (r : Response) : Except WireFault Text :=
  if r.body = [] then .ok ""
  else
    let named := (r.header? "Content-Type").bind Transfer.charset?
    ((named.getD .utf8).read r.body).mapError .charset

/-- The words of an error response: its error message, or else the whole body. Words that say
nothing do not count. -/
def detail (r : Response) : Except WireFault (Option Text) :=
  let said (words : Json) : Option Text := if words.isVoid then none else some words.message
  match r.json with
  | .error (.tooDeep inObject) => .error (.excessive (.tooDeep inObject))
  | .error _ => r.text.map fun whole => said (.str whole)
  | .ok body =>
    match body.field? "error" with
    | some (.obj fields) => .ok (said ((Keyed.get? fields "message").getD .null))
    | _ => r.text.map fun whole => said (.str whole)

/-- The completion in the body of a response. -/
def completionOfBody (r : Response) : Except CompletionError Completion :=
  match r.json with
  | .error (.tooDeep inObject) => .error (.accident (.excessive (.tooDeep inObject)))
  | .error _ => .error .notJson
  | .ok (.obj fields) =>
    match Keyed.get? fields "choices" with
    | some (.arr (.obj choice :: _)) =>
      match ((Keyed.get? choice "message").bind fun m => m.field? "content").bind Json.str? with
      | some content =>
        let usage := match Keyed.get? fields "usage" with
          | some (.obj usage) => usage
          | _ => []
        .ok ⟨content, usage, (Keyed.get? choice "finish_reason").bind Json.str?⟩
      | none => .error .noText
    | _ => .error .noChoices
  | .ok _ => .error .notObject

/-- The error that a response of a failed request stands for. -/
def failure (r : Response) : CompletionError :=
  match r.detail with
  | .error f => .accident f
  | .ok detail =>
    if r.status = 429 then .rateLimited detail
    else if r.status ≥ 500 then .serverFailed r.status detail
    else .refused r.status detail

def completion (r : Response) : Except CompletionError Completion :=
  if r.status = 401 then .error .keyRejected
  else if r.status = 403 then .error .accessDenied
  else if r.status < 400 then r.completionOfBody
  else .error r.failure

end Response

def Exchange.completion : Exchange → Except CompletionError Completion
  | .response r => r.completion
  | .fault true => .error .timedOut
  | .fault false => .error .unreachable
  | .accident f => .error (.accident f)

end Synopsis
