import Synopsis.Json.Token

namespace Synopsis.Json

/-- An open array with its items so far, backwards, or an open object with its fields so far and
the key whose value is being read. -/
inductive Frame where
  | items (seen : List Json)
  | fields (seen : Keyed Json) (key : Text)

/-- Why a text holds no value that can be read. -/
inductive Fault where
  | malformed
  | overlong (digits : Nat)
  | tooDeep (inObject : Bool)
  deriving DecidableEq

def Fault.message : Fault → Text
  | malformed => "not a single value"
  | overlong digits => (IntFault.tooLong digits).message
  | tooDeep inObject =>
    "maximum recursion depth exceeded while decoding a JSON " ++
      (if inObject then "object" else "array") ++ " from a unicode string"

/-- How many arrays and objects may be open at once. -/
def depthLimit : Nat := 980

inductive Focus where
  | value
  | firstItem
  | key (seen : Keyed Json) (first : Bool)
  | colon (seen : Keyed Json) (key : Text)
  | whole (v : Json)

def startValue (stack : List Frame) : Token → Except Fault (List Frame × Focus)
  | .text s => .ok (stack, .whole (.str s))
  | .atom v => .ok (stack, .whole v)
  | .overlong digits => .error (.overlong digits)
  | .openArray =>
    if depthLimit ≤ stack.length then .error (.tooDeep false)
    else .ok (.items [] :: stack, .firstItem)
  | .openObject =>
    if depthLimit ≤ stack.length then .error (.tooDeep true) else .ok (stack, .key [] true)
  | _ => .error .malformed

/-- One step of the machine. Of a key that an object repeats the last value counts, at the place of
the first. -/
def step : List Frame → Focus → Token → Except Fault (List Frame × Focus)
  | .items [] :: stack, .firstItem, .closeArray => .ok (stack, .whole (.arr []))
  | stack, .firstItem, t => startValue stack t
  | stack, .value, t => startValue stack t
  | stack, .key seen _, .text s => .ok (stack, .colon seen s)
  | stack, .key seen true, .closeObject => .ok (stack, .whole (.obj seen))
  | stack, .colon seen key, .colon => .ok (.fields seen key :: stack, .value)
  | .items seen :: stack, .whole v, .comma => .ok (.items (v :: seen) :: stack, .value)
  | .items seen :: stack, .whole v, .closeArray => .ok (stack, .whole (.arr (v :: seen).reverse))
  | .fields seen key :: stack, .whole v, .comma =>
    .ok (stack, .key (Keyed.set seen key v) false)
  | .fields seen key :: stack, .whole v, .closeObject =>
    .ok (stack, .whole (.obj (Keyed.set seen key v)))
  | _, _, _ => .error .malformed

def run : List Frame → Focus → List Token → Except Fault (List Frame × Focus)
  | stack, focus, [] => .ok (stack, focus)
  | stack, focus, t :: r =>
    match step stack focus t with
    | .error f => .error f
    | .ok (stack, focus) => run stack focus r

def ofTokens (ts : List Token) : Except Fault Json :=
  match run [] .value ts with
  | .ok ([], .whole v) => .ok v
  | .ok _ => .error .malformed
  | .error f => .error f

/-- The value that a text holds, with nothing but blanks around it. -/
def read (s : Text) : Except Fault Json := ofTokens (scan .between s.toList)

end Synopsis.Json
