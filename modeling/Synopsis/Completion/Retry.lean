import Synopsis.Completion.Message

namespace Synopsis

structure RetryPolicy where
  maxRetries : Nat
  maxBackoff : Number
  minDelay : Number
  statuses : List Nat

namespace RetryPolicy

def standard : RetryPolicy where
  maxRetries := 3
  maxBackoff := .real 16.0
  minDelay := .real 0.5
  statuses := [408, 409, 425, 429, 500, 502, 503, 504]

/-- The waiting time after an attempt, counted from zero. What the service asks for is added, if it
is a number. -/
def delay (p : RetryPolicy) (jitter : Number) (attempt : Int) (retryAfter : Option Text) :
    Except WireFault Number :=
  let wait := ((Number.twoToThe attempt).least p.maxBackoff).times? jitter
  let wait :=
    match retryAfter.bind readFloat? with
    | some more => wait.bind fun w => w.plus? (.real more)
    | none => wait
  match wait with
  | some w => .ok (p.minDelay.greatest w)
  | none => .error .overflow

/-- How long to wait before the request is repeated, if it is worth repeating. -/
def pause? (p : RetryPolicy) (jitter : Number) (attempt : Nat) :
    Exchange → Option (Except WireFault Number)
  | .fault _ => some (p.delay jitter attempt none)
  | .response r =>
    if r.status ∈ p.statuses then some (p.delay jitter attempt (r.header? "Retry-After")) else none
  | .accident _ => none

/-- The pauses between the requests, and the exchange that settles the matter. Each exchange is
told by its number. -/
def settle (p : RetryPolicy) (jitter : Number) (exchange : Nat → Exchange) :
    (left attempt : Nat) → List Number × Exchange
  | 0, attempt => ([], exchange attempt)
  | left + 1, attempt =>
    match p.pause? jitter attempt (exchange attempt) with
    | none => ([], exchange attempt)
    | some (.error f) => ([], .accident f)
    | some (.ok pause) =>
      let (pauses, last) := settle p jitter exchange left (attempt + 1)
      (pause :: pauses, last)

end RetryPolicy

end Synopsis
