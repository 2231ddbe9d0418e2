import Synopsis.Completion.Client
import Synopsis.Prompt.Basic
import Synopsis.Settings.Basic

namespace Synopsis

/-- Why there is no summary for a file. -/
inductive OracleFault where
  | requestFailed (e : CompletionError)
  | noContent
  | declined (words : Text)
  | accident (f : WireFault)
  deriving DecidableEq

def OracleFault.message : OracleFault → Text
  | .requestFailed e => "Summary request failed: " ++ e.message
  | .noContent => "Summary request returned no content"
  | .declined words => words
  | .accident f => f.message

/-- How to ask for summaries: the instruction, and the parameters of every request. -/
structure Summarizer where
  instruction : Text
  model : Text
  temperature : Number
  maxTokens : Option Int
  seed : Option Int

namespace Summarizer

def ofSettings (s : Settings) (instruction : Text) : Summarizer :=
  ⟨instruction, s.model, s.temperature, s.maxTokens, s.seed⟩

def question (content : Text) : Text :=
  "Summarize the following file:\n\n```\n" ++ content ++ "\n```"

def chatMessage (role content : Text) : Json :=
  .obj [("role", .str role), ("content", .str content)]

def request (s : Summarizer) (content : Text) : ChatRequest where
  model := s.model
  messages := [chatMessage "system" s.instruction, chatMessage "user" (question content)]
  temperature := s.temperature
  maxTokens := s.maxTokens
  seed := s.seed
  extra := []

/-- The summary in an answer. -/
def summaryOf : Except CompletionError Completion → Except OracleFault Text
  | .error (.accident f) => .error (.accident f)
  | .error e => .error (.requestFailed e)
  | .ok c =>
    let summary := Text.trim c.content
    if summary = "" then .error .noContent else .ok summary

end Summarizer

/-- What came of asking for a summary, and what happened on the way. -/
structure Answer where
  outcome : Except OracleFault Text
  events : List Event

/-- The answer to a chat request that was answered as given. -/
def Answer.ofChat (r : ChatRequest) (reply : Except CompletionError Completion)
    (events : List Event) : Answer :=
  let outcome := Summarizer.summaryOf reply
  let note := match outcome with
    | .ok _ => [Event.noted .answered]
    | .error _ => []
  ⟨outcome, .requested r :: events ++ note⟩

/-- Why no summarizer could be built. -/
inductive BuildFault where
  | none
  | prompt (f : PromptFault)
  | setup (f : Client.SetupFault)
  deriving DecidableEq

/-- Where summarizers come from. A summarizer of type `α` is built when it is first needed, and
asked with the state `σ` of the world outside. -/
structure Supply (α σ : Type) where
  build : Settings → Tree → σ → Except BuildFault α × σ
  ask : α → (path content : Text) → σ → Answer × σ

namespace Supply

/-- Summarizers over the completion service that the environment describes. -/
def online (h : Host) : Supply (Summarizer × Client) Wire where
  build s t w :=
    let own := s.root / Path.mk .relative [".autosummary", "prompts"]
    match Prompt.directories h (some own) [] with
    | .error f => (.error (.prompt (.home f)), w)
    | .ok dirs =>
      match Prompt.load h t dirs s.prompt with
      | .error f => (.error (.prompt f), w)
      | .ok prompt =>
        match Client.ofHost h t with
        | .error f => (.error (.setup f), w)
        | .ok client => (.ok (Summarizer.ofSettings s prompt.content, client), w)
  ask := fun (s, c) _ content w =>
    let r := s.request content
    let (reply, events, w) := c.complete r w
    (.ofChat r reply events, w)

end Supply

end Synopsis
