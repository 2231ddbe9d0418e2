import Synopsis.Index.Basic
import Synopsis.Json.Quoted
import Synopsis.Json.Reader

namespace Synopsis.Index

/-- What is wrong with a document. -/
inductive Flaw where
  | notObject
  | entryNotObject (key : Text)
  | noPath (key : Text)
  | noSummary (key : Text)
  | otherPath (key path : Text)
  deriving DecidableEq

def Flaw.message : Flaw → Text
  | .notObject => "top-level value must be a JSON object"
  | .entryNotObject key => "entry for '" ++ key ++ "' must be an object"
  | .noPath key => "entry for '" ++ key ++ "' has no string 'filePath'"
  | .noSummary key => "entry for '" ++ key ++ "' has no string 'summary'"
  | .otherPath key path => "entry key '" ++ key ++ "' does not match filePath '" ++ path ++ "'"

def entryOf (key : Text) (value : Json) : Except Flaw Entry :=
  match value with
  | .obj _ =>
    match (value.field? "filePath").bind Json.str?, (value.field? "summary").bind Json.str? with
    | none, _ => .error (.noPath key)
    | some _, none => .error (.noSummary key)
    | some path, some summary =>
      if path = key then .ok ⟨path, summary⟩ else .error (.otherPath key path)
  | _ => .error (.entryNotObject key)

def ofFields : List (Text × Json) → Except Flaw Index
  | [] => .ok []
  | (key, value) :: r =>
    match entryOf key value with
    | .error f => .error f
    | .ok e =>
      match ofFields r with
      | .error f => .error f
      | .ok index => .ok ((key, e) :: index)

def ofJson : Json → Except Flaw Index
  | .obj fields => ofFields fields
  | _ => .error .notObject

/-- The summaries of a document by path: each path once, with its last summary. -/
def summaries (entries : List Entry) : Keyed Text :=
  entries.foldl (fun m e => Keyed.set m e.path e.summary) []

def entryText (e : Text × Text) : Text :=
  let path := Json.quotedText e.1
  "  " ++ path ++ ": \x7b\n    \"filePath\": " ++ path ++ ",\n    \"summary\": " ++
    Json.quotedText e.2 ++ "\n  \x7d"

def documentText (entries : List Entry) : Text :=
  match summaries entries with
  | [] => "\x7b\x7d\n"
  | all => "\x7b\n" ++ Text.intercalate ",\n" (all.map entryText) ++ "\n\x7d\n"

end Synopsis.Index
