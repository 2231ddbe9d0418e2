import Synopsis.Text.Blank
import Synopsis.Text.Charset.Basic
import Synopsis.Transfer.Wrapped

namespace Synopsis.Transfer

/-- Cuts at semicolons that do not stand between double quotes. `quotes` tells whether the number of
quotes so far is odd, `escaped` whether a backslash stands just before. -/
def parameters (quotes escaped : Bool) : List Rune → List (List Rune)
  | [] => [[]]
  | c :: r =>
    if c = ';' ∧ !quotes then [] :: parameters false false r
    else
      match parameters (if c = '"' ∧ !escaped then !quotes else quotes) (c = '\\') r with
      | part :: rest => (c :: part) :: rest
      | [] => [[c]]

/-- The name and the value of a parameter; without an equals sign it has no value. -/
def parameter (cs : List Rune) : Text × Text :=
  let trimmed (cs : List Rune) : Text := Text.trim (.ofList cs)
  match cs.dropWhile (· ≠ ('=' : Rune)) with
  | [] => ((trimmed cs).map Rune.toLower, "")
  | _ :: value => ((trimmed (cs.takeWhile (· ≠ ('=' : Rune)))).map Rune.toLower, trimmed value)

/-- Takes backslashes away that stand before a backslash, or before a double quote. -/
def withoutEscapes (escaped : Rune) : List Rune → List Rune
  | '\\' :: c :: r =>
    if c = escaped then c :: withoutEscapes escaped r
    else '\\' :: withoutEscapes escaped (c :: r)
  | c :: r => c :: withoutEscapes escaped r
  | [] => []

/-- A value without the quotes or angles around it. -/
def unquoted (s : Text) : Text :=
  let cs := s.toList
  let inside := (cs.drop 1).dropLast
  if cs.length < 2 then s
  else if cs.head? = some (.char '"') ∧ cs.getLast? = some (.char '"') then
    .ofList (withoutEscapes '"' (withoutEscapes '\\' inside))
  else if cs.head? = some (.char '<') ∧ cs.getLast? = some (.char '>') then .ofList inside
  else s

/-- The charset that a content type names, if it is a known one. -/
def charset? (contentType : Text) : Option Text.Charset :=
  let given := (parameters false false contentType.toList).map parameter
  (given.lookup ("charset" : Text)).bind fun value => Text.Charset.ofName? (unquoted value)

/-- Undoes one way of compressing. Unknown ways count as none. -/
def decompressed? (coding : Text) (bytes : List UInt8) : Option (List UInt8) :=
  if coding = "gzip" then gunzip? bytes
  else if coding = "deflate" then (unwrap? bytes).or (inflate? bytes)
  else some bytes

/-- What a body was before it was compressed in the ways that are told, the last one first. -/
def decodedBody? (contentEncoding : Text) (bytes : List UInt8) : Option (List UInt8) :=
  let codings := (Text.splitChars ',' contentEncoding.toList).map fun cs =>
    (Text.trim (.ofList cs)).map Rune.toLower
  codings.reverse.foldlM (fun bytes coding => decompressed? coding bytes) bytes

end Synopsis.Transfer
