import Synopsis.Address.Escape
import Synopsis.Address.Label
import Synopsis.Address.Numeric
import Synopsis.Text.Base64

namespace Synopsis

/-- The host is without the brackets around groups. -/
structure Address where
  scheme : List Rune
  user : List Rune
  host : List Rune
  socket : Option Int
  path : List Rune
  query : Option (List Rune)
  fragment : Option (List Rune)
  deriving DecidableEq

/-- Why a text is no address. A `part` is named if it is wrong by itself. -/
inductive AddressFault where
  | tooLong (part : Option Text)
  | unprintable (part : Option Text) (c : Rune) (position : Nat)
  | badQuad (host : Text)
  | badGroups (host : Text)
  | badName (host : Text)
  | badSocket (given : Text)
  | pathNotRooted
  | pathDoubleSlash
  | pathColon
  deriving DecidableEq

def AddressFault.message : AddressFault → Text
  | .tooLong none => "URL too long"
  | .tooLong (some part) => "URL component '" ++ part ++ "' too long"
  | .unprintable part c position =>
    "Invalid non-printable ASCII character in URL" ++
      ((part.map fun p : Text => " " ++ p ++ " component").getD "") ++ ", " ++
      Text.quoted (.ofList [c]) ++ " at position " ++ toString position ++ "."
  | .badQuad host => "Invalid IPv4 address: " ++ Text.quoted host
  | .badGroups host => "Invalid IPv6 address: " ++ Text.quoted host
  | .badName host => "Invalid IDNA hostname: " ++ Text.quoted host
  | .badSocket given => "Invalid port: " ++ Text.quoted given
  | .pathNotRooted => "For absolute URLs, path must be empty or begin with '/'"
  | .pathDoubleSlash => "Relative URLs cannot have a path starting with '//'"
  | .pathColon => "Relative URLs cannot have a path starting with ':'"

namespace Address

def sizeLimit : Nat := 65536

/-- Refuses a text that is too long or holds control characters of ASCII. -/
def vet (part : Option Text) (cs : List Rune) : Except AddressFault Unit :=
  let isControl (c : Rune) : Bool := c.toNat < 0x20 || c.toNat == 0x7F
  if sizeLimit < cs.length then .error (.tooLong part)
  else
    match cs.dropWhile fun c => !isControl c with
    | [] => .ok ()
    | c :: _ => .error (.unprintable part c (cs.takeWhile fun c => !isControl c).length)

/-- The text before the first of some marks, and the text behind it if the mark is there. -/
def cutAt (mark : Rune) (cs : List Rune) : List Rune × Option (List Rune) :=
  match cs.dropWhile (· ≠ mark) with
  | [] => (cs, none)
  | _ :: r => (cs.takeWhile (· ≠ mark), some r)

def isSchemeChar (c : Rune) : Bool := c.isAlphanum || c ∈ ("+.-" : Text).toList

/-- Takes the scheme off the front. It may be empty. -/
def takeScheme (cs : List Rune) : List Rune × List Rune :=
  match cutAt ':' cs with
  | (scheme, some rest) =>
    if scheme.all isSchemeChar ∧ (scheme.head?.all Rune.isAlpha) then (scheme, rest) else ([], cs)
  | _ => ([], cs)

/-- Takes the part between two slashes and the path off the front. -/
def takeAuthority : List Rune → List Rune × List Rune
  | '/' :: '/' :: r => (r.takeWhile (· ≠ ('/' : Rune)), r.dropWhile (· ≠ ('/' : Rune)))
  | cs => ([], cs)

/-- The user before the last `@`, and what follows. -/
def takeUser (cs : List Rune) : List Rune × List Rune :=
  match cutAt '@' cs.reverse with
  | (after, some before) => (before.reverse, after.reverse)
  | (_, none) => ([], cs)

/-- A host in brackets may hold colons; any other ends at the first one. -/
def takeHost (cs : List Rune) : List Rune × List Rune :=
  match cs.head?, cutAt ']' cs.reverse with
  | some (.char '['), (after, some inside) => (inside.reverse ++ [(']' : Rune)], after.reverse)
  | _, _ => (cs.takeWhile (· ≠ (':' : Rune)), cs.dropWhile (· ≠ (':' : Rune)))

def isBracketed (host : List Rune) : Bool :=
  host.head? = some (.char '[') && host.getLast? = some (.char ']')

def usualHost (host : List Rune) : Except AddressFault (List Rune) :=
  let given := Text.ofList host
  if host = [] then .ok []
  else if looksLikeQuad host then if isQuad host then .ok host else .error (.badQuad given)
  else if isBracketed host then
    let inside := (host.drop 1).dropLast
    if isGroupHost inside then .ok inside else .error (.badGroups given)
  else if host.all fun c => c.toNat < 0x80 then
    .ok (escape isHostChar (host.map Rune.toLower))
  else
    match asciiName? (Text.lower host) with
    | some name => .ok name
    | none => .error (.badName given)

/-- The socket number that a scheme implies. -/
def impliedSocket (scheme : List Rune) : Option Int :=
  let known : List (Text × Int) :=
    [("ftp", 21), ("http", 80), ("https", 443), ("ws", 80), ("wss", 443)]
  known.lookup (.ofList scheme)

/-- The number behind a host, unless the scheme implies it. The colon may be missing behind
brackets. -/
def usualSocket (scheme cs : List Rune) : Except AddressFault (Option Int) :=
  let given := Text.ofList (if cs.head? = some (.char ':') then cs.drop 1 else cs)
  if given = "" then .ok none
  else
    match readInt given with
    | .ok n => .ok (if impliedSocket scheme = some n then none else some n)
    | .error _ => .error (.badSocket given)

/-- A part that leads up takes the part before it away. -/
def resolve (parts : List (List Rune)) : List (List Rune) :=
  let step (done : List (List Rune)) (part : List Rune) : List (List Rune) :=
    if part = ("." : Text).toList then done
    else if part = (".." : Text).toList then if done = [[]] then done else done.tail
    else part :: done
  (parts.foldl step []).reverse

def checkPath (hasScheme hasAuthority : Bool) (path : List Rune) : Except AddressFault Unit :=
  if hasAuthority && path ≠ [] && path.head? ≠ some (.char '/') then .error .pathNotRooted
  else if !hasScheme && !hasAuthority && path.take 2 = ("//" : Text).toList then
    .error .pathDoubleSlash
  else if !hasScheme && !hasAuthority && path.head? = some (.char ':') then .error .pathColon
  else .ok ()

/-- The usual form of an address that is given by its parts. -/
def ofParts (scheme authority path : List Rune) (query fragment : Option (List Rune)) :
    Except AddressFault Address := do
  let (user, place) := takeUser authority
  let (host, socket) := takeHost place
  let user := escape isUserChar user
  let host ← usualHost host
  let socket ← usualSocket scheme socket
  let hasAuthority := user ≠ [] || host ≠ [] || socket.isSome
  checkPath (scheme ≠ []) hasAuthority path
  let path := if scheme ≠ [] ∨ hasAuthority then
      Text.joinChars '/' (resolve (Text.splitChars '/' path))
    else path
  return {
    scheme := scheme.map Rune.toLower
    user, host, socket
    path := escape isPathChar path
    query := query.map (escape isQueryChar)
    fragment := fragment.map (escape isFragmentChar) }

def ofText (s : Text) : Except AddressFault Address := do
  vet none s.toList
  let (rest, fragment) := cutAt '#' s.toList
  let (rest, query) := cutAt '?' rest
  let (scheme, rest) := takeScheme rest
  let (authority, path) := takeAuthority rest
  ofParts scheme authority path query fragment

/-- The host with the brackets that groups need. -/
def hostText (a : Address) : List Rune :=
  if (':' : Rune) ∈ a.host then .char '[' :: a.host ++ [(']' : Rune)] else a.host

def authority (a : Address) : List Rune :=
  (if a.user = [] then [] else a.user ++ [('@' : Rune)]) ++ a.hostText ++
    match a.socket with
    | some n => .char ':' :: (toString n : Text).toList
    | none => []

/-- The same address with another path and query. The parts are brought into their usual form once
more, which can change the host again. -/
def redirected (a : Address) (path : List Rune) (query : Option (List Rune)) :
    Except AddressFault Address := do
  vet (some "scheme") a.scheme
  vet (some "authority") a.authority
  vet (some "path") path
  query.forM (vet (some "query"))
  a.fragment.forM (vet (some "fragment"))
  ofParts a.scheme a.authority path query a.fragment

/-- What is asked of the host: the path, and the query behind it. -/
def target (a : Address) : List Rune :=
  (if a.path = [] then [.char '/'] else a.path) ++ ((a.query.map (.char '?' :: ·)).getD [])

/-- The same address with another target. -/
def withTarget (a : Address) (target : List Rune) : Except AddressFault Address :=
  let (path, query) := cutAt '?' target
  a.redirected path query

/-- Goes further down from an address. -/
def append (a : Address) (further : List Rune) : Except AddressFault Address := do
  let base ←
    if a.target.getLast? = some (.char '/') then pure a
    else a.withTarget (a.target ++ [('/' : Rune)])
  base.withTarget (base.target ++ further)

def text (a : Address) : Text :=
  let scheme := if a.scheme = [] then [] else a.scheme ++ [(':' : Rune)]
  let authority := if a.authority = [] then [] else .char '/' :: .char '/' :: a.authority
  let query := (a.query.map (.char '?' :: ·)).getD []
  let fragment := (a.fragment.map (.char '#' :: ·)).getD []
  .ofList (scheme ++ authority ++ a.path ++ query ++ fragment)

/-- The address without a fragment that says nothing. -/
def named (a : Address) : Text :=
  if a.fragment = some [] then { a with fragment := none }.text else a.text

/-- Whether the text of the address starts with a scheme, or what can be taken for one. -/
def hasScheme (a : Address) : Bool :=
  let cs := a.text.toList
  let apart (c : Rune) : Bool := c ≠ '/' ∧ c ≠ ':'
  (cs.head?.any apart) && (cs.dropWhile apart).head? = some (.char ':')

/-- Whether one can go from an address to the next. Without a host of its own the next one has the
same host, and without a fragment the same fragment. -/
def leadsTo (a next : Address) : Except AddressFault Unit :=
  if next.scheme ≠ [] ∧ next.host = [] ∧ a.host ≠ [] ∧ next.path ≠ [] ∧
      next.path.head? ≠ some (.char '/') then .error .pathNotRooted
  else if next.fragment.getD [] ≠ [] then .ok ()
  else
    let kept := Utf8.decodeLossy (unescape (a.fragment.getD []))
    vet (some "fragment") kept.toList

/-- What identifies a user to the host, if the address names one: the name and the password. -/
def credentials? (a : Address) : Option Text :=
  let (name, password) := cutAt ':' a.user
  let bytes (cs : List Rune) : List UInt8 := Utf8.encode (Utf8.decodeLossy (unescape cs))
  if name = [] ∧ password.getD [] = [] then none
  else
    let word := bytes name ++ Utf8.encodeChar ':' ++ bytes (password.getD [])
    some ("Basic " ++ .ofList (Text.Base64.encode word))

end Address

end Synopsis
