import Synopsis.Path

namespace Synopsis

/-- The files that version control lists for a directory. -/
inductive Listing where
  | notInstalled
  | failed (status : Int)
  | entries (paths : List Text)
  deriving DecidableEq

/-- A user can be registered under letters, digits, underscores and dashes, with a letter or an
underscore in front. -/
def isUserName : List Rune → Bool
  | [] => false
  | c :: r => (c.isAlpha || c = '_') && r.all fun c => c.isAlphanum || c = '_' || c = '-'

/-- A registered user and the home directory. -/
structure Account where
  name : Text
  home : Text
  lawful : isUserName name.toList = true

/-- `apiKey`, `apiBase` and `apiTitle` are variables of the environment, `accounts` the other
users. -/
structure Host where
  home : Text
  accounts : List Account
  apiKey : Option Text
  apiBase : Option Text
  apiTitle : Option Text
  bundledPrompts : Path
  listing : Listing

/-- A home directory that is not known. -/
inductive HomeFault where
  | unknown
  deriving DecidableEq

def HomeFault.message : HomeFault → Text
  | .unknown => "Could not determine home directory."

namespace Host

/-- The home directory that a first part names, without slashes at its end. -/
def homeFor (h : Host) (part : List Rune) : Option Text :=
  let directory :=
    if part = ([.char '~'] : List Rune) then some h.home
    else (h.accounts.find? fun a => a.name.toList = part.drop 1).map Account.home
  directory.map fun d =>
    let cs := (d.toList.reverse.dropWhile (· = ('/' : Rune))).reverse
    if cs = [] then "/" else .ofList cs

/-- Puts the home directory in the place of a tilde at the start of a relative path. -/
def expand (h : Host) (p : Path) : Except HomeFault Path :=
  match p.anchor, p.parts with
  | .relative, first :: rest =>
    if first.toList.head? = some (.char '~') then
      match h.homeFor first.toList with
      | some d =>
        if d.toList.head? = some (.char '~') then .error .unknown
        else
          let directory := Path.ofText d
          .ok { directory with parts := directory.parts ++ rest }
      | none => .error .unknown
    else .ok p
  | _, _ => .ok p

end Host

end Synopsis
