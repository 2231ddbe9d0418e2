import Synopsis.Text.Encoding
import Synopsis.Text.Quoted

namespace Synopsis

/-- Why a path names nothing, so that it does not even reach the file system. -/
inductive NameFault where
  | nul
  | encoding (f : Text.EncodingFault)
  deriving DecidableEq

def NameFault.message : NameFault → Text
  | .nul => "embedded null byte"
  | .encoding f => f.message

/-- Why the file system refuses a request. -/
inductive Refusal where
  | missing
  | denied
  | busy
  | occupied
  | notDirectory
  | isDirectory
  | nameTooLong
  | unnameable (why : NameFault)
  deriving DecidableEq

def Refusal.number : Refusal → Nat
  | .missing => 2
  | .denied => 13
  | .busy => 16
  | .occupied => 17
  | .notDirectory => 20
  | .isDirectory => 21
  | .nameTooLong => 36
  | .unnameable _ => 0

def Refusal.text : Refusal → Text
  | .missing => "No such file or directory"
  | .denied => "Permission denied"
  | .busy => "Device or resource busy"
  | .occupied => "File exists"
  | .notDirectory => "Not a directory"
  | .isDirectory => "Is a directory"
  | .nameTooLong => "File name too long"
  | .unnameable why => why.message

/-- A refusal, with the paths as they were given. -/
inductive Fault where
  | of (refusal : Refusal) (path : Text)
  | moving (refusal : Refusal) (source target : Text)
  | noFreeName
  deriving DecidableEq

namespace Fault

def refusal : Fault → Refusal
  | .of r _ => r
  | .moving r _ _ => r
  | .noFreeName => .occupied

def message (f : Fault) : Text :=
  let numbered (text : Text) : Text := "[Errno " ++ toString f.refusal.number ++ "] " ++ text
  match f with
  | .of (.unnameable why) _ | .moving (.unnameable why) _ _ => why.message
  | .of r path => numbered (r.text ++ ": " ++ Text.quoted path)
  | .moving r source target =>
    numbered (r.text ++ ": " ++ Text.quoted source ++ " -> " ++ Text.quoted target)
  | .noFreeName => numbered "No usable temporary file name found"

end Fault

/-- Why a file cannot be read as text. -/
inductive ReadFault where
  | file (f : Fault)
  | encoding (f : Utf8.Fault)
  deriving DecidableEq

def ReadFault.message : ReadFault → Text
  | .file f => f.message
  | .encoding f => f.message

/-- Why a text cannot be written to a file. -/
inductive WriteFault where
  | file (f : Fault)
  | encoding (f : Text.EncodingFault)
  deriving DecidableEq

def WriteFault.message : WriteFault → Text
  | .file f => f.message
  | .encoding f => f.message

end Synopsis
