import LicenseHeader.Config.Error
import LicenseHeader.Header.Properties

/-!
# Failures

A failure has a cause and tells, from the outside inwards, what was being done when it arose.
-/

namespace LicenseHeader

/-- Why a named resource could not be used. -/
inductive ResourceError where
  | notFound (name : Text) (searched : List Path)
  | unreadable (path : Path) (cause : FileError)
  deriving DecidableEq, Repr

def ResourceError.message : ResourceError → Text
  | notFound name searched =>
    let places := searched.map Path.text ++ ["bundled templates".toList]
    "Resource '".toList ++ name ++ "' not found (looked in ".toList
      ++ Text.joinWith ", ".toList places ++ ")".toList
  | unreadable path cause =>
    "Failed to read resource '".toList ++ path.text ++ "': ".toList ++ cause.message

inductive Cause where
  | config (error : ConfigError)
  | resource (error : ResourceError)
  | cycle (error : PropertyCycle)
  /-- A repository could not be opened or read. -/
  | repository
  | file (error : FileError)
  | other (message : Text)
  deriving DecidableEq, Repr

/-- The wording of a cause; nothing is said about the inside of a repository. -/
def Cause.message? : Cause → Option Text
  | config e => some e.message
  | resource e => some e.message
  | cycle e => some e.message
  | repository => none
  | file e => some e.message
  | other message => some message

structure Failure where
  /-- What was being done, from the outside inwards. -/
  contexts : List Text := []
  cause : Cause
  deriving DecidableEq, Repr

namespace Failure

/-- The failure with one more thing that was being done. -/
def during (f : Failure) (context : Text) : Failure := { f with contexts := context :: f.contexts }

def message (f : Failure) : Text :=
  Text.joinWith ": ".toList (f.contexts ++ f.cause.message?.toList)

end Failure

end LicenseHeader
