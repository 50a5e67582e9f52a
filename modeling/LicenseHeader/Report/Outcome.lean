import LicenseHeader.Text.Basic

/-!
# Actions and outcomes

What is done to the files, and what came of it for one file.
-/

namespace LicenseHeader

/-- What is done to the files. -/
inductive Action where
  /-- Tells whether headers are there. -/
  | check
  /-- Adds or replaces headers. -/
  | format
  /-- Takes headers out. -/
  | remove
  deriving DecidableEq, Repr

def Action.text : Action → Text
  | check => "check".toList
  | format => "format".toList
  | remove => "remove".toList

/-- What came of it for a file. -/
inductive Outcome where
  /-- The header is there. -/
  | present
  /-- The header is not there. -/
  | missing
  /-- Nothing had to be changed. -/
  | noop
  | added
  | replaced
  | removed
  /-- The file has no known style, or is no text. -/
  | unknown
  /-- The file could not be handled. -/
  | error (message : Text)
  deriving DecidableEq, Repr

namespace Outcome

def name : Outcome → Text
  | present => "present".toList
  | missing => "missing".toList
  | noop => "noop".toList
  | added => "added".toList
  | replaced => "replaced".toList
  | removed => "removed".toList
  | unknown => "unknown".toList
  | error _ => "error".toList

/-- Whether the file was changed. -/
def isUpdate : Outcome → Bool
  | added => true
  | replaced => true
  | removed => true
  | _ => false

/-- Why the file could not be handled. -/
def message? : Outcome → Option Text
  | error message => some message
  | _ => none

def text : Outcome → Text
  | error message => "error: ".toList ++ message
  | o => o.name

end Outcome

end LicenseHeader
