import LicenseHeader.Config.Basic
import LicenseHeader.Report.Outcome

/-!
# Arguments

What a user asks for on the command line, and the ways in which a command line can be wrong.
-/

namespace LicenseHeader

inductive ColorMode where
  /-- On a terminal. -/
  | auto
  | never
  | always
  deriving DecidableEq, Repr

def ColorMode.text : ColorMode → Text
  | auto => "auto".toList
  | never => "never".toList
  | always => "always".toList

def ColorMode.ofText? (t : Text) : Option ColorMode :=
  [ColorMode.auto, .never, .always].find? (·.text = t)

/-- What a user asks for. -/
structure Arguments where
  action : Action
  /-- The path of the configuration. -/
  config : Option Path := none
  /-- Compare headers line by line. -/
  strict : Bool := false
  /-- Compare headers without regard to white space. -/
  lenient : Bool := false
  threads : Option Nat := none
  /-- Fail if a file has no known style. -/
  failIfUnknown : Bool := false
  /-- Fail if the action finds something to do: a missing header or a changed file. -/
  failIfFound : Bool := true
  /-- Write results next to the files. -/
  dryRun : Bool := false
  reportJson : Option Path := none
  reportCsv : Option Path := none
  /-- How many times more details were asked for. -/
  verbose : Nat := 0
  quiet : Bool := false
  colors : ColorMode := .auto
  deriving DecidableEq, Repr

/-- Why a command line asks for nothing that can be run. -/
inductive UsageError where
  /-- The user asks for help. -/
  | help
  /-- The user asks for the version. -/
  | version
  /-- There is no action. -/
  | noAction
  | unknownAction
  | unknownArgument
  /-- Two arguments exclude each other, or one is given twice. -/
  | conflict
  /-- A value is missing or none of the possible ones. -/
  | invalidValue
  /-- A value cannot be read. -/
  | malformedValue
  /-- A value is given to an argument that takes none. -/
  | unexpectedValue
  deriving DecidableEq, Repr

namespace Arguments

/-- What the command line changes in a configuration. -/
def overrides (a : Arguments) : Overrides where
  dryRun := if a.dryRun then some true else none
  strictCheck := if a.strict then some true else if a.lenient then some false else none
  threads := a.threads

end Arguments

end LicenseHeader
