import LicenseHeader.CommandLine.Arguments
import LicenseHeader.Config.Loading
import LicenseHeader.Console
import LicenseHeader.Processing
import LicenseHeader.Report.Writing

/-!
# Running a command

A command is run in two steps.  `Arguments.perform` finds the configuration, makes the job ready and
does the action to the files.  `Session.conclude` shows what came of it and writes the reports.
`Session.run` is both, and says whether the run counts as failed.
-/

namespace LicenseHeader

/-- What a command does not find in the file tree. -/
structure Surroundings where
  /-- The path of a configuration in the environment. -/
  config : Option Path := none
  /-- Whether output goes to a terminal. -/
  onTerminal : Bool := false
  /-- The current year. -/
  year : Text := []
  deriving DecidableEq, Repr

/-- What is left when an action has been done to the files. -/
structure Performance where
  /-- The directory from which paths are shown. -/
  base : Path
  /-- Whether results were written next to the files. -/
  dryRun : Bool
  /-- How many files were taken. -/
  count : Nat
  report : Report
  tree : FileTree

namespace Arguments

def console (a : Arguments) (s : Surroundings) : Console where
  loudness := if 0 < a.verbose then .verbose else if a.quiet then .quiet else .normal
  colored :=
    match a.colors with
    | .auto => s.onTerminal
    | .never => false
    | .always => true

def findConfig (a : Arguments) (s : Surroundings) (tree : FileTree) : Journal Config := do
  let found ← Config.find tree a.config s.config (Place.path tree.workingDir)
  return found.override a.overrides

def perform (a : Arguments) (s : Surroundings) (tree : FileTree) : Journal Performance := do
  let config ← a.findConfig s tree
  let job ← Job.ofConfig config tree s.year
  let paths ← Journal.ofExcept (job.files tree)
  let (report, after) := job.run a.action paths tree
  return {
    base := (tree.canonical job.baseDir).toOption.getD job.baseDir
    dryRun := config.dryRun
    count := paths.length
    report
    tree := after }

def failsOn (a : Arguments) (r : Report) : Bool :=
  let found := if a.action = .check then r.hasMissing else r.hasUpdates
  (a.failIfFound && found) || r.hasErrors || (a.failIfUnknown && r.hasUnknown)

end Arguments

/-- A file tree and what has been shown. -/
structure Session where
  tree : FileTree
  output : Text := []
  errorOutput : Text := []

namespace Session

/-- Writes a report, if the user asks for it.  A report that cannot be written is told, and the run
goes on. -/
def saveReport (c : Console) (r : Report) (timing : Timing) (base : Path) (format : ReportFormat)
    (path : Option Path) (session : Session) : Session :=
  match path with
  | none => session
  | some path =>
    match r.save format timing base session.tree path with
    | .ok tree => { session with tree, output := session.output ++ c.reportWritten format path }
    | .error f =>
      { session with errorOutput := session.errorOutput ++ Console.reportFailed format f }

/-- Shows what came of an action and writes the reports. -/
def conclude (a : Arguments) (c : Console) (timing : Timing) (ns : List Note) (p : Performance) :
    Session :=
  let shown : Session := {
    tree := p.tree
    output := c.start a.action p.count ++ c.results p.report timing p.base p.dryRun
    errorOutput := c.notes ns ++ c.errors p.report p.base }
  let saved := saveReport c p.report timing p.base .json a.reportJson shown
  saveReport c p.report timing p.base .csv a.reportCsv saved

/-- What is left of a command once its action is over. -/
def ofPerformance (a : Arguments) (s : Surroundings) (timing : Timing) (tree : FileTree) :
    Except Failure Performance × List Note → Except Failure Bool × Session
  | (.ok p, ns) => (.ok (a.failsOn p.report), conclude a (a.console s) timing ns p)
  | (.error f, ns) => (.error f, { tree, errorOutput := (a.console s).notes ns })

def run (a : Arguments) (s : Surroundings) (timing : Timing) (tree : FileTree) :
    Except Failure Bool × Session :=
  ofPerformance a s timing tree (a.perform s tree).results

end Session

end LicenseHeader
