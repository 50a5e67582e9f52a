import Std.Time
import LicenseHeader.CommandLine.Reader
import LicenseHeader.CommandLine.Run
import LicenseHeader.Disk

/-!
# The program

Reads the directories that a command can reach into a file tree, with the commits of a repository if
headers may refer to them.  Then runs the command on it, prints what the session has to show and writes
the files that have changed.
-/

namespace LicenseHeader

def usage : String :=
  "Usage: headmark <check|format|remove> [--config FILE] [--strict|--lenient] [--threads N]\n"
    ++ "  [--fail-if-unknown] [--report-json OUTPUT] [--report-csv OUTPUT] [-v|-q]\n"
    ++ "  [--colors WHEN] [--fail-if-missing BOOL] [--dry-run] [--fail-if-updated BOOL]"

/-- What a user is told about a command line that cannot be run. -/
def UsageError.message : UsageError → String
  | help => usage
  | version => "headmark 0.1.0"
  | noAction => usage
  | unknownAction => "error: unrecognized subcommand\n" ++ usage
  | unknownArgument => "error: unexpected argument\n" ++ usage
  | conflict => "error: the arguments cannot be used together\n" ++ usage
  | invalidValue => "error: a value is missing or invalid\n" ++ usage
  | malformedValue => "error: a value is malformed\n" ++ usage
  | unexpectedValue => "error: a value is given to an argument that takes none\n" ++ usage

/-- The files besides those of the base directory that a configuration can refer to. -/
def resourcesOf (c : Config) : List Path :=
  (c.headerPath.toList ++ c.additionalHeaders).flatMap (Resource.candidates c.baseDir c.configDir)

/-- Reads the file tree of a command: its configuration, the base directory and the resources. -/
def readFileTree (a : Arguments) (s : Surroundings) : IO FileTree := do
  let workingDir := Disk.placeOf (← IO.FS.realPath (← IO.currentDir)).toString
  let start ← Disk.mention { workingDir := workingDir } (Path.ofString ".")
  let usual := (Place.path workingDir).join Config.usualName
  let found ← (a.config.toList ++ s.config.toList ++ [usual]).foldlM Disk.loadFile start
  let tree ←
    match (a.findConfig s found).results.1 with
    | .ok c =>
      let withCommits := c.historyGate ≠ .disable
      (resourcesOf c).foldlM Disk.loadFile (← Disk.loadDirectory withCommits found c.baseDir)
    | .error _ => pure found
  ((a.reportJson.toList ++ a.reportCsv.toList).filterMap Path.parent?).foldlM Disk.mention tree

/-- Runs a command on the disk.  The result is the exit code. -/
def runOnDisk (a : Arguments) : IO UInt32 := do
  let now ← Std.Time.PlainDateTime.now
  let stamp ← Std.Time.Timestamp.now
  let surroundings : Surroundings := {
    config := (← IO.getEnv (String.ofList configVariable)).map Path.ofString
    onTerminal := ← (← IO.getStdout).isTty
    year := (now.format "uuuu").toList }
  let tree ← readFileTree a surroundings
  let begun ← IO.monoNanosNow
  let performed ← IO.lazyPure fun _ => (a.perform surroundings tree).results
  let timing : Timing := {
    elapsed := (← IO.monoNanosNow) - begun
    timestamp := stamp.toSecondsSinceUnixEpoch.val
    date := (now.format "uuuu-MM-dd HH:mm:ss").toList }
  let (result, session) := Session.ofPerformance a surroundings timing tree performed
  Disk.save tree session.tree
  IO.print (String.ofList session.output)
  IO.eprint (String.ofList session.errorOutput)
  match result with
  | .ok failed => return if failed then 1 else 0
  | .error f =>
    IO.eprintln ("Error: " ++ String.ofList f.message)
    return 1

end LicenseHeader

def main (words : List String) : IO UInt32 := do
  match LicenseHeader.Arguments.read (words.map String.toList) with
  | .ok a =>
    try LicenseHeader.runOnDisk a
    catch e =>
      IO.eprintln ("Error: " ++ toString e)
      return 1
  | .error e =>
    match e with
    | .help | .version =>
      IO.println e.message
      return 0
    | _ =>
      IO.eprintln e.message
      return 2
