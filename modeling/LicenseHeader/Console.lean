import LicenseHeader.Journal
import LicenseHeader.Report.Writing

/-!
# Console output

What is shown of a run.  A quiet console shows only the paths that a script would want; a verbose one
shows all paths and how long it took.
-/

namespace LicenseHeader

inductive Loudness where
  | quiet
  | normal
  | verbose
  deriving DecidableEq, Repr

/-- A colour or another way to make a text stand out. -/
inductive Tone where
  | red
  | green
  | yellow
  | cyan
  | dim
  deriving DecidableEq, Repr

/-- The control codes before and after a text. -/
def Tone.codes : Tone → Text × Text
  | red => ("\x1b[31m".toList, "\x1b[39m".toList)
  | green => ("\x1b[32m".toList, "\x1b[39m".toList)
  | yellow => ("\x1b[33m".toList, "\x1b[39m".toList)
  | cyan => ("\x1b[36m".toList, "\x1b[39m".toList)
  | dim => ("\x1b[2m".toList, "\x1b[0m".toList)

structure Console where
  loudness : Loudness := .normal
  colored : Bool := false
  deriving DecidableEq, Repr

namespace Console

def success : Text := ['✓']

def failure : Text := ['✗']

def isQuiet (c : Console) : Bool := c.loudness = .quiet

def isVerbose (c : Console) : Bool := c.loudness = .verbose

/-- A text in a tone, if there are colours. -/
def paint (c : Console) (tone : Tone) (t : Text) : Text :=
  if c.colored then tone.codes.1 ++ t ++ tone.codes.2 else t

/-- A line that is shown unless the console is quiet. -/
def line (c : Console) (t : Text) : Text := if c.isQuiet then [] else t ++ ['\n']

/-- The word for a number of files. -/
def filesWord (n : Nat) : Text := if n = 1 then "file".toList else "files".toList

def countOfFiles (n : Nat) : Text := Text.ofNat n ++ ' ' :: filesWord n

def verb : Action → Text
  | .check => "Checking".toList
  | .format => "Formatting".toList
  | .remove => "Removing headers from".toList

/-- The first line of a run. -/
def start (c : Console) (action : Action) (n : Nat) : Text :=
  c.line (verb action ++ ' ' :: countOfFiles n ++ "...".toList)

/-- The most paths of a list that are shown by default. -/
def listLimit : Nat := 20

/-- A list of files.  On a quiet console it has the paths alone, and only if they are wanted there. -/
def fileList (c : Console) (base : Path) (paths : List Path) (title : String) (mark : Text)
    (tone : Tone) (wanted : Bool) : Text :=
  let shown := fun (p : Path) => Path.shownFrom base p
  if paths.isEmpty then []
  else if c.isQuiet then
    if wanted then paths.flatMap fun p => shown p ++ ['\n'] else []
  else
    let limit := if c.isVerbose then paths.length else listLimit
    let more :=
      if limit < paths.length then
        c.line ("  ".toList ++ c.paint .dim [] ++ " ... and ".toList
          ++ Text.ofNat (paths.length - limit) ++ " more (use -v to see all)".toList)
      else []
    c.line (c.paint tone mark ++ ' ' :: countOfFiles paths.length ++ ' ' :: title.toList ++ [':'])
      ++ (paths.take limit).flatMap (fun p => c.line ("  ".toList ++ shown p))
      ++ more

def findings (c : Console) (found : Categories) (action : Action) (base : Path) : Text :=
  let list := fun (paths : List Path) (title : String) (mark : Text) (tone : Tone) =>
    c.fileList base paths title mark tone true
  match action with
  | .check => list found.missing "missing headers" failure .red
  | .format =>
    let both := !found.added.isEmpty && !found.replaced.isEmpty
    list found.added "with added headers" success .green
      ++ (if both then c.line [] else [])
      ++ list found.replaced "with replaced headers" ['↻'] .yellow
  | .remove => list found.removed "with removed headers" ['-'] .yellow

/-- The list of files without a known style, which only a verbose console shows. -/
def unknowns (c : Console) (found : Categories) (base : Path) : Text :=
  if c.isVerbose && !found.unknown.isEmpty then
    c.line [] ++ c.fileList base found.unknown "with unknown header style" ['?'] .dim false
  else []

def allFine (c : Console) (action : Action) : Text :=
  let message :=
    match action with
    | .check => "All files have headers."
    | .format => "All files already have headers."
    | .remove => "No headers to remove."
  c.line (c.paint .green success ++ ' ' :: message.toList)

/-- The numbers of files that are not zero. -/
def summary (c : Console) (s : Summary) : Text :=
  let tone := fun (label : Text) =>
    if label = "missing".toList ∨ label = "errors".toList then Tone.red
    else if label = "unknown".toList then .dim
    else .cyan
  let parts := (s.counts.filter (0 < ·.2)).map fun (label, n) =>
    c.paint (tone label) (Text.ofNat n) ++ ' ' :: label
  let numbers := if parts.isEmpty then "no files".toList else Text.joinWith ", ".toList parts
  let time :=
    if c.isVerbose then
      " (".toList ++ (Double.ofNanoseconds s.timing.elapsed).fixed 2 ++ "s)".toList
    else []
  c.line ("Summary: ".toList ++ numbers ++ time)

/-- What the user could do next. -/
def hint (c : Console) (message : String) : Text := c.line (c.paint .yellow message.toList)

def hints (c : Console) (r : Report) (found : Categories) (dryRun : Bool) : Text :=
  let missing := r.action = .check && !found.missing.isEmpty
  let dry := dryRun && r.action ≠ .check && r.hasUpdates
  (if missing then c.line [] ++ c.hint "Run `headmark format` to add the missing headers." else [])
    ++ if dry then
        c.line [] ++ c.hint "Dry run: results were written next to the original files."
      else []

/-- All that is shown of a finished run after its first line. -/
def results (c : Console) (r : Report) (timing : Timing) (base : Path) (dryRun : Bool) : Text :=
  let found := Categories.ofReport r
  c.line [] ++ c.findings found r.action base ++ c.unknowns found base
    ++ (if found.errors.isEmpty then [] else c.line [])
    ++ (if found.hasNews then [] else c.allFine r.action)
    ++ c.line [] ++ c.summary (.ofReport r timing)
    ++ c.hints r found dryRun

/-- The files that could not be handled, which every console shows, apart from the rest. -/
def errors (c : Console) (r : Report) (base : Path) : Text :=
  let failed := (Categories.ofReport r).errors
  if failed.isEmpty then []
  else
    c.paint .red failure ++ ' ' :: countOfFiles failed.length
      ++ " could not be processed:\n".toList
      ++ failed.flatMap fun (p, message) =>
        "  ".toList ++ Path.shownFrom base p ++ ": ".toList ++ message ++ ['\n']

/-- The notes of a computation, which only a verbose console shows. -/
def notes (c : Console) (ns : List Note) : Text :=
  if c.isVerbose then ns.flatMap fun n => c.paint .dim n.message ++ ['\n'] else []

def reportWritten (c : Console) (format : ReportFormat) (path : Path) : Text :=
  c.line (c.paint .yellow
    ("Generated ".toList ++ format.text ++ " report at ".toList ++ path.text))

def reportFailed (format : ReportFormat) (f : Failure) : Text :=
  "Error generating ".toList ++ format.text ++ " report: ".toList ++ f.message ++ ['\n']

end Console

end LicenseHeader
