import LicenseHeader.CommandLine.Arguments

/-!
# Reading a command line

The first word is the action.  Each word after it is a flag, an option with its value after an equals
sign, an option whose value may be the next word, or such a value.  Words after a double dash would be
values without an option, of which there are none.

A value that stands in a word of its own is read when the next argument begins, or at the end; until
then it is `pending`.  So of two mistakes it is not always the first that is told.
-/

namespace LicenseHeader

/-- An argument without a value. -/
inductive Flag where
  | strict
  | lenient
  | failIfUnknown
  | quiet
  | dryRun
  deriving DecidableEq, Repr

/-- An argument with a value. -/
inductive Setting where
  | config
  | threads
  | reportJson
  | reportCsv
  | colors
  /-- Whether to fail if the action finds something to do. -/
  | failIfFound
  deriving DecidableEq, Repr

/-- What the name of an argument stands for. -/
inductive ArgumentKind where
  | help
  | verbose
  | flag (f : Flag)
  | setting (s : Setting)
  deriving DecidableEq, Repr

namespace ArgumentKind

def ofLong? (action : Action) (name : Text) : Option ArgumentKind :=
  let shared : List (String × ArgumentKind) := [
    ("help", .help), ("verbose", .verbose), ("strict", .flag .strict), ("lenient", .flag .lenient),
    ("fail-if-unknown", .flag .failIfUnknown), ("quiet", .flag .quiet),
    ("config", .setting .config), ("threads", .setting .threads),
    ("report-json", .setting .reportJson), ("report-csv", .setting .reportCsv),
    ("colors", .setting .colors)]
  let own : List (String × ArgumentKind) :=
    match action with
    | .check => [("fail-if-missing", .setting .failIfFound)]
    | _ => [("fail-if-updated", .setting .failIfFound), ("dry-run", .flag .dryRun)]
  ((shared ++ own).find? (·.1.toList = name)).map Prod.snd

def ofShort? : Char → Option ArgumentKind
  | 'h' => some .help
  | 'v' => some .verbose
  | 'q' => some (.flag .quiet)
  | _ => none

end ArgumentKind

/-- A number of workers: digits, perhaps with a plus sign, that fit into 64 bits. -/
def threadCount? (t : Text) : Option Nat :=
  let digits :=
    match t with
    | '+' :: rest => rest
    | _ => t
  if digits.isEmpty || !digits.all Char.isDigit then none
  else
    let n := digits.foldl (fun n c => n * 10 + (c.toNat - 0x30)) 0
    if n < Nat.pow 2 64 then some n else none

def truth? (t : Text) : Option Bool :=
  if t = "true".toList then some true else if t = "false".toList then some false else none

/-- What is wrong with a value, if anything. -/
def Setting.fault? (s : Setting) (value : Text) : Option UsageError :=
  match s with
  | .threads => if (threadCount? value).isSome then none else some .malformedValue
  | .colors => if (ColorMode.ofText? value).isSome then none else some .invalidValue
  | .failIfFound => if (truth? value).isSome then none else some .invalidValue
  | _ => if value.isEmpty then some .invalidValue else none

structure ArgumentState where
  flags : List Flag := []
  /-- How many times more details were asked for. -/
  verbose : Nat := 0
  settings : List (Setting × Text) := []
  /-- An option that waits for its value, or whose value has yet to be looked at. -/
  pending : Option (Setting × Option Text) := none
  /-- Whether a double dash has been read. -/
  dashes : Bool := false
  deriving DecidableEq, Repr

namespace ArgumentState

def value? (st : ArgumentState) (s : Setting) : Option Text :=
  (st.settings.find? (·.1 = s)).map Prod.snd

def assign (st : ArgumentState) (s : Setting) (value : Text) : Except UsageError ArgumentState :=
  if (st.value? s).isSome then .error .conflict
  else
    match s.fault? value with
    | some e => .error e
    | none => .ok { st with settings := st.settings ++ [(s, value)] }

/-- Looks at the value of the option that waits.  Only colours can be asked for without one. -/
def settle (st : ArgumentState) : Except UsageError ArgumentState :=
  let rest := { st with pending := none }
  match st.pending with
  | none => .ok st
  | some (s, some value) => rest.assign s value
  | some (.colors, none) => rest.assign .colors ColorMode.always.text
  | some (_, none) => .error .invalidValue

/-- Reads an argument without a value. -/
def raise (st : ArgumentState) (kind : ArgumentKind) : Except UsageError ArgumentState := do
  let st ← st.settle
  match kind with
  | .help => .error .help
  | .verbose => return { st with verbose := min (st.verbose + 1) 255 }
  | .flag f => if f ∈ st.flags then .error .conflict else return { st with flags := st.flags ++ [f] }
  | .setting s => return { st with pending := some (s, none) }

/-- Reads an argument with a long name, and perhaps a value after an equals sign. -/
def readLong (action : Action) (st : ArgumentState) (word : Text) :
    Except UsageError ArgumentState :=
  let name := word.takeWhile (· != '=')
  match ArgumentKind.ofLong? action name, word.dropWhile (· != '=') with
  | none, _ => .error .unknownArgument
  | some kind, [] => st.raise kind
  | some (.setting s), _ :: value => do (← st.settle).assign s value
  | some _, _ :: _ => .error .unexpectedValue

def readShort (st : ArgumentState) : Text → Except UsageError ArgumentState
  | [] => .ok st
  | c :: rest =>
    match ArgumentKind.ofShort? c with
    | none => .error .unknownArgument
    | some kind => do readShort (← st.raise kind) rest

def readWord (action : Action) (st : ArgumentState) (word : Text) :
    Except UsageError ArgumentState :=
  if st.dashes then .error .unknownArgument
  else
    match word, st.pending with
    | ['-', '-'], _ => .ok { st with dashes := true }
    | '-' :: '-' :: rest, _ => st.readLong action rest
    | '-' :: c :: rest, _ => st.readShort (c :: rest)
    | _, some (s, none) => .ok { st with pending := some (s, some word) }
    | _, _ => .error .unknownArgument

/-- The arguments for an action, once all words have been read. -/
def finish (action : Action) (st : ArgumentState) : Except UsageError Arguments := do
  let st ← st.settle
  let has := fun (f : Flag) => st.flags.contains f
  if has .strict && has .lenient then throw .conflict
  if has .quiet && 0 < st.verbose then throw .conflict
  let path := fun (s : Setting) => (st.value? s).map Path.mk
  return {
    action
    config := path .config
    strict := has .strict
    lenient := has .lenient
    threads := (st.value? .threads).bind threadCount?
    failIfUnknown := has .failIfUnknown
    failIfFound := ((st.value? .failIfFound).bind truth?).getD true
    dryRun := has .dryRun
    reportJson := path .reportJson
    reportCsv := path .reportCsv
    verbose := st.verbose
    quiet := has .quiet
    colors := ((st.value? .colors).bind ColorMode.ofText?).getD .auto }

end ArgumentState

namespace Arguments

def action? (word : Text) : Option Action :=
  [Action.check, .format, .remove].find? (·.text = word)

/-- The names of the actions and of the help on them. -/
def isCommand (word : Text) : Bool := (action? word).isSome || word = "help".toList

/-- Reads the words after `help`, which ask for help on an action. -/
def readHelp : List Text → UsageError
  | [] => .help
  | [word] => if isCommand word then .help else .unknownAction
  | _ => .unknownAction

def readTopShort : Text → UsageError
  | 'h' :: _ => .help
  | 'V' :: _ => .version
  | _ => .unknownArgument

def readTopLong (word : Text) : UsageError :=
  let name := word.takeWhile (· != '=')
  let known := name = "help".toList || name = "version".toList
  if !known then .unknownArgument
  else if word.contains '=' then .unexpectedValue
  else if name = "help".toList then .help
  else .version

/-- The arguments that the words of a command line are. -/
def read : List Text → Except UsageError Arguments
  | [] => .error .noAction
  | ['-', '-'] :: rest =>
    match rest with
    | [] => .error .noAction
    | word :: _ => .error (if isCommand word then .unknownArgument else .unknownAction)
  | word :: words =>
    match action? word with
    | some action => do (← words.foldlM (ArgumentState.readWord action) {}).finish action
    | none =>
      if word = "help".toList then .error (readHelp words)
      else
        match word with
        | '-' :: '-' :: rest => .error (readTopLong rest)
        | '-' :: c :: rest => .error (readTopShort (c :: rest))
        | _ => .error .unknownAction

end Arguments

end LicenseHeader
