import LicenseHeader.Mapping.Basic
import LicenseHeader.Toml.Field
import LicenseHeader.Config.Error
import LicenseHeader.FileTree.Basic
import LicenseHeader.Header.Properties

/-!
# Configurations

A configuration says which header the files get, which files are taken, and how their styles are
found.  Every option has a default, so the empty document is a configuration.
-/

namespace LicenseHeader

/-- Whether something optional is used. -/
inductive Gate where
  /-- If it is there. -/
  | auto
  /-- Always; it is a failure if it is not there. -/
  | enable
  /-- Never. -/
  | disable
  deriving DecidableEq, Repr

def Gate.text : Gate → Text
  | auto => "auto".toList
  | enable => "enable".toList
  | disable => "disable".toList

def Gate.ofText? (t : Text) : Option Gate := [Gate.auto, .enable, .disable].find? (·.text = t)

/-- The gate that a value of a document is: its name, or a table with the name as the only key and
nothing in it. -/
def Gate.ofToml? : Toml.Value → Option Gate
  | .string t => ofText? t
  | .table [(name, .table [])] => ofText? name
  | .table [(name, .array [])] => ofText? name
  | _ => none

structure Config where
  /-- The directory whose files are taken. -/
  baseDir : Path := Path.ofString "."
  /-- The text of the header. -/
  inlineHeader : Option Text := none
  /-- The name of the resource with the text of the header, if it is not given here. -/
  headerPath : Option Text := none
  /-- The names of the resources with further styles. -/
  additionalHeaders : List Text := []
  /-- Whether headers are compared line by line. -/
  strictCheck : Bool := true
  useBuiltinExcludes : Bool := true
  useBuiltinMapping : Bool := true
  /-- Whether patterns of files are case sensitive. -/
  caseSensitive : Bool := true
  /-- The words that a header has to have. -/
  keywords : List Text := ["copyright".toList]
  includes : List Text := []
  excludes : List Text := []
  /-- The values that a header can refer to, in ascending order of their keys. -/
  properties : Keyed Toml.Value := []
  /-- The files of each style, in ascending order of the styles. -/
  mapping : Keyed MappingGroup := []
  /-- Whether files that a repository ignores are left out. -/
  ignoreGate : Gate := .auto
  /-- Whether headers can refer to the history of a file. -/
  historyGate : Gate := .disable
  /-- Whether results are written next to the files. -/
  dryRun : Bool := false
  /-- The number of workers. -/
  threads : Option Nat := none
  /-- The directory of the configuration file, or the working directory. -/
  configDir : Path := Path.ofString "."

/-- What the command line changes in a configuration. -/
structure Overrides where
  dryRun : Option Bool := none
  strictCheck : Option Bool := none
  threads : Option Nat := none
  deriving DecidableEq, Repr

def MappingGroup.ofToml? (v : Toml.Value) : Option MappingGroup := do
  let fields ← v.record? ["extensions".toList, "filenames".toList]
  let extensions ← Toml.field Toml.Value.texts? fields "extensions".toList []
  let fileNames ← Toml.field Toml.Value.texts? fields "filenames".toList []
  return { extensions, fileNames }

namespace Config

def gates? (v : Toml.Value) : Option (Gate × Gate) := do
  let fields ← v.record? ["ignore".toList, "attrs".toList]
  let ignore ← Toml.field Gate.ofToml? fields "ignore".toList .auto
  let history ← Toml.field Gate.ofToml? fields "attrs".toList .disable
  return (ignore, history)

def properties? (v : Toml.Value) : Option (Keyed Toml.Value) :=
  v.entries?.bind fun entries => if entries.all (·.2.fits) then some entries.sorted else none

def mapping? (v : Toml.Value) : Option (Keyed MappingGroup) :=
  v.entries?.bind fun entries =>
    let groups := entries.mapM fun ((style, g) : Text × Toml.Value) =>
      (MappingGroup.ofToml? g).map (style, ·)
    groups.map Keyed.sorted

def ofToml? (fields : Keyed Toml.Value) : Option Config := do
  let text? := fun (name : String) => Toml.optional Toml.Value.text? fields name.toList
  let texts := fun (name : String) => Toml.field Toml.Value.texts? fields name.toList
  let flag := fun (name : String) => Toml.field Toml.Value.bool? fields name.toList
  let (ignoreGate, historyGate) ← Toml.field gates? fields "git".toList (.auto, .disable)
  return {
    baseDir := ⟨(← text? "baseDir").getD ['.']⟩
    inlineHeader := ← text? "inlineHeader"
    headerPath := ← text? "headerPath"
    additionalHeaders := ← texts "additionalHeaders" []
    strictCheck := ← flag "strictCheck" true
    useBuiltinExcludes := ← flag "useDefaultExcludes" true
    useBuiltinMapping := ← flag "useDefaultMapping" true
    caseSensitive := ← flag "caseSensitive" true
    keywords := ← texts "keywords" ["copyright".toList]
    includes := ← texts "includes" []
    excludes := ← texts "excludes" []
    properties := ← Toml.field properties? fields "properties".toList []
    mapping := ← Toml.field mapping? fields "mapping".toList []
    ignoreGate
    historyGate
    dryRun := ← flag "dryRun" false
    threads := ← Toml.optional Toml.Value.count? fields "threads".toList }

def read? (t : Text) : Option Config := (Toml.read? t).bind ofToml?

/-- Takes the base directory as seen from the directory of the configuration. -/
def resolvePaths (c : Config) (configDir : Path) : Config :=
  { c with configDir, baseDir := configDir.join c.baseDir }

def override (c : Config) (o : Overrides) : Config :=
  { c with
    dryRun := o.dryRun.getD c.dryRun
    strictCheck := o.strictCheck.getD c.strictCheck
    threads := o.threads.orElse fun _ => c.threads }

/-- The written form of a property; arrays and tables have none. -/
def propertyText? : Toml.Value → Option Text
  | .string t => some t
  | .integer i => some (if i < 0 then '-' :: Text.ofNat i.natAbs else Text.ofNat i.natAbs)
  | .float f => some f.text
  | .boolean b => some (if b then "true".toList else "false".toList)
  | .datetime d => some d.text
  | .array _ => none
  | .table _ => none

def textProperties (c : Config) : Except ConfigError Properties :=
  c.properties.mapM fun (key, v) =>
    match propertyText? v with
    | some t => .ok (key, t)
    | none => .error (.invalidProperty key)

/-- The words that a header has to have, in lower case. -/
def effectiveKeywords (c : Config) : List Text :=
  if c.keywords.isEmpty then ["copyright".toList] else c.keywords.map Text.lower

/-- Checks that there is a header, that no include pattern is reversed, that the base directory is
there and that the properties have texts. -/
def validate (c : Config) (tree : FileTree) : Except ConfigError Unit := do
  if c.inlineHeader.isNone ∧ c.headerPath.isNone then throw .missingHeader
  match c.includes.find? (·.head? == some '!') with
  | some pattern => throw (.negatedInclude pattern)
  | none => pure ()
  if ¬tree.isDirectory c.baseDir then throw (.invalidBaseDir c.baseDir)
  let _ ← c.textProperties

end Config

end LicenseHeader
