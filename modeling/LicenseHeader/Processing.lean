import LicenseHeader.Conventions
import LicenseHeader.Report.Basic
import LicenseHeader.Repository.Opening
import LicenseHeader.Resource.Basic
import LicenseHeader.Selection.Walk

/-!
# Processing files

A job is what a configuration makes ready: the files to take, the header, and the conventions of the
project.  `Job.handle` does an action to one file, `Job.run` to one file after the other, and each
gives the file tree that is left.
-/

namespace LicenseHeader

/-- What is made ready for an action. -/
structure Job where
  /-- The directory whose files are taken. -/
  baseDir : Path
  selection : Selection
  /-- The repository whose ignore files are used. -/
  repository : Option Repository
  conventions : Conventions
  header : HeaderTemplate
  /-- The file of the header, which is not taken. -/
  headerFile : Option Path
  /-- Whether headers are compared line by line. -/
  strict : Bool
  /-- Whether results are written next to the files. -/
  dryRun : Bool

namespace Job

/-- The registry of the built-in styles and those of the style documents of a configuration. -/
def loadStyles (c : Config) (tree : FileTree) : Journal Registry := do
  c.additionalHeaders.foldlM
    (fun registry name => do
      let resource ← (Resource.find tree c.baseDir c.configDir name).during
        ("Failed to load header styles ".toList ++ name)
      let styles ← Journal.ofConfig (Style.readAll ⟨resource.location.text⟩ resource.content)
      Journal.note (.loadedStyles styles.length resource.location.text)
      return registry.merge styles)
    (← Journal.ofConfig Registry.builtin)

/-- The header of a configuration, its file, and the pattern that leaves this file out. -/
def loadHeader (c : Config) (tree : FileTree) :
    Journal (HeaderTemplate × Option Path × List Text) := do
  match c.inlineHeader, c.headerPath with
  | some t, _ => return (⟨t⟩, none, [])
  | none, some name =>
    let resource ← (Resource.find tree c.baseDir c.configDir name).during
      ("Failed to load header ".toList ++ name)
    Journal.note (.headerSource resource.location.text)
    let file :=
      match resource.location with
      | .file path => (tree.canonical path).toOption
      | .bundled _ => none
    return (⟨resource.content⟩, file, [name])
  | none, none => throw { cause := .config .missingHeader }

def ofConfig (c : Config) (tree : FileTree) (currentYear : Text) : Journal Job := do
  Journal.ofConfig (c.validate tree)
  let registry ← loadStyles c tree
  let mapping ← Journal.ofConfig (MappingTable.build c.mapping c.useBuiltinMapping registry)
  let (header, headerFile, leftOut) ← loadHeader c tree
  let selection ← Journal.ofConfig <| Selection.compile {
    includes := c.includes
    excludes := c.excludes ++ leftOut
    useBuiltin := c.useBuiltinExcludes
    caseSensitive := c.caseSensitive }
  let repository ← Repository.forIgnoring tree c.baseDir c.ignoreGate
  let properties ← Journal.ofConfig c.textProperties
  let history ← Repository.forHistory tree c.baseDir c.historyGate
  return {
    baseDir := c.baseDir
    selection
    repository
    conventions := {
      mapping, registry, properties, history, currentYear
      keywords := c.effectiveKeywords }
    header
    headerFile
    strict := c.strictCheck
    dryRun := c.dryRun }

/-- The files that are taken, in the order of their paths. -/
def files (job : Job) (tree : FileTree) : Except Failure (List Path) :=
  match Selection.openRoot tree job.baseDir with
  | .error f => .error f
  | .ok (root, _) =>
    let ignored := fun (path : Text) =>
      match job.repository with
      | none => .ok false
      | some r => r.ignores tree (root.join ⟨path⟩)
    match job.selection.files ignored tree job.baseDir with
    | .error f => .error f
    | .ok found =>
      let paths := (found.map fun path => root.join ⟨path⟩).filter fun path =>
        !(job.headerFile.any (·.same path))
      .ok (paths.mergeSort fun a b => Path.compare a b != .gt)

/-- Writes the new text of a file, or puts it next to the file. -/
def save (job : Job) (tree : FileTree) (path : Path) (ending : String) (text : Text) :
    Except Failure FileTree :=
  let target := if job.dryRun then path.sibling ending.toList else path
  match tree.write target text with
  | .ok tree => .ok tree
  | .error cause =>
    .error { contexts := ["Failed to write file: ".toList ++ target.text], cause := .file cause }

/-- Does an action to a document of a file: what came of it, and the new document with the ending of
the name under which a dry run keeps it. -/
def act (job : Job) (action : Action) (path : Path) (d : Document) :
    Except Failure (Outcome × Option (Document × String)) := do
  let ofCycle := fun (c : PropertyCycle) => ({ cause := .cycle c } : Failure)
  let passes ←
    if d.hasHeader then (d.carries job.header job.strict).mapError ofCycle else pure false
  match action with
  | .check => return (if passes then .present else .missing, none)
  | .format =>
    if passes then return (.noop, none)
    let bare := d.removeHeader
    let new ← (bare.insertHeader job.header).mapError fun c =>
      (ofCycle c).during ("Failed to render header for ".toList ++ path.text)
    return (if d.hasHeader then .replaced else .added, some (new, ".formatted"))
  | .remove =>
    if d.hasHeader then return (.removed, some (d.removeHeader, ".removed"))
    else return (.noop, none)

def handle (job : Job) (action : Action) (tree : FileTree) (path : Path) :
    Except Failure (Outcome × FileTree) := do
  if (job.conventions.styleOf path).isUnknown then return (.unknown, tree)
  match tree.readBody path with
  | .error cause =>
    throw { contexts := ["Failed to read file: ".toList ++ path.text], cause := .file cause }
  | .ok (.binary _) => return (.unknown, tree)
  | .ok (.text t) =>
    match job.conventions.document? path t with
    | none => return (.unknown, tree)
    | some d =>
      match ← job.act action path d with
      | (outcome, none) => return (outcome, tree)
      | (outcome, some (new, ending)) => return (outcome, ← job.save tree path ending new.text)

/-- Does an action to a file and reports what came of it.  A file that cannot be handled stays as it
is. -/
def step (job : Job) (action : Action) (state : Report × FileTree) (path : Path) :
    Report × FileTree :=
  match job.handle action state.2 path with
  | .ok (outcome, tree) => (state.1.add path outcome, tree)
  | .error f => (state.1.add path (.error f.message), state.2)

def run (job : Job) (action : Action) (paths : List Path) (tree : FileTree) : Report × FileTree :=
  paths.foldl (job.step action) ({ action := action }, tree)

end Job

end LicenseHeader
