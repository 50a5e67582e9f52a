import Std.Data.HashMap
import LicenseHeader.FileTree.Basic
import LicenseHeader.Repository.Objects

/-!
# The disk

Directories and files on the disk are taken into a file tree, and the files that a command has changed
are written back.  The repository of a directory is taken with its commits, if they are asked for.  The
contents of their files are not read: as two files have the same content exactly if their objects have
the same name, this name stands for it.
-/

namespace LicenseHeader

namespace Disk

/-- The names in an absolute path. -/
def placeOf (path : String) : Place :=
  (splitAt '/' path.toList).filter fun name => name ≠ [] ∧ name ≠ ['.']

def repositoryData : String := ".git"

/-- Reads an entry of a directory.  Of the data of a repository only the rules for ignored files are
taken.  Entries that are no files, links or directories are left out. -/
partial def readEntry (entry : IO.FS.DirEntry) : IO (Option Node) := do
  let path := entry.path
  match (← path.symlinkMetadata).type with
  | .file => return some (.file (.ofBytes (← IO.FS.readBinFile path).toList))
  | .symlink =>
    let target ← try pure (← IO.FS.realPath path).toString catch _ => pure ""
    return some (.link ⟨target.toList⟩)
  | .dir =>
    let inside ← path.readDir
    let wanted :=
      if entry.fileName = repositoryData then inside.filter (·.fileName = "info") else inside
    let nodes ← wanted.toList.filterMapM fun e => do
      return (← readEntry e).map fun node => (e.fileName.toList, node)
    return some (.directory nodes)
  | _ => return none

/-- The place to which a path leads on the disk, if anything is there. -/
def place? (path : Path) : IO (Option Place) := do
  let start := if path.text.isEmpty then "." else String.ofList path.text
  try return some (placeOf (← IO.FS.realPath start).toString) catch _ => return none

/-- Puts a node where a path leads to.  If links lead there, the path itself becomes one. -/
def put (tree : FileTree) (path : Path) (place : Place) (node : Node) : FileTree :=
  let top := Node.put node place tree.top
  let told := placeOf (String.ofList ((Place.path tree.workingDir).join path).text)
  let plain := told.all (· ≠ "..".toList)
  { tree with
    top := if plain ∧ told ≠ place then Node.put (.link (Place.path place)) told top else top }

/-! ### Repositories -/

def readText? (path : String) : IO (Option Text) := do
  try return some (Text.ofBytes (← IO.FS.readBinFile path)) catch _ => return none

def isDirectory (path : String) : IO Bool := do
  try (← IO.FS.realPath path).isDir catch _ => return false

def below (directory : String) (path : Text) : String :=
  String.ofList ((Path.ofString directory).join ⟨path⟩).text

structure RepositoryData where
  /-- The directory with the current commit. -/
  own : String
  /-- The directory with everything else, which may be shared with other working directories. -/
  common : String

namespace RepositoryData

/-- The data in a directory, if it is one with the data of a repository. -/
def at? (directory : String) : IO (Option RepositoryData) := do
  let common := match ← readText? (directory ++ "/commondir") with
    | some t => below directory (Text.trim t)
    | none => directory
  let found := (← readText? (directory ++ "/HEAD")).isSome && (← isDirectory (common ++ "/objects"))
    && (← isDirectory (common ++ "/refs"))
  return if found then some ⟨directory, common⟩ else none

/-- The data of the repository of a directory.  It is in a directory of its own, which a file may lead
to, or the directory itself is one with the data of a repository. -/
def of? (directory : String) : IO (Option RepositoryData) := do
  let data := directory ++ "/" ++ repositoryData
  let usual ← match (← readText? data).bind (Text.dropPrefix? "gitdir: ".toList) with
    | some t => at? (below directory (Text.trim t))
    | none => at? data
  match usual with
  | some found => return some found
  | none => at? directory

/-- Whether a configuration says that a repository has no working files. -/
def saysBare (config : Text) : Bool :=
  let step := fun (inCore, bare) line =>
    let t := (Text.squeeze line).map Char.toLower
    if t.head? = some '[' then (t == "[core]".toList, bare)
    else (inCore, if inCore && "bare=".toList.isPrefixOf t then t == "bare=true".toList else bare)
  ((splitAt '\n' config).foldl step (false, false)).2

def isBare (d : RepositoryData) : IO Bool := do
  let config := (← readText? (d.common ++ "/config")).getD []
  return d.own == d.common && saysBare config

/-- The branches and other names of commits that are kept in one file. -/
def packedNames (d : RepositoryData) : IO (List (Text × Text)) := do
  let lines := splitAt '\n' ((← readText? (d.common ++ "/packed-refs")).getD [])
  return lines.filterMap fun line =>
    match splitAt ' ' line with
    | [object, name] => some (name, object)
    | _ => none

/-- The commit that a name leads to, through at most `fuel` other names. -/
def commitOf? (d : RepositoryData) : Nat → Text → IO (Option ObjectName)
  | 0, _ => return none
  | fuel + 1, name => do
    let own ← readText? (below d.own name)
    let content ← match own with
      | some t => pure (some t)
      | none => readText? (below d.common name)
    match content with
    | none => return (Keyed.get? (← d.packedNames) name).bind ObjectName.ofText?
    | some t =>
      match Text.dropPrefix? "ref: ".toList (Text.trim t) with
      | some other => d.commitOf? fuel other
      | none => return ObjectName.ofText? (Text.trim t)

/-- The objects that branches and tags lead to. -/
def tips (d : RepositoryData) : IO (List ObjectName) := do
  let nodes ← (← (← IO.FS.realPath (d.common ++ "/refs")).readDir).toList.filterMapM readEntry
  let own := (nodes.flatMap Node.files).filterMap fun file =>
    match file.2 with
    | .text t => ObjectName.ofText? (Text.trim t)
    | .binary _ => none
  return own ++ (← d.packedNames).filterMap fun entry => ObjectName.ofText? entry.2

/-- The commits whose parents are not there. -/
def shallow (d : RepositoryData) : IO (List ObjectName) := do
  return (splitAt '\n' ((← readText? (d.common ++ "/shallow")).getD [])).filterMap ObjectName.ofText?

end RepositoryData

/-- The objects of a repository: directories with files, and packs. -/
structure ObjectStore where
  directories : List String
  packs : List Pack

namespace ObjectStore

def packsIn (objects : String) : IO (List Pack) := do
  if !(← isDirectory (objects ++ "/pack")) then return []
  let inside ← (← IO.FS.realPath (objects ++ "/pack")).readDir
  inside.toList.filterMapM fun entry => do
    let some stem := Text.dropSuffix? ".idx".toList entry.fileName.toList | return none
    let stem := objects ++ "/pack/" ++ String.ofList stem
    return some ⟨← IO.FS.readBinFile (stem ++ ".idx"), ← IO.FS.readBinFile (stem ++ ".pack")⟩

/-- The objects in a directory, and in those that it names. -/
def load (objects : String) : IO ObjectStore := do
  let lines := splitAt '\n' ((← readText? (objects ++ "/info/alternates")).getD [])
  let others := (lines.filter (· ≠ [])).map (below objects)
  let directories := objects :: others
  return ⟨directories, (← directories.mapM packsIn).flatten⟩

def loose? (s : ObjectStore) (name : ObjectName) : IO (Option StoredObject) := do
  let digits := ObjectName.text name
  let file := "/" ++ String.ofList (digits.take 2) ++ "/" ++ String.ofList (digits.drop 2)
  s.directories.foldlM (fun found directory => do
    if found.isSome then return found
    let path : String := directory ++ file
    try return StoredObject.ofLoose? (← IO.FS.readBinFile path) catch _ => return none) none

mutual

partial def object? (s : ObjectStore) (name : ObjectName) : IO (Option StoredObject) := do
  match ← s.loose? name with
  | some object => return some object
  | none =>
    match s.packs.findSome? fun p => (p.place? name).map (p, ·) with
    | some (p, place) => s.inPack? p place
    | none => return none

partial def inPack? (s : ObjectStore) (p : Pack) (place : Nat) : IO (Option StoredObject) := do
  match p.entry? place with
  | none => return none
  | some (.whole object) => return some object
  | some (.onPlace base delta) => return (← s.inPack? p base).bind (Delta.result? · delta)
  | some (.onName base delta) => return (← s.object? base).bind (Delta.result? · delta)

end

/-- What an object is read as. -/
def fetch {α : Type} (s : ObjectStore) (read : StoredObject → Option α) (name : ObjectName) : IO α := do
  match (← s.object? name).bind read with
  | some value => return value
  | none =>
    throw (IO.userError ("object not found - no match for id ("
      ++ String.ofList (ObjectName.text name) ++ ")"))

abbrev Seen := Std.HashMap ObjectName (Keyed CommittedFile)

/-- The files of a directory of a commit, by their paths in it. -/
partial def files (s : ObjectStore) (tree : ObjectName) : StateT Seen IO (Keyed CommittedFile) := do
  if let some known := (← get).get? tree then return known
  let parts ← (← s.fetch TreeEntry.readAll? tree).mapM fun e => do
    match e.mode with
    | some mode => return [(e.name, ⟨mode, ObjectName.text e.object⟩)]
    | none => return (← s.files e.object).map fun file => (e.name ++ '/' :: file.1, file.2)
  modify fun seen => seen.insert tree parts.flatten
  return parts.flatten

/-- The commits that lead to those that wait, besides those that have been found. -/
partial def records (s : ObjectStore) (shallow : List ObjectName) (found : Array ObjectName)
    (known : Std.HashMap ObjectName CommitRecord) :
    List ObjectName → IO (Array ObjectName × Std.HashMap ObjectName CommitRecord)
  | [] => return (found, known)
  | name :: rest => do
    if known.contains name then s.records shallow found known rest
    else
      let record ← s.fetch CommitRecord.read? name
      let record := if shallow.contains name then { record with parents := [] } else record
      s.records shallow (found.push name) (known.insert name record) (record.parents ++ rest)

/-- The commits that lead to some, which come first. -/
def commits (s : ObjectStore) (shallow tips : List ObjectName) : IO (List Commit) := do
  let (found, known) ← s.records shallow #[] ∅ tips
  let places : Std.HashMap ObjectName Nat := found.zipIdx.foldl (fun m (name, i) => m.insert name i) ∅
  let read := found.toList.filterMapM fun name => do
    let some record := known.get? name | return none
    return some {
      author := record.author
      time := record.time
      files := ← s.files record.tree
      parents := record.parents.filterMap places.get?
      id := ObjectName.text name }
  StateT.run' read ∅

end ObjectStore

/-- Reads a repository, with its commits if they are asked for.  Without a current commit these are the
commits of all branches. -/
def readRepository (withCommits : Bool) (place : Place) (d : RepositoryData) : IO Repository := do
  let plain : Repository := { place := place, isBare := ← d.isBare }
  if !withCommits || plain.isBare then return plain
  let store ← ObjectStore.load (d.common ++ "/objects")
  let shallow ← d.shallow
  match ← d.commitOf? 10 "HEAD".toList with
  | some head => return { plain with commits := ← store.commits shallow [head], head := some 0 }
  | none =>
    let tips ← (← d.tips).filterM fun name => do
      return ((← store.object? name).bind CommitRecord.read?).isSome
    return { plain with commits := ← store.commits shallow tips }

/-- The nearest directory with a repository, from a place upwards. -/
def repositoryAbove? : List Text → IO (Option (Place × RepositoryData))
  | [] => return none
  | name :: above => do
    let place := (name :: above).reverse
    match ← RepositoryData.of? (String.ofList (Place.path place).text) with
    | some found => return some (place, found)
    | none => repositoryAbove? above

/-! ### Loading and saving -/

/-- Takes a directory with everything in it into a file tree, and the repository that it is in. -/
def loadDirectory (withCommits : Bool) (tree : FileTree) (path : Path) : IO FileTree := do
  let some inner ← place? path | return tree
  let found ← repositoryAbove? inner.reverse
  let outer := (found.map Prod.fst).getD inner
  let directory ← IO.FS.realPath (String.ofList (Place.path outer).text)
  if !(← directory.isDir) then return tree
  let nodes ← (← directory.readDir).toList.filterMapM fun e => do
    return (← readEntry e).map fun node => (e.fileName.toList, node)
  let repositories ← found.toList.mapM fun (place, data) => readRepository withCommits place data
  let known := { tree with
    top := Node.put (.directory nodes) outer tree.top
    repositories := tree.repositories ++ repositories }
  match known.top.at? inner with
  | some node => return put known path inner node
  | none => return known

def loadFile (tree : FileTree) (path : Path) : IO FileTree := do
  let some place ← place? path | return tree
  let real ← IO.FS.realPath (String.ofList (Place.path place).text)
  if ← real.isDir then return put tree path place ((tree.top.at? place).getD (.directory []))
  else return put tree path place (.file (.ofBytes (← IO.FS.readBinFile real).toList))

/-- Makes known that a directory is there, without what is in it. -/
def mention (tree : FileTree) (path : Path) : IO FileTree := do
  let some place ← place? path | return tree
  return put tree path place ((tree.top.at? place).getD (.directory []))

/-- Writes the files that are new or have changed. -/
def save (before after : FileTree) : IO Unit := do
  for (place, body) in after.top.files do
    match body, before.top.at? place with
    | .text t, some (.file (.text old)) => if t ≠ old then write place t
    | .text t, _ => write place t
    | .binary _, _ => pure ()
where
  write (place : Place) (t : Text) : IO Unit :=
    IO.FS.writeFile (String.ofList (Place.path place).text) (String.ofList t)

end Disk

end LicenseHeader
