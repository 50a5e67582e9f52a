import LicenseHeader.Config.Basic
import LicenseHeader.Journal

/-!
# Finding a configuration

A configuration is read from the path that is given, or else from the path in a variable of the
environment if there is a file, or else from the usual file in the working directory.  Without any of
them all options have their defaults.
-/

namespace LicenseHeader

namespace Config

/-- The usual name of a configuration file. -/
def usualName : Path := Path.ofString "headmark.toml"

/-- The path of the configuration file, if there is one.  A path that is given need not lead to a
file: reading it then tells so. -/
def discover (tree : FileTree) (explicit environment : Option Path) (workingDir : Path) :
    Journal (Option Path) := do
  if let some path := explicit then
    Journal.note (.explicitConfig path)
    return some path
  if let some path := environment then
    if tree.has path then
      Journal.note (.environmentConfig path)
      return some path
    Journal.note (.missingEnvironmentConfig path)
  let path := workingDir.join usualName
  if tree.has path then
    Journal.note (.localConfig path)
    return some path
  Journal.note .noConfig
  return none

def load (tree : FileTree) (path : Path) : Journal Config := do
  Journal.note (.loadingConfig path)
  let t ←
    match tree.readText path with
    | .ok t => pure t
    | .error cause => throw { cause := .config (.unreadable path cause) }
  let c ←
    match read? t with
    | some c => pure c
    | none => throw { cause := .config (.malformed path) }
  let directory :=
    match path.parent? with
    | some p => if p.text.isEmpty then Path.ofString "." else p
    | none => Path.ofString "."
  Journal.note (.loadedConfig c.includes.length c.excludes.length c.mapping.length)
  return c.resolvePaths directory

/-- The configuration that holds in a working directory. -/
def find (tree : FileTree) (explicit environment : Option Path) (workingDir : Path) :
    Journal Config := do
  match ← discover tree explicit environment workingDir with
  | some path =>
    (load tree path).during ("Failed to load config from ".toList ++ path.text)
  | none => return ({} : Config).resolvePaths workingDir

end Config

end LicenseHeader
