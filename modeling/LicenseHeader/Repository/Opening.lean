import LicenseHeader.Config.Basic
import LicenseHeader.Journal
import LicenseHeader.Repository.History
import LicenseHeader.Repository.Ignore

/-!
# Opening a repository

The repository of a directory is that of the directory itself or of the nearest one above it.  A gate
decides whether its ignore files and its history are used.
-/

namespace LicenseHeader

namespace Repository

/-- Opens the repository of a directory, which has to have working files. -/
def openFor (tree : FileTree) (directory : Path) : Except Failure Repository :=
  let missing : Failure := {
    contexts := ["Failed to discover git repository from ".toList ++ directory.text]
    cause := .repository }
  match tree.resolve directory with
  | .error _ => .error missing
  | .ok place =>
    match tree.repository? place with
    | none => .error missing
    | some r =>
      if r.isBare then
        .error { cause := .other "Bare git repository has no working directory".toList }
      else .ok r

/-- The repository whose ignore files are used. -/
def forIgnoring (tree : FileTree) (directory : Path) (gate : Gate) :
    Journal (Option Repository) := do
  match gate, openFor tree directory with
  | .disable, _ => return none
  | .auto, .error _ => return none
  | .enable, .error f => throw (f.during "git ignore support is enabled".toList)
  | _, .ok r =>
    Journal.note (.repository (Place.path r.place))
    return some r

/-- The histories of the files of a repository.  One with commits has to have a current one. -/
def readHistory (r : Repository) : Journal History := do
  if r.commits.isEmpty then return {}
  if r.head.isNone then
    throw { contexts := ["Failed to resolve git HEAD".toList], cause := .repository }
  let h ← Journal.ofExcept (History.collect r)
  Journal.note (.collectedHistory h.files.length r.reachable.length)
  return h

/-- The histories that headers can refer to. -/
def forHistory (tree : FileTree) (directory : Path) (gate : Gate) : Journal (Option History) := do
  match gate, openFor tree directory with
  | .disable, _ => return none
  | .auto, .error _ => return none
  | .enable, .error f => throw (f.during "git attrs support is enabled".toList)
  | _, .ok r => return some (← r.readHistory)

end Repository

end LicenseHeader
