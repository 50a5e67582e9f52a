import LicenseHeader.FileTree.Basic
import LicenseHeader.Journal
import LicenseHeader.Resource.Bundled

/-!
# Resources

A resource is a text with a name: a header template or a style document.  It is looked for below the
base directory, below the directory of the configuration, as a path of its own, and among the bundled
templates.
-/

namespace LicenseHeader

/-- Where a resource was found. -/
inductive Location where
  | file (path : Path)
  | bundled (name : Text)
  deriving DecidableEq, Repr

def Location.text : Location → Text
  | file path => path.text
  | bundled name => "bundled:".toList ++ name

/-- A text with the place where it was found. -/
structure Resource where
  location : Location
  content : Text
  deriving DecidableEq, Repr

namespace Resource

/-- The paths at which a resource is looked for. -/
def candidates (baseDir configDir : Path) (name : Text) : List Path :=
  let path : Path := ⟨name⟩
  if path.isAbsolute then [path] else [baseDir.join path, configDir.join path, path]

/-- The resource with a name: the first candidate that is a file, or else a bundled template. -/
def find (tree : FileTree) (baseDir configDir : Path) (name : Text) : Journal Resource := do
  let paths := candidates baseDir configDir name
  match paths.find? tree.isFile with
  | some path =>
    match tree.readText path with
    | .ok content =>
      Journal.note (.foundResource name path)
      return ⟨.file path, content⟩
    | .error cause => throw { cause := .resource (.unreadable path cause) }
  | none =>
    match bundledTemplates.find? (·.1 = name) with
    | some (bundled, content) =>
      Journal.note (.bundledResource bundled)
      return ⟨.bundled bundled, content⟩
    | none => throw { cause := .resource (.notFound name paths) }

end Resource

end LicenseHeader
