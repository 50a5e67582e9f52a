import LicenseHeader.FileTree.Basic
import LicenseHeader.Selection.Basic
import LicenseHeader.Failure

/-!
# Walking a directory

The files that a selection takes below a directory.  Links are passed over.  An excluded directory is
not entered unless a reversed exclude pattern could keep a file below it.
-/

namespace LicenseHeader

namespace Selection

def below (directory name : Text) : Text := if directory.isEmpty then name else directory ++ '/' :: name

mutual

/-- The files taken at and below a path. -/
def filesAt (s : Selection) (ignored : Text → Except Failure Bool) (path : Text) :
    Node → Except Failure (List Text)
  | .link _ => .ok []
  | .file _ =>
    if s.isIncluded path false then
      match ignored path with
      | .error f => .error f
      | .ok b => .ok (if s.isExcluded path false b then [] else [path])
    else .ok []
  | .directory entries =>
    match ignored path with
    | .error f => .error f
    | .ok b =>
      if s.isExcluded path true b && !s.mayKeepBelow path then .ok []
      else filesIn s ignored path entries

def filesIn (s : Selection) (ignored : Text → Except Failure Bool) (directory : Text) :
    List (Text × Node) → Except Failure (List Text)
  | [] => .ok []
  | (name, n) :: rest =>
    match filesAt s ignored (below directory name) n with
    | .error f => .error f
    | .ok found =>
      match filesIn s ignored directory rest with
      | .error f => .error f
      | .ok more => .ok (found ++ more)

end

/-- The place and the contents of the directory whose files are taken. -/
def openRoot (tree : FileTree) (root : Path) : Except Failure (Path × Node) :=
  match tree.canonical root, tree.node root with
  | .ok path, .ok n => .ok (path, n)
  | .error cause, _ | _, .error cause =>
    .error {
      contexts := ["Failed to resolve base directory: ".toList ++ root.text]
      cause := .file cause }

/-- The files taken below a directory, by their paths from it. -/
def files (s : Selection) (ignored : Text → Except Failure Bool) (tree : FileTree) (root : Path) :
    Except Failure (List Text) :=
  match openRoot tree root with
  | .error f => .error f
  | .ok (_, .directory entries) => filesIn s ignored [] entries
  | .ok _ => .ok []

end Selection

end LicenseHeader
