import LicenseHeader.FileTree.Basic
import LicenseHeader.Repository.IgnoreRule
import LicenseHeader.Failure

/-!
# Ignored paths

A repository ignores a path if the rules of its ignore files say so of the path or of a directory
above it.  The ignore files of the directories from the path upwards are asked in turn, then the rules
that the repository keeps for itself, and the first that has a rule about the path decides.
-/

namespace LicenseHeader

namespace Repository

def ignoreFileName : Text := ".gitignore".toList

/-- The rules of the ignore file of a directory, given by the names that lead to it from the
directory of the repository. -/
def rulesOf (r : Repository) (tree : FileTree) (directory : List Text) : List IgnoreRule :=
  match tree.readText (Place.path (r.place ++ directory ++ [ignoreFileName])) with
  | .ok t => IgnoreRule.ofText (Text.bytes (directory.flatMap (· ++ ['/']))) t
  | .error _ => []

/-- The rules that a repository keeps for itself, which count after those of all ignore files. -/
def ownRules (r : Repository) (tree : FileTree) : List IgnoreRule :=
  let place := r.place ++ [".git".toList, "info".toList, "exclude".toList]
  match tree.readText (Place.path place) with
  | .ok t => IgnoreRule.ofText [] t
  | .error _ => []

/-- What the ignore files say about a path: whether it is ignored, if they have a rule about it.  The
files of the repository itself are always ignored. -/
def verdict? (files : List (List IgnoreRule)) (names : List Text) (isDirectory : Bool) :
    Option Bool :=
  let name := Text.bytes (names.getLast?.getD [])
  let path := Text.bytes (Text.joinWith ['/'] names)
  if name = ".git".toList then some true
  else
    files.findSome? fun rules =>
      (rules.reverse.find? (·.accepts path name isDirectory)).map fun rule => !rule.negated

/-- Whether a path or a directory above it is ignored; the names are given from the last one. -/
def ignoredFrom (files : List (List IgnoreRule)) : List Text → Bool → Bool
  | [], _ => false
  | name :: above, isDirectory =>
    match verdict? files (name :: above).reverse isDirectory with
    | some ignored => ignored
    | none => ignoredFrom files above true

/-- The directories above a path from the nearest; the names of the path are given from the last
one. -/
def directoriesAbove : List Text → List (List Text)
  | [] => []
  | _ :: above => above.reverse :: directoriesAbove above

/-- Whether the path with some names below the directory of the repository is ignored. -/
def ignoresNames (r : Repository) (tree : FileTree) (names : List Text) (isDirectory : Bool) :
    Bool :=
  let files := (directoriesAbove names.reverse).map (r.rulesOf tree) ++ [r.ownRules tree]
  ignoredFrom files names.reverse isDirectory

/-- The parts of a path after those of a directory. -/
def partsBelow? : List PathPart → List PathPart → Option (List PathPart)
  | [], parts => some parts
  | _ :: _, [] => none
  | d :: ds, p :: ps => if d = p then partsBelow? ds ps else none

/-- Whether a path is ignored.  It is a failure if it does not lie in the directory of the
repository. -/
def ignores (r : Repository) (tree : FileTree) (path : Path) : Except Failure Bool :=
  let absolute := if path.isAbsolute then path else (Place.path tree.workingDir).join path
  match partsBelow? (Place.path r.place).parts absolute.parts with
  | none =>
    .error {
      contexts := [path.text ++ " is outside of the git working directory".toList]
      cause := .other "prefix not found".toList }
  | some [] => .ok false
  | some parts =>
    let relative := (Text.joinWith ['/'] (parts.map PathPart.text)).map fun c =>
      if c = '\\' then '/' else c
    .ok (r.ignoresNames tree ((splitAt '/' relative).filter (· ≠ [])) (tree.isDirectory absolute))

end Repository

end LicenseHeader
