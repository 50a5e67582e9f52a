import LicenseHeader.Glob.PathPattern
import LicenseHeader.Selection.Builtin
import LicenseHeader.Config.Error

/-!
# Selections

A selection says which files below a directory are taken.  A file is taken if an include pattern
matches it and it is not excluded.  A path is excluded if an exclude pattern matches it, or if it is
ignored for another reason, unless a reversed exclude pattern matches it.
-/

namespace LicenseHeader

/-- The patterns of a selection as they are given. -/
structure SelectionRules where
  includes : List Text := []
  excludes : List Text := []
  /-- Whether the built-in exclude patterns hold too. -/
  useBuiltin : Bool := true
  caseSensitive : Bool := true

structure Selection where
  includes : List Glob.PathPattern
  excludes : List Glob.PathPattern
  /-- The reversed exclude patterns. -/
  keeps : List Glob.PathPattern

namespace Selection

/-- The selection with some rules.  An include pattern may not be reversed. -/
def compile (rules : SelectionRules) : Except ConfigError Selection :=
  let pattern := Glob.PathPattern.compile rules.caseSensitive
  match rules.includes.find? (·.head? == some '!') with
  | some p => .error (.negatedInclude p)
  | none =>
    let includes := if rules.includes.isEmpty then builtinIncludes else rules.includes
    let builtin := if rules.useBuiltin then builtinExcludes else []
    let excludes := (builtin ++ rules.excludes).map pattern
    .ok {
      includes := includes.map pattern
      excludes := excludes.filter (!·.reversed)
      keeps := excludes.filter (·.reversed) }

def isIncluded (s : Selection) (path : Text) (isDirectory : Bool) : Bool :=
  s.includes.any (·.accepts path isDirectory)

/-- Whether a path is left out, given whether it is ignored for another reason. -/
def isExcluded (s : Selection) (path : Text) (isDirectory ignored : Bool) : Bool :=
  (ignored || s.excludes.any (·.accepts path isDirectory)) &&
    !s.keeps.any (·.accepts path isDirectory)

/-- Whether a reversed exclude pattern could keep a file below a directory. -/
def mayKeepBelow (s : Selection) (directory : Text) : Bool :=
  s.keeps.any (·.mayMatchBelow directory)

end Selection

end LicenseHeader
