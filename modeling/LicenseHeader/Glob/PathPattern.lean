import LicenseHeader.Glob.Wildcard

/-!
# Path patterns

A path pattern selects files and directories by their path below a root.  Its segments are
wildcards for one path segment each, or `**` for any number of segments.

* A pattern that starts with `/` starts at the root; every other one matches at any depth.
* A pattern also matches everything below what it matches.
* A pattern that ends with `/` or `/**` matches a directory, and all that is below it, but not a
  file at its own end.
* A leading `!` reverses the meaning of a pattern for whoever uses it; matching ignores it.
-/

namespace LicenseHeader.Glob

/-- The segments of a path: its parts between slashes, the empty ones left out. -/
def pathSegments (path : Text) : List Text :=
  (splitAt '/' path).filter fun segment => !segment.isEmpty

structure PathPattern where
  /-- The pattern as written. -/
  origin : Text
  /-- The wildcards before the first `**`. -/
  lead : List Text
  /-- The wildcards between each `**` and the next one, and those after the last. -/
  runs : List (List Text)
  /-- Whether the pattern was written with a leading `!`. -/
  reversed : Bool
  /-- Whether the pattern matches only directories and what is below them. -/
  directoryOnly : Bool
  /-- Whether upper and lower case letters differ. -/
  caseSensitive : Bool
  deriving DecidableEq

namespace PathPattern

/-- The segments of a pattern body with the implied `**` around them. -/
def steps (body : Text) : List Text :=
  match body with
  | '/' :: rest => pathSegments rest ++ [['*', '*']]
  | _ => ['*', '*'] :: pathSegments body ++ [['*', '*']]

def compile (caseSensitive : Bool) (pattern : Text) : PathPattern :=
  let (reversed, body) :=
    match pattern with
    | '!' :: rest => (true, rest)
    | _ => (false, pattern)
  let parts := splitAt ['*', '*'] (steps body)
  { origin := pattern
    lead := parts.headD []
    runs := parts.tail
    reversed := reversed
    directoryOnly := ['/'].isSuffixOf body || ['/', '*', '*'].isSuffixOf body
    caseSensitive := caseSensitive }

def acceptsSegments (p : PathPattern) (segments : List Text) (isDirectory : Bool) : Bool :=
  match stripRun (wildcardMatches p.caseSensitive) p.lead segments with
  | none => false
  | some rest =>
    match afterRuns (wildcardMatches p.caseSensitive) p.runs rest with
    | none => false
    | some below => !below.isEmpty || !p.directoryOnly || isDirectory

def accepts (p : PathPattern) (path : Text) (isDirectory : Bool) : Bool :=
  p.acceptsSegments (pathSegments path) isDirectory

/-- Whether the wildcards and the segments agree as far as both go. -/
def agrees (caseSensitive : Bool) : List Text → List Text → Bool
  | glob :: globs, segment :: segments =>
    wildcardMatches caseSensitive glob segment && agrees caseSensitive globs segments
  | _, _ => true

/-- Whether the pattern may match a path strictly below the directory. -/
def mayMatchBelow (p : PathPattern) (directory : Text) : Bool :=
  agrees p.caseSensitive p.lead (pathSegments directory)

end PathPattern

end LicenseHeader.Glob
