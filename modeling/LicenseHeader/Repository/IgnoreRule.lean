import LicenseHeader.Repository.IgnorePattern

/-!
# Ignore rules

A line of an ignore file is a rule: a pattern of the paths that are ignored or, after an exclamation
mark, of those that are not.  A slash at the end says that only directories are meant, any other slash
that the pattern is one of whole paths.  The last rule of a file that matches decides.
-/

namespace LicenseHeader

structure IgnoreRule where
  pattern : Text
  /-- Whether the paths are not ignored. -/
  negated : Bool
  /-- Whether only directories are meant. -/
  directoryOnly : Bool
  /-- Whether whole paths are meant, not only names. -/
  wholePath : Bool
  /-- Whether the pattern has a character that stands for others. -/
  hasWildcard : Bool
  /-- The directory of the ignore file, with a slash at its end unless it is the top one. -/
  directory : Text
  deriving DecidableEq, Repr

namespace IgnoreRule

/-- Takes the characters of a rule off a text, `escaped` telling that a backslash stands before. -/
def takeLine : Bool → Text → Text × Text
  | _, [] => ([], [])
  | escaped, c :: t =>
    if c == '\\' && !escaped then
      match takeLine true t with
      | (line, rest) => (c :: line, rest)
    else if (c == '\n' || c == '\x0b' || c == '\x0c') && !escaped then ([], c :: t)
    else
      match takeLine false t with
      | (line, rest) => (c :: line, rest)

/-- What follows the next line break. -/
def nextLine (t : Text) : Text :=
  (t.dropWhile (· != '\n')).dropWhile fun c => c == '\n' || c == '\r'

/-- Whether a pattern has a wildcard that no backslash stands before. -/
def wild : Bool → Text → Bool
  | _, [] => false
  | escaped, c :: t =>
    if c == '\\' && !escaped then wild true t
    else (!escaped && (c == '*' || c == '?' || c == '[')) || wild false t

/-- Drops the spaces at the end of a line given from its end, but none that a backslash belongs
to. -/
def dropTrailing : Text → Text
  | [] => []
  | c :: t =>
    if (c == ' ' || c == '\t') && (t.takeWhile (· == '\\')).length % 2 = 0 then dropTrailing t
    else c :: t

/-- Drops the backslashes before white space. -/
def unescapeSpaces : Bool → Text → Text
  | _, [] => []
  | escaped, c :: t =>
    let isSpace := c == ' ' || (0x09 ≤ c.toNat && c.toNat ≤ 0x0D)
    if c == '\\' && !escaped then unescapeSpaces true t
    else (if escaped && !isSpace then ['\\', c] else [c]) ++ unescapeSpaces false t

/-- The rule that the characters of a line are. -/
def ofLine (directory : Text) (negated : Bool) (line : Text) : Option IgnoreRule :=
  let slashes := line.count '/'
  let body := if line.head? == some '/' then line.drop 1 else line
  let body := if body.getLast? == some '\r' then body.dropLast else body
  let body := (dropTrailing body.reverse).reverse
  if body.isEmpty then none
  else
    let directoryOnly := body.getLast? == some '/'
    some {
      pattern := unescapeSpaces false (if directoryOnly then body.dropLast else body)
      negated
      directoryOnly
      wholePath := if directoryOnly then 1 < slashes else 0 < slashes
      hasWildcard := wild false line
      directory }

/-- Whether a negated rule without wildcards takes back one without wildcards: the patterns are the
same, or the shorter is a name at the end of the longer. -/
def takesBack (rule neg : IgnoreRule) : Bool :=
  if rule.negated then false
  else if rule.pattern.length = neg.pattern.length then rule.pattern = neg.pattern
  else
    let (short, long) :=
      if rule.pattern.length < neg.pattern.length then (rule.pattern, neg.pattern)
      else (neg.pattern, rule.pattern)
    ('/' :: short).isSuffixOf long && !short.contains '/'

/-- Whether a negated rule without wildcards has an effect on the rules before it. -/
def hasEffect (rules : List IgnoreRule) (neg : IgnoreRule) : Bool :=
  rules.any fun rule =>
    if rule.hasWildcard then
      ignoreMatches rule.wholePath (rule.directory ++ rule.pattern) (neg.directory ++ neg.pattern)
    else takesBack rule neg

/-- Reads the rules of an ignore file, in at most `fuel` steps, after those already read. -/
def readAll (directory : Text) : Nat → List IgnoreRule → Text → List IgnoreRule
  | 0, rules, _ => rules
  | _, rules, [] => rules
  | fuel + 1, rules, c :: t =>
    if c == '#' || c == '\n' || (c == '\r' && t.head? == some '\n') then
      readAll directory fuel rules (nextLine (c :: t))
    else
      let negated := c == '!'
      match takeLine false (if negated then t else c :: t) with
      | (line, rest) =>
        match ofLine directory negated line with
        | none => readAll directory fuel rules (nextLine rest)
        | some rule =>
          let kept := !rule.negated || rule.hasWildcard || hasEffect rules rule
          readAll directory fuel (if kept then rules ++ [rule] else rules) (nextLine rest)

def ofText (directory t : Text) : List IgnoreRule :=
  let bytes := t.bytes
  let body := if bytes.take 3 = Text.bytes ['\ufeff'] then bytes.drop 3 else bytes
  readAll directory (body.length + 1) [] body

/-- Whether a rule is about a path, which is given with its last name. -/
def accepts (rule : IgnoreRule) (path name : Text) (isDirectory : Bool) : Bool :=
  if rule.directoryOnly && !isDirectory then false
  else
    match Text.dropPrefix? rule.directory path with
    | none => false
    | some below => ignoreMatches rule.wholePath rule.pattern (if rule.wholePath then below else name)

end IgnoreRule

end LicenseHeader
