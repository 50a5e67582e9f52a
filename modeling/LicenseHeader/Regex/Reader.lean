import LicenseHeader.Regex.Basic
import LicenseHeader.Regex.Property

/-!
# The notation of regular expressions

`Regex.read?` reads the written form of a regular expression: characters and escapes, classes in
brackets with ranges, nesting and set operations, groups, alternatives, repetitions and flags.  It
gives nothing for a text that is no regular expression.

Every reading function takes the text that is left and gives back what is left after it.  The
functions that call each other take a bound on the number of steps; twice the length of the text
is enough, since of two steps one at least reads a character.

An expression may not be nested too deep.  Groups, repetitions and classes count as one level, and so
do sequences, alternatives and the members of a class, if there are several of them.  How large the
expression becomes when it is made ready for matching is not limited here.
-/

namespace LicenseHeader

/-- The switches that change how the rest of a group is read. -/
structure RegexFlags where
  /-- Letters match in both cases. -/
  ignoreCase : Bool := false
  /-- `^` and `$` match at the ends of lines. -/
  multiLine : Bool := false
  /-- A dot matches a line feed, too. -/
  dotAll : Bool := false
  /-- Classes and case are those of all scripts; otherwise those of ASCII. -/
  unicode : Bool := true
  /-- A carriage return ends a line, too. -/
  crlf : Bool := false
  /-- White space and comments have no meaning. -/
  verbose : Bool := false

namespace RegexReader

/-- What one element of the notation stands for. -/
inductive Atom where
  | literal (c : Char)
  | set (s : CharSet)
  | look (l : Look)

/-- Drops white space and comments; `comment` tells whether one has been opened. -/
def dropTrivia : Bool → Text → Text
  | _, [] => []
  | true, c :: t => dropTrivia (c != '\n') t
  | false, c :: t =>
    if isWhite c then dropTrivia false t
    else if c == '#' then dropTrivia true t
    else c :: t

/-- Drops what has no meaning under the flags. -/
def skip (flags : RegexFlags) (t : Text) : Text :=
  if flags.verbose then dropTrivia false t else t

def hexDigit? (c : Char) : Option Nat :=
  if '0' ≤ c ∧ c ≤ '9' then some (c.toNat - 0x30)
  else if 'a' ≤ c ∧ c ≤ 'f' then some (c.toNat - 0x57)
  else if 'A' ≤ c ∧ c ≤ 'F' then some (c.toNat - 0x37)
  else none

/-- The character with a code point, if there is one. -/
def charOf? (n : Nat) : Option Char :=
  if n.isValidChar then some (Char.ofNat n) else none

def hexFixed (flags : RegexFlags) : Nat → Nat → Text → Option (Nat × Text)
  | 0, value, t => some (value, t)
  | _ + 1, _, [] => none
  | n + 1, value, c :: t =>
    match hexDigit? c with
    | some d => hexFixed flags n (value * 16 + d) (skip flags t)
    | none => none

/-- Reads hexadecimal digits up to a closing brace; at least one. -/
def hexBraced (flags : RegexFlags) : Nat → Option Nat → Text → Option (Nat × Text)
  | 0, _, _ => none
  | n + 1, value, t =>
    match skip flags t with
    | [] => none
    | '}' :: rest => value.map fun v => (v, skip flags rest)
    | c :: rest =>
      match hexDigit? c with
      | some d => hexBraced flags n (some (value.getD 0 * 16 + d)) rest
      | none => none

/-- Reads a character given by its code point, with `n` digits or any number in braces. -/
def hexChar (flags : RegexFlags) (n : Nat) (t : Text) : Option (Char × Text) :=
  let number :=
    match skip flags t with
    | '{' :: rest => hexBraced flags (t.length + 1) none rest
    | rest => hexFixed flags n 0 rest
  match number with
  | some (value, rest) => (charOf? value).map fun c => (c, rest)
  | none => none

/-- Whether a backslash before the character gives the character itself: all of ASCII but letters,
digits and the angle brackets. -/
def isEscapable (c : Char) : Bool :=
  c.toNat < 0x80 && !c.isAlphanum && c != '<' && c != '>'

/-- The letters and hyphens at the front, with what has no meaning between them left out. -/
def boundaryName (flags : RegexFlags) : Nat → Text → Text × Text
  | 0, t => ([], t)
  | n + 1, t =>
    match t with
    | [] => ([], [])
    | c :: rest =>
      if c.isAlpha || c == '-' then
        let (name, left) := boundaryName flags n (skip flags rest)
        (c :: name, left)
      else ([], t)

/-- Reads what follows a word boundary: a kind in braces, or nothing.  Braces that do not start
with a letter or a hyphen are left for a repetition. -/
def boundaryKind (flags : RegexFlags) (t : Text) : Option (Look × Text) :=
  let ascii := !flags.unicode
  match t with
  | '{' :: rest =>
    match skip flags rest with
    | [] => none
    | c :: inner =>
      if c.isAlpha || c == '-' then
        match boundaryName flags (inner.length + 1) (c :: inner) with
        | (name, '}' :: left) =>
          if name = "start".toList then some (.wordStart ascii, left)
          else if name = "end".toList then some (.wordEnd ascii, left)
          else if name = "start-half".toList then some (.wordStartHalf ascii, left)
          else if name = "end-half".toList then some (.wordEndHalf ascii, left)
          else none
        | _ => none
      else some (.wordBoundary ascii, t)
  | _ => some (.wordBoundary ascii, t)

/-- Closes a set under letter case if the flags say so. -/
def closeCase (flags : RegexFlags) (s : CharSet) : CharSet :=
  if flags.ignoreCase then (if flags.unicode then s.foldCase else s.foldAscii) else s

def propertyName (flags : RegexFlags) : Nat → Text → Option (Text × Text)
  | 0, _ => none
  | n + 1, t =>
    match skip flags t with
    | [] => none
    | '}' :: rest => some ([], rest)
    | c :: rest => (propertyName flags n rest).map fun (name, left) => (c :: name, left)

/-- Reads a property of characters: a single letter or a text in braces. -/
def property (flags : RegexFlags) (t : Text) : Option (CharSet × Text) :=
  if !flags.unicode then none
  else
    match skip flags t with
    | [] => none
    | '{' :: rest =>
      match propertyName flags (rest.length + 1) rest with
      | some (name, left) => (Property.ofText? name).map fun s => (closeCase flags s, left)
      | none => none
    | c :: rest => (Property.named? [c]).map fun s => (closeCase flags s, skip flags rest)

/-- Reads what follows a backslash. -/
def escape (flags : RegexFlags) : Text → Option (Atom × Text)
  | [] => none
  | c :: t =>
    let ascii := !flags.unicode
    let digits := if ascii then CharSet.asciiDigits else CharSet.digits
    let spaces := if ascii then CharSet.asciiSpaces else CharSet.spaces
    let words := if ascii then CharSet.asciiWords else CharSet.words
    let character := fun (n : Nat) => (hexChar flags n t).map fun (c, rest) => (Atom.literal c, rest)
    match c with
    | 'x' => character 2
    | 'u' => character 4
    | 'U' => character 8
    | 'd' => some (.set digits, t)
    | 'D' => some (.set digits.compl, t)
    | 's' => some (.set spaces, t)
    | 'S' => some (.set spaces.compl, t)
    | 'w' => some (.set words, t)
    | 'W' => some (.set words.compl, t)
    | 'p' => (property flags t).map fun (s, rest) => (.set s, rest)
    | 'P' => (property flags t).map fun (s, rest) => (.set s.compl, rest)
    | 'a' => some (.literal '\x07', t)
    | 'f' => some (.literal '\x0c', t)
    | 't' => some (.literal '\t', t)
    | 'n' => some (.literal '\n', t)
    | 'r' => some (.literal '\r', t)
    | 'v' => some (.literal '\x0b', t)
    | 'A' => some (.look .textStart, t)
    | 'z' => some (.look .textEnd, t)
    | 'b' => (boundaryKind flags t).map fun (l, rest) => (.look l, rest)
    | 'B' => some (.look (.notWordBoundary ascii), t)
    | '<' => some (.look (.wordStart ascii), t)
    | '>' => some (.look (.wordEnd ascii), t)
    | _ => if isEscapable c then some (.literal c, t) else none

/-- Whether a character may stand for itself: without Unicode only one of ASCII. -/
def allows (flags : RegexFlags) (c : Char) : Bool := flags.unicode || c.toNat < 0x80

/-- The expression for a set.  Without Unicode it may only have ASCII characters. -/
def setRegex (flags : RegexFlags) (s : CharSet) : Option Regex :=
  if !flags.unicode && s.mem '\u0080' then none else some (.chars s)

/-- The expression for one element outside of a class. -/
def atomRegex (flags : RegexFlags) : Atom → Option Regex
  | .literal c => if allows flags c then some (.chars (closeCase flags (.single c))) else none
  | .set s => setRegex flags s
  | .look l => some (.look l)

def dotRegex (flags : RegexFlags) : Option Regex :=
  if !flags.unicode then none
  else if flags.dotAll then some (.chars CharSet.empty.compl)
  else if flags.crlf then some (.chars (CharSet.ranges [(0xA, 0xA), (0xD, 0xD)]).compl)
  else some (.chars (CharSet.single '\n').compl)

def caretLook (flags : RegexFlags) : Look :=
  if !flags.multiLine then .textStart else if flags.crlf then .crlfStart else .lineStart

def dollarLook (flags : RegexFlags) : Look :=
  if !flags.multiLine then .textEnd else if flags.crlf then .crlfEnd else .lineEnd

/-! ### Classes -/

def posixClass : Text → Option (CharSet × Text)
  | ':' :: t =>
    let (negated, t) :=
      match t with
      | '^' :: rest => (true, rest)
      | _ => (false, t)
    let name := t.takeWhile (· != ':')
    match t.dropWhile (· != ':') with
    | ':' :: ']' :: rest =>
      (CharSet.posix? name).map fun s => (if negated then s.compl else s, rest)
    | _ => none
  | _ => none

/-- Reads one member of a class: a literal or an escape. -/
def classAtom (flags : RegexFlags) : Text → Option (Atom × Text)
  | [] => none
  | '\\' :: t => escape flags t
  | c :: t => some (.literal c, t)

/-- Reads a range or a single member of a class. -/
def classRange (flags : RegexFlags) (t : Text) : Option (CharSet × Text) :=
  match classAtom flags t with
  | none => none
  | some (first, t) =>
    let single :=
      match first with
      | .literal c => if allows flags c then some (CharSet.single c) else none
      | .set s => some s
      | .look _ => none
    match skip flags t with
    | [] => none
    | '-' :: after =>
      match skip flags after with
      | [] => none
      | d :: rest =>
        if d == ']' || d == '-' then single.map fun s => (s, '-' :: after)
        else
          match first, classAtom flags (d :: rest) with
          | .literal lo, some (.literal hi, left) =>
            if lo.toNat ≤ hi.toNat && allows flags lo && allows flags hi then
              some (.between lo hi, left)
            else none
          | _, _ => none
    | rest => single.map fun s => (s, rest)

inductive SetOp where
  | inter
  | diff
  | symmDiff

/-- A set of characters, and how deep its notation is nested. -/
structure Draft where
  set : CharSet
  depth : Nat := 0

/-- The members that have been read of a class. -/
structure Members where
  set : CharSet := .empty
  count : Nat := 0
  /-- How deep the deepest member is nested. -/
  depth : Nat := 0

namespace Members

def add (m : Members) (d : Draft) : Members where
  set := .union m.set d.set
  count := m.count + 1
  depth := max m.depth d.depth

def draft (m : Members) : Draft := ⟨m.set, if 1 < m.count then m.depth + 1 else m.depth⟩

end Members

/-- Joins what stands before a set operation with what stands after it. -/
def combine (flags : RegexFlags) (pending : Option (SetOp × Draft)) (d : Draft) : Draft :=
  match pending with
  | none => d
  | some (op, left) =>
    let a := closeCase flags left.set
    let b := closeCase flags d.set
    let set :=
      match op with
      | .inter => CharSet.inter a b
      | .diff => CharSet.diff a b
      | .symmDiff => CharSet.symmDiff a b
    ⟨set, max left.depth d.depth + 1⟩

/-- The number of hyphens at the front and what follows them. -/
def leadingHyphens (flags : RegexFlags) : Nat → Text → Nat × Text
  | n + 1, '-' :: t =>
    let (count, rest) := leadingHyphens flags n (skip flags t)
    (count + 1, rest)
  | _, t => (0, t)

mutual

def classOpen (flags : RegexFlags) : Nat → Text → Option (Draft × Text)
  | 0, _ => none
  | n + 1, t =>
    let (negated, t) :=
      match skip flags t with
      | '^' :: rest => (true, skip flags rest)
      | rest => (false, rest)
    let (hyphens, t) := leadingHyphens flags t.length t
    let start : Members :=
      if hyphens = 0 then {} else { set := CharSet.single '-', count := hyphens }
    let inner :=
      match t with
      | ']' :: rest =>
        if hyphens = 0 then classItems flags n { set := .single ']', count := 1 } none rest
        else classItems flags n start none t
      | _ => classItems flags n start none t
    inner.map fun (d, rest) =>
      let closed := closeCase flags d.set
      (⟨if negated then closed.compl else closed, d.depth + 1⟩, rest)

/-- Reads the members of a class up to its closing bracket. -/
def classItems (flags : RegexFlags) :
    Nat → Members → Option (SetOp × Draft) → Text → Option (Draft × Text)
  | 0, _, _, _ => none
  | n + 1, m, pending, t =>
    let operation := fun (op : SetOp) (rest : Text) =>
      classItems flags n {} (some (op, combine flags pending m.draft)) rest
    match skip flags t with
    | [] => none
    | '[' :: rest =>
      match posixClass rest with
      | some (named, left) => classItems flags n (m.add ⟨named, 0⟩) pending left
      | none =>
        match classOpen flags n rest with
        | some (nested, left) => classItems flags n (m.add nested) pending left
        | none => none
    | ']' :: rest => some (combine flags pending m.draft, rest)
    | '&' :: '&' :: rest => operation .inter rest
    | '-' :: '-' :: rest => operation .diff rest
    | '~' :: '~' :: rest => operation .symmDiff rest
    | t =>
      match classRange flags t with
      | some (member, left) => classItems flags n (m.add ⟨member, 0⟩) pending left
      | none => none

end

/-! ### Repetitions -/

def decimalDigits (flags : RegexFlags) : Nat → Option Nat → Text → Option Nat × Text
  | n + 1, value, c :: t =>
    if c.isDigit then
      decimalDigits flags n (some (value.getD 0 * 10 + (c.toNat - 0x30))) (skip flags t)
    else (value, c :: t)
  | _, value, t => (value, t)

/-- Reads a number of repetitions, with white space around it. -/
def repetitionCount (flags : RegexFlags) (t : Text) : Option (Nat × Text) :=
  let t := t.dropWhile isWhite
  match decimalDigits flags (t.length + 1) none t with
  | (some n, rest) =>
    if n < Nat.pow 2 32 then some (n, skip flags (rest.dropWhile isWhite)) else none
  | (none, _) => none

/-- Reads the bounds of a repetition after the opening brace, and the mark of a lazy one. -/
def repetitionBounds (flags : RegexFlags) (t : Text) : Option ((Nat × Option Nat) × Text) :=
  let close := fun (bounds : Nat × Option Nat) (t : Text) =>
    match t with
    | '}' :: rest =>
      match skip flags rest with
      | '?' :: left => some (bounds, left)
      | left => some (bounds, left)
    | _ => none
  match repetitionCount flags (skip flags t) with
  | none => none
  | some (min, ',' :: rest) =>
    match skip flags rest with
    | '}' :: left => close (min, none) ('}' :: left)
    | rest =>
      match repetitionCount flags rest with
      | some (max, left) => if min ≤ max then close (min, some max) left else none
      | none => none
  | some (min, rest) => close (min, some min) rest

def dropLazy : Text → Text
  | '?' :: t => t
  | t => t

/-! ### Groups -/

def isNameChar (first : Bool) (c : Char) : Bool :=
  if first then c == '_' || (isWordChar c && !inRanges digitRanges c.toNat)
  else c == '.' || c == '[' || c == ']' || isWordChar c

def groupName (t : Text) : Option (Text × Text) :=
  let name := t.takeWhile (· != '>')
  match name, t.dropWhile (· != '>') with
  | c :: cs, _ :: rest =>
    if isNameChar true c && cs.all (isNameChar false) then some (name, rest) else none
  | _, _ => none

def setFlag (flags : RegexFlags) (c : Char) (value : Bool) : Option RegexFlags :=
  match c with
  | 'i' => some { flags with ignoreCase := value }
  | 'm' => some { flags with multiLine := value }
  | 's' => some { flags with dotAll := value }
  | 'u' => some { flags with unicode := value }
  | 'R' => some { flags with crlf := value }
  | 'x' => some { flags with verbose := value }
  | 'U' => some flags
  | _ => none

/-- Reads flags up to a colon or a closing parenthesis, which is left.  No flag and no sign may
come twice, and a sign needs a flag after it. -/
def readFlags (flags : RegexFlags) (seen : List Char) (value : Bool) :
    Text → Option (RegexFlags × List Char × Text)
  | [] => none
  | c :: t =>
    if c == ':' || c == ')' then
      if seen.head? == some '-' then none else some (flags, seen, c :: t)
    else if seen.contains c then none
    else if c == '-' then readFlags flags ('-' :: seen) false t
    else
      match setFlag flags c value with
      | some changed => readFlags changed (c :: seen) value t
      | none => none

/-- What an opening parenthesis starts. -/
inductive Opening where
  /-- Flags for the rest of the group that is being read. -/
  | flags (f : RegexFlags)
  /-- A group with flags of its own, perhaps with a name. -/
  | group (f : RegexFlags) (name : Option Text)

def opening (flags : RegexFlags) (t : Text) : Option (Opening × Text) :=
  match skip flags t with
  | '?' :: '=' :: _ => none
  | '?' :: '!' :: _ => none
  | '?' :: '<' :: '=' :: _ => none
  | '?' :: '<' :: '!' :: _ => none
  | '?' :: 'P' :: '<' :: rest =>
    (groupName rest).map fun (name, left) => (.group flags (some name), left)
  | '?' :: '<' :: rest =>
    (groupName rest).map fun (name, left) => (.group flags (some name), left)
  | '?' :: rest =>
    match readFlags flags [] true rest with
    | some (changed, seen, ')' :: left) =>
      if seen.isEmpty then none else some (.flags changed, left)
    | some (changed, _, ':' :: left) => some (.group changed none, left)
    | _ => none
  | rest => some (.group flags none, rest)

/-! ### Expressions -/

/-- A part of an expression, and how deep its notation is nested. -/
structure Part where
  regex : Regex
  depth : Nat := 0

/-- How deep parts are nested together; a single one is not nested any deeper. -/
def jointDepth (depths : List Nat) : Nat :=
  let deepest := depths.foldl max 0
  if 1 < depths.length then deepest + 1 else deepest

/-- What has been read of a group. -/
structure Progress where
  /-- The finished alternatives, the last one first. -/
  alternatives : List Part
  /-- The items of the current alternative, the last one first; `none` is a change of flags. -/
  items : List (Option Part)
  flags : RegexFlags
  /-- The names of all groups so far. -/
  names : List Text

namespace Progress

def push (p : Progress) (part : Part) : Progress := { p with items := some part :: p.items }

def current (p : Progress) : Part where
  regex :=
    match p.items.filterMap fun item => item.map Part.regex with
    | [] => .empty
    | last :: earlier => earlier.foldl (fun right r => .seq r right) last
  depth := jointDepth (p.items.map fun item => (item.map Part.depth).getD 0)

/-- The expression of all alternatives. -/
def close (p : Progress) : Part where
  regex := p.alternatives.foldl (fun right part => .alt part.regex right) p.current.regex
  depth := jointDepth (p.current.depth :: p.alternatives.map Part.depth)

/-- Repeats the last item; there has to be one, and it may not be a change of flags. -/
def repeatLast (p : Progress) (min : Nat) (max : Option Nat) : Option Progress :=
  match p.items with
  | some part :: items =>
    some { p with items := some ⟨.rep part.regex min max, part.depth + 1⟩ :: items }
  | _ => none

end Progress

/-- Reads a group up to its closing parenthesis, which is left, or to the end of the text. -/
def readGroup : Nat → Progress → Text → Option (Progress × Text)
  | 0, _, _ => none
  | n + 1, p, t =>
    let flags := p.flags
    let continueAt := fun (depth : Nat) (r : Option Regex) (rest : Text) =>
      match r with
      | some r => readGroup n (p.push ⟨r, depth⟩) rest
      | none => none
    let continueWith := continueAt 0
    let repeated := fun (min : Nat) (max : Option Nat) (rest : Text) =>
      match p.repeatLast min max with
      | some q => readGroup n q rest
      | none => none
    match skip flags t with
    | [] => some (p, [])
    | ')' :: rest => some (p, ')' :: rest)
    | '(' :: rest =>
      match opening flags rest with
      | some (.flags changed, left) =>
        readGroup n { p with flags := changed, items := none :: p.items } left
      | some (.group inner name, left) =>
        let names := name.toList ++ p.names
        if name.any fun s => p.names.contains s then none
        else
          match readGroup n ⟨[], [], inner, names⟩ left with
          | some (q, ')' :: after) =>
            let group : Part := { q.close with depth := q.close.depth + 1 }
            readGroup n { p.push group with names := q.names } after
          | _ => none
      | none => none
    | '|' :: rest =>
      readGroup n { p with alternatives := p.current :: p.alternatives, items := [] } rest
    | '[' :: rest =>
      match classOpen flags (2 * rest.length + 2) rest with
      | some (d, left) => continueAt d.depth (setRegex flags d.set) left
      | none => none
    | '?' :: rest => repeated 0 (some 1) (dropLazy rest)
    | '*' :: rest => repeated 0 none (dropLazy rest)
    | '+' :: rest => repeated 1 none (dropLazy rest)
    | '{' :: rest =>
      match repetitionBounds flags rest with
      | some ((min, max), left) => repeated min max left
      | none => none
    | '\\' :: rest =>
      match escape flags rest with
      | some (atom, left) => continueWith (atomRegex flags atom) left
      | none => none
    | '.' :: rest => continueWith (dotRegex flags) rest
    | '^' :: rest => continueWith (some (.look (caretLook flags))) rest
    | '$' :: rest => continueWith (some (.look (dollarLook flags))) rest
    | c :: rest => continueWith (atomRegex flags (.literal c)) rest

end RegexReader

/-- How deep an expression may be nested. -/
def Regex.maxDepth : Nat := 250

/-- The regular expression with a written form, if the text is one. -/
def Regex.read? (t : Text) : Option Regex :=
  match RegexReader.readGroup (t.length + 1) ⟨[], [], {}, []⟩ t with
  | some (p, []) => if p.close.depth ≤ maxDepth then some p.close.regex else none
  | _ => none

end LicenseHeader
