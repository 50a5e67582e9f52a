import LicenseHeader.Text.Basic

/-!
# Ignore patterns

A pattern of a file that says which paths a repository ignores.  Patterns and paths are compared byte
by byte, so here every character of a text is one byte.

* `?` stands for one byte and brackets for one of a set;
* `*` stands for any bytes, and in a pattern of whole paths for any but slashes;
* two stars between slashes stand for any number of directories.
-/

namespace LicenseHeader

/-- The text whose characters are the bytes of the UTF-8 form. -/
def Text.bytes (t : Text) : Text :=
  t.flatMap fun c => (String.utf8EncodeChar c).map fun b => Char.ofNat b.toNat

inductive BracketItem where
  | range (low high : Char)
  /-- A named class of characters. -/
  | named (name : Text)
  deriving DecidableEq, Repr

namespace BracketItem

/-- The members of a named class, if there is one with the name. -/
def class? (name : Text) : Option (Char → Bool) :=
  let graph := fun (c : Char) => 0x21 ≤ c.toNat && c.toNat ≤ 0x7E
  match String.ofList name with
  | "alnum" => some Char.isAlphanum
  | "alpha" => some Char.isAlpha
  | "blank" => some fun c => c == ' ' || c == '\t'
  | "cntrl" => some fun c => c.toNat < 0x20 || c.toNat == 0x7F
  | "digit" => some Char.isDigit
  | "graph" => some graph
  | "lower" => some Char.isLower
  | "print" => some fun c => c == ' ' || graph c
  | "punct" => some fun c => graph c && !c.isAlphanum
  | "space" => some fun c => c == ' ' || (0x09 ≤ c.toNat && c.toNat ≤ 0x0D)
  | "upper" => some Char.isUpper
  | "xdigit" => some fun c => c.isDigit || ('a' ≤ c && c ≤ 'f') || ('A' ≤ c && c ≤ 'F')
  | _ => none

def has (c : Char) : BracketItem → Bool
  | range low high => low ≤ c && c ≤ high
  | named name => (class? name).any (· c)

end BracketItem

inductive IgnoreToken where
  | char (c : Char)
  /-- Any character. -/
  | any
  | set (negated : Bool) (items : List BracketItem)
  /-- Any characters, slashes among them or not. -/
  | star (slashes : Bool)
  /-- Any number of directories. -/
  | directories
  /-- Nothing at all: the rest of the pattern is malformed. -/
  | never
  deriving DecidableEq, Repr

namespace IgnoreToken

/-- Reads the items of a bracket expression up to its closing bracket.  `before` is the character
that a range could start with, and `first` says that no item has been read. -/
def readItems : Nat → Option Char → Bool → Text → Option (List BracketItem × Text)
  | 0, _, _, _ => none
  | _, _, _, [] => none
  | fuel + 1, before, first, c :: t =>
    let single := fun (d : Char) (rest : Text) =>
      (readItems fuel (some d) false rest).map fun (items, left) => (.range d d :: items, left)
    let range := fun (low high : Char) (rest : Text) =>
      (readItems fuel none false rest).map fun (items, left) => (.range low high :: items, left)
    match c, before, t with
    | ']', _, _ => if first then single c t else some ([], t)
    | '\\', _, d :: rest => single d rest
    | '\\', _, [] => none
    | '-', some low, '\\' :: rest =>
      match rest with
      | d :: rest => range low d rest
      | [] => none
    | '-', some low, d :: rest => if d = ']' then single c t else range low d rest
    | '[', _, ':' :: rest =>
      let inner := rest.takeWhile (· != ']')
      match rest.dropWhile (· != ']') with
      | [] => none
      | _ :: after =>
        if inner.getLast? = some ':' then
          let name := inner.dropLast
          if (BracketItem.class? name).isSome then
            (readItems fuel none false after).map fun (items, left) => (.named name :: items, left)
          else none
        else single c t
    | _, _, _ => single c t

def readSet (t : Text) : Option (IgnoreToken × Text) :=
  let negated := t.head? == some '!' || t.head? == some '^'
  let body := if negated then t.drop 1 else t
  (readItems (body.length + 1) none true body).map fun (items, rest) => (.set negated items, rest)

/-- The tokens of a pattern, at most `fuel` of them.  `wholePath` says that the pattern is one of
whole paths, and `before` is the character before the part that is left. -/
def readAll (wholePath : Bool) : Nat → Option Char → Text → List IgnoreToken
  | 0, _, _ => []
  | _, _, [] => []
  | fuel + 1, before, c :: t =>
    match c, t with
    | '\\', d :: rest => char d :: readAll wholePath fuel (some d) rest
    | '\\', [] => [never]
    | '?', _ => any :: readAll wholePath fuel (some c) t
    | '[', _ =>
      match readSet t with
      | some (token, rest) => token :: readAll wholePath fuel (some ']') rest
      | none => [never]
    | '*', '*' :: _ =>
      let rest := t.dropWhile (· == '*')
      let opens := before.isNone || before == some '/'
      if !wholePath then star true :: readAll wholePath fuel (some '*') rest
      else
        match opens, rest with
        | true, [] => [star true]
        | true, '/' :: more => directories :: readAll wholePath fuel (some '/') more
        | true, '\\' :: '/' :: more => star true :: char '/' :: readAll wholePath fuel (some '/') more
        | _, _ => star false :: readAll wholePath fuel (some '*') rest
    | '*', _ => star (!wholePath) :: readAll wholePath fuel (some '*') t
    | _, _ => char c :: readAll wholePath fuel (some c) t

/-- Whether a rest of a text passes the test, where characters in front are dropped as long as they
are allowed. -/
def anyRest (allowed : Char → Bool) (test : Text → Bool) : Text → Bool
  | [] => test []
  | c :: t => test (c :: t) || (allowed c && anyRest allowed test t)

/-- Whether tokens match a whole text. -/
def accept (wholePath : Bool) : List IgnoreToken → Text → Bool
  | [], t => t.isEmpty
  | char c :: tokens, t =>
    match t with
    | d :: rest => c = d && accept wholePath tokens rest
    | [] => false
  | any :: tokens, t =>
    match t with
    | d :: rest => !(wholePath && d == '/') && accept wholePath tokens rest
    | [] => false
  | set negated items :: tokens, t =>
    match t with
    | d :: rest =>
      (items.any (·.has d)) != negated && !(wholePath && d == '/') && accept wholePath tokens rest
    | [] => false
  | star slashes :: tokens, t => anyRest (fun d => slashes || d != '/') (accept wholePath tokens) t
  | directories :: tokens, t =>
    accept wholePath tokens t ||
      anyRest (fun _ => true)
        (fun rest =>
          match rest with
          | '/' :: below => accept wholePath tokens below
          | _ => false)
        t
  | never :: _, _ => false

end IgnoreToken

def ignoreMatches (wholePath : Bool) (pattern t : Text) : Bool :=
  IgnoreToken.accept wholePath (IgnoreToken.readAll wholePath (pattern.length + 1) none pattern) t

end LicenseHeader
