import LicenseHeader.Toml.Scalar

/-!
# Strings in TOML

The four kinds of strings: basic ones with escapes in double quotes and literal ones without in
single quotes, each on one line or, with three quotes, on several.

Every function takes the text after the opening quotes and gives the string with what is left
after the closing ones.
-/

namespace LicenseHeader.Toml

/-- Whether a character other than a line break may stand in a string or a comment. -/
def isTextChar (c : Char) : Bool := c == '\t' || (0x20 ≤ c.toNat && c.toNat != 0x7F)

/-- Drops one line break, if there is one. -/
def newline? : Text → Option Text
  | '\n' :: t => some t
  | '\r' :: '\n' :: t => some t
  | _ => none

/-- Reads a character given by `n` hexadecimal digits. -/
def escapedChar (n : Nat) (t : Text) : Option (Char × Text) :=
  match RegexReader.hexFixed {} n 0 t with
  | some (value, rest) => (RegexReader.charOf? value).map fun c => (c, rest)
  | none => none

/-- Reads what follows a backslash. -/
def escaped : Text → Option (Char × Text)
  | [] => none
  | c :: t =>
    match c with
    | 'b' => some ('\x08', t)
    | 't' => some ('\t', t)
    | 'n' => some ('\n', t)
    | 'f' => some ('\x0c', t)
    | 'r' => some ('\r', t)
    | 'e' => some ('\x1b', t)
    | '"' => some ('"', t)
    | '\\' => some ('\\', t)
    | 'x' => escapedChar 2 t
    | 'u' => escapedChar 4 t
    | 'U' => escapedChar 8 t
    | _ => none

/-- Reads a basic string on one line, in at most `fuel` steps. -/
def basicString : Nat → Text → Option (Text × Text)
  | 0, _ => none
  | _, [] => none
  | fuel + 1, c :: t =>
    if c == '"' then some ([], t)
    else if c == '\\' then
      match escaped t with
      | some (d, rest) => (basicString fuel rest).map fun (s, left) => (d :: s, left)
      | none => none
    else if isTextChar c then (basicString fuel t).map fun (s, left) => (c :: s, left)
    else none

def literalString : Text → Option (Text × Text)
  | [] => none
  | c :: t =>
    if c == '\'' then some ([], t)
    else if isTextChar c then (literalString t).map fun (s, left) => (c :: s, left)
    else none

def dropBlanks : Nat → Text → Text
  | 0, t => t
  | fuel + 1, t =>
    match newline? t with
    | some rest => dropBlanks fuel rest
    | none =>
      match t with
      | ' ' :: rest => dropBlanks fuel rest
      | '\t' :: rest => dropBlanks fuel rest
      | _ => t

/-- Reads a string over several lines, in at most `fuel` steps.  Up to two quotes may stand before
the closing three.  In a basic string a backslash at the end of a line drops the break and the
white space after it. -/
def longString (quote : Char) (escapes : Bool) : Nat → Text → Option (Text × Text)
  | 0, _ => none
  | _, [] => none
  | fuel + 1, c :: t =>
    let quotes := ((c :: t).takeWhile (· == quote)).length
    if 3 ≤ quotes then
      let extra := min quotes 5 - 3
      some (List.replicate extra quote, (c :: t).drop (extra + 3))
    else if c == '\\' && escapes then
      match newline? (t.dropWhile fun d => d == ' ' || d == '\t') with
      | some rest => longString quote escapes fuel (dropBlanks rest.length rest)
      | none =>
        match escaped t with
        | some (d, rest) =>
          (longString quote escapes fuel rest).map fun (s, left) => (d :: s, left)
        | none => none
    else
      match newline? (c :: t) with
      | some rest =>
        (longString quote escapes fuel rest).map fun (s, left) =>
          ((c :: t).take (t.length + 1 - rest.length) ++ s, left)
      | none =>
        if isTextChar c then
          (longString quote escapes fuel t).map fun (s, left) => (c :: s, left)
        else none

/-- Reads a string of any kind, its opening quotes included. -/
def readString : Text → Option (Text × Text)
  | '"' :: '"' :: '"' :: t =>
    let body := (newline? t).getD t
    longString '"' true (body.length + 1) body
  | '\'' :: '\'' :: '\'' :: t =>
    let body := (newline? t).getD t
    longString '\'' false (body.length + 1) body
  | '"' :: t => basicString (t.length + 1) t
  | '\'' :: t => literalString t
  | _ => none

end LicenseHeader.Toml
