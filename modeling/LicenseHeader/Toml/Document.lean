import LicenseHeader.Toml.Quoted

/-!
# TOML documents

`Toml.read?` reads a whole document and gives its top table, or nothing if the text is no document.

The tables of a document are put together entry by entry.  A table remembers what made it, since a
table may be opened by a header once, may be extended by dotted keys only if dotted keys made it,
and may not be extended at all if it was written in braces.
-/

namespace LicenseHeader.Toml

/-- What made a table. -/
inductive Origin where
  /-- A longer header that passes through it. -/
  | path
  /-- A header of its own. -/
  | header
  /-- A dotted key. -/
  | dotted
  deriving DecidableEq

/-- A part of a document while it is being read. -/
inductive Node where
  /-- A finished value. -/
  | value (v : Value)
  /-- A table that may still grow. -/
  | table (origin : Origin) (entries : List (Text × Node))
  /-- A list of tables, of which the last may still grow. -/
  | tables (earlier : List (List (Text × Node))) (last : List (Text × Node))

mutual

def Node.toValue : Node → Value
  | .value v => v
  | .table _ entries => .table (entryValues entries)
  | .tables earlier last => .array (tableValues earlier ++ [.table (entryValues last)])

def entryValues : List (Text × Node) → List (Text × Value)
  | [] => []
  | (key, node) :: rest => (key, node.toValue) :: entryValues rest

def tableValues : List (List (Text × Node)) → List Value
  | [] => []
  | entries :: rest => .table (entryValues entries) :: tableValues rest

end

/-- Changes the table at a path, making the tables on the way that are not there. -/
def changeAt (change : Keyed Node → Option (Keyed Node)) : List Text → Keyed Node → Option (Keyed Node)
  | [], entries => change entries
  | key :: path, entries =>
    match entries.get? key with
    | none => (changeAt change path []).map fun inner => entries.put key (.table .path inner)
    | some (.table origin inner) =>
      (changeAt change path inner).map fun inner => entries.put key (.table origin inner)
    | some (.tables earlier last) =>
      (changeAt change path last).map fun last => entries.put key (.tables earlier last)
    | some (.value _) => none

def openTable (key : Text) (entries : Keyed Node) : Option (Keyed Node) :=
  match entries.get? key with
  | none => some (entries.put key (.table .header []))
  | some (.table .path inner) => some (entries.put key (.table .header inner))
  | _ => none

/-- Opens the next table of a list of tables. -/
def openNext (key : Text) (entries : Keyed Node) : Option (Keyed Node) :=
  match entries.get? key with
  | none => some (entries.put key (.tables [] []))
  | some (.tables earlier last) => some (entries.put key (.tables (earlier ++ [last]) []))
  | _ => none

/-- Adds a value under a key, which may not have one. -/
def addEntry (key : Text) (v : Value) (entries : Keyed Node) : Option (Keyed Node) :=
  if entries.has key then none else some (entries.put key (.value v))

/-- Adds a value under a dotted key.  The table that takes it has to come from dotted keys; the
tables on the way to it may also come from longer headers. -/
def addDotted (v : Value) : List Text → Text → Keyed Node → Option (Keyed Node)
  | [], key, entries => addEntry key v entries
  | step :: path, key, entries =>
    match entries.get? step with
    | none =>
      (addDotted v path key []).map fun inner => entries.put step (.table .dotted inner)
    | some (.table .dotted inner) =>
      (addDotted v path key inner).map fun inner => entries.put step (.table .dotted inner)
    | some (.table .path inner) =>
      if path.isEmpty then none
      else (addDotted v path key inner).map fun inner => entries.put step (.table .path inner)
    | some (.tables earlier last) =>
      if path.isEmpty then none
      else (addDotted v path key last).map fun last => entries.put step (.tables earlier last)
    | _ => none

/-! ### Reading -/

def dropSpaces (t : Text) : Text := t.dropWhile fun c => c == ' ' || c == '\t'

/-- Drops a comment, if there is one; what is left starts at a line break or the end. -/
def dropComment : Text → Option Text
  | '#' :: t =>
    let rest := t.dropWhile isTextChar
    match rest, newline? rest with
    | [], _ => some []
    | _, some _ => some rest
    | _, none => none
  | t => some t

/-- Drops white space, comments and line breaks. -/
def dropGaps : Nat → Text → Option Text
  | 0, t => some t
  | fuel + 1, t =>
    match dropComment (dropSpaces t) with
    | none => none
    | some rest =>
      match newline? rest with
      | some left => dropGaps fuel left
      | none => some rest

/-- Whether a character may stand in a key without quotes. -/
def isBareChar (c : Char) : Bool := c.isAlphanum || c == '_' || c == '-'

def readKeyPart : Text → Option (Text × Text)
  | '"' :: t => basicString (t.length + 1) t
  | '\'' :: t => literalString t
  | t =>
    let bare := t.takeWhile isBareChar
    if bare.isEmpty then none else some (bare, t.dropWhile isBareChar)

/-- Reads a key: the path to its table and its last part. -/
def readKey : Nat → Text → Option ((List Text × Text) × Text)
  | 0, _ => none
  | fuel + 1, t =>
    match readKeyPart (dropSpaces t) with
    | none => none
    | some (part, rest) =>
      match dropSpaces rest with
      | '.' :: more =>
        (readKey fuel more).map fun ((path, last), left) => ((part :: path, last), left)
      | left => some (([], part), left)

mutual

def readValue : Nat → Text → Option (Value × Text)
  | 0, _ => none
  | fuel + 1, t =>
    match t with
    | '"' :: _ => (readString t).map fun (s, rest) => (.string s, rest)
    | '\'' :: _ => (readString t).map fun (s, rest) => (.string s, rest)
    | '[' :: rest => (readItems fuel rest).map fun (items, left) => (.array items, left)
    | '{' :: rest =>
      (readEntries fuel [] rest).map fun (entries, left) => (.table (entryValues entries), left)
    | _ => readScalar t

/-- Reads the items of an array up to its closing bracket. -/
def readItems : Nat → Text → Option (List Value × Text)
  | 0, _ => none
  | fuel + 1, t =>
    match dropGaps (t.length + 1) t with
    | some (']' :: rest) => some ([], rest)
    | some rest =>
      match readValue fuel rest with
      | none => none
      | some (v, rest) =>
        match dropGaps (rest.length + 1) rest with
        | some (',' :: left) => (readItems fuel left).map fun (vs, left) => (v :: vs, left)
        | some (']' :: left) => some ([v], left)
        | _ => none
    | none => none

/-- Reads the entries of a table in braces up to its closing brace. -/
def readEntries : Nat → Keyed Node → Text → Option (Keyed Node × Text)
  | 0, _, _ => none
  | fuel + 1, entries, t =>
    match dropGaps (t.length + 1) t with
    | some ('}' :: rest) => some (entries, rest)
    | some rest =>
      match readKey (rest.length + 1) rest with
      | some ((path, key), '=' :: rest) =>
        match readValue fuel (dropSpaces rest) with
        | none => none
        | some (v, rest) =>
          match addDotted v path key entries, dropGaps (rest.length + 1) rest with
          | some entries, some (',' :: left) => readEntries fuel entries left
          | some entries, some ('}' :: left) => some (entries, left)
          | _, _ => none
      | _ => none
    | none => none

end

/-- Reads the header of a table after its opening brackets, of which there are one or two. -/
def readHeader (double : Bool) (t : Text) : Option ((List Text × Text) × Text) :=
  match readKey (t.length + 1) t with
  | some (key, ']' :: rest) =>
    if double then (expect ']' rest).map fun left => (key, left) else some (key, rest)
  | _ => none

/-- Reads the end of a line after an entry or a header. -/
def readLineEnd (t : Text) : Option Text :=
  match dropComment (dropSpaces t) with
  | some [] => some []
  | some rest => newline? rest
  | none => none

/-- Reads the lines of a document, given the table that entries go to and all tables so far. -/
def readLines : Nat → List Text → Keyed Node → Text → Option (Keyed Node)
  | 0, _, _, _ => none
  | fuel + 1, current, entries, t =>
    let header := fun (double : Bool) (rest : Text) =>
      match readHeader double rest with
      | none => none
      | some ((path, key), rest) =>
        let step := if double then openNext key else openTable key
        match changeAt step path entries, readLineEnd rest with
        | some entries, some left => readLines fuel (path ++ [key]) entries left
        | _, _ => none
    match dropGaps (t.length + 1) t with
    | none => none
    | some [] => some entries
    | some ('[' :: '[' :: rest) => header true rest
    | some ('[' :: rest) => header false rest
    | some rest =>
      match readKey (rest.length + 1) rest with
      | some ((path, key), '=' :: rest) =>
        match readValue (2 * rest.length + 2) (dropSpaces rest) with
        | none => none
        | some (v, rest) =>
          match changeAt (addDotted v path key) current entries, readLineEnd rest with
          | some entries, some left => readLines fuel current entries left
          | _, _ => none
      | _ => none

/-- The top table of a document, if the text is one.  A byte order mark in front is dropped. -/
def read? (t : Text) : Option (Keyed Value) :=
  let body :=
    match t with
    | '﻿' :: rest => rest
    | _ => t
  (readLines (body.length + 1) [] [] body).map entryValues

end LicenseHeader.Toml
