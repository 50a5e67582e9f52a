import LicenseHeader.Report.Elapsed
import LicenseHeader.Report.Summary

/-!
# Reports as JSON

A report is written as a JSON document with a summary and the list of files, one member on each line.
-/

namespace LicenseHeader

inductive Json where
  /-- A number as it is written. -/
  | number (written : Text)
  | string (text : Text)
  | array (items : List Json)
  | object (members : List (Text × Json))

namespace Json

def hexDigit (n : Nat) : Char := (Nat.toDigits 16 n).headD '0'

/-- A character as it is written in a string. -/
def escape (c : Char) : Text :=
  match c with
  | '"' => ['\\', '"']
  | '\\' => ['\\', '\\']
  | '\n' => ['\\', 'n']
  | '\r' => ['\\', 'r']
  | '\t' => ['\\', 't']
  | '\x08' => ['\\', 'b']
  | '\x0c' => ['\\', 'f']
  | _ =>
    if c.toNat < 0x20 then
      ['\\', 'u', '0', '0', hexDigit (c.toNat / 16), hexDigit (c.toNat % 16)]
    else [c]

def quote (t : Text) : Text := '"' :: t.flatMap escape ++ ['"']

/-- The start of a line inside `depth` brackets. -/
def newLine (depth : Nat) : Text := '\n' :: List.replicate (2 * depth) ' '

mutual

/-- The written form of a value inside `depth` brackets. -/
def write (depth : Nat) : Json → Text
  | number written => written
  | string t => quote t
  | array [] => "[]".toList
  | array (item :: items) =>
    '[' :: newLine (depth + 1) ++ write (depth + 1) item ++ writeItems (depth + 1) items
      ++ newLine depth ++ [']']
  | object [] => ['{', '}']
  | object ((key, value) :: members) =>
    '{' :: newLine (depth + 1) ++ quote key ++ ": ".toList ++ write (depth + 1) value
      ++ writeMembers (depth + 1) members ++ newLine depth ++ ['}']

/-- The written form of the items after the first. -/
def writeItems (depth : Nat) : List Json → Text
  | [] => []
  | item :: items => ',' :: newLine depth ++ write depth item ++ writeItems depth items

/-- The written form of the members after the first. -/
def writeMembers (depth : Nat) : List (Text × Json) → Text
  | [] => []
  | (key, value) :: members =>
    ',' :: newLine depth ++ quote key ++ ": ".toList ++ write depth value
      ++ writeMembers depth members

end

def text (j : Json) : Text := write 0 j

end Json

def Json.ofInt (i : Int) : Json :=
  .number ((if i < 0 then ['-'] else []) ++ Text.ofNat i.natAbs)

namespace Report

def fileJson (base path : Path) (o : Outcome) : Json :=
  .object (
    [("path".toList, .string (Path.shownFrom base path)), ("outcome".toList, .string o.name)]
      ++ (o.message?.map fun m => ("message".toList, Json.string m)).toList)

def summaryJson (s : Summary) : Json :=
  .object (
    [("action".toList, .string s.action.text), ("total_files".toList, Json.ofInt s.total)]
      ++ s.counts.map (fun (label, n) => (label, Json.ofInt n))
      ++ [("processing_time_seconds".toList,
            .number (Double.ofNanoseconds s.timing.elapsed).scientific),
          ("timestamp".toList, Json.ofInt s.timing.timestamp)])

/-- The document of a report, with paths as seen from `base`. -/
def toJson (r : Report) (timing : Timing) (base : Path) : Json :=
  .object [
    ("summary".toList, summaryJson (.ofReport r timing)),
    ("files".toList, .array (r.entries.map fun (path, o) => fileJson base path o))]

end Report

end LicenseHeader
