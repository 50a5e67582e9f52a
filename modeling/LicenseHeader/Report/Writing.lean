import LicenseHeader.FileTree.Basic
import LicenseHeader.Failure
import LicenseHeader.Report.Json

/-!
# Reports as tables

A report is written to a file, as a JSON document or as a table.  A table has lines of fields with commas between them, one line for each file, followed by
a summary.  A field with a comma, a quote or a line feed is put in quotes, and its quotes are
doubled.
-/

namespace LicenseHeader

namespace Csv

def quote (t : Text) : Text := '"' :: t.flatMap (fun c => if c = '"' then ['"', '"'] else [c]) ++ ['"']

def needsQuotes (t : Text) : Bool := t.any fun c => c == ',' || c == '"' || c == '\n'

/-- A field as it is written. -/
def field (t : Text) : Text := if needsQuotes t then quote t else t

/-- A line with the given fields as they are. -/
def line (fields : List Text) : Text := Text.joinWith [','] fields ++ ['\n']

end Csv

namespace Report

def csvLine (base path : Path) (o : Outcome) : Text :=
  Csv.line [Csv.field (Path.shownFrom base path), o.name, (o.message?.map Csv.field).getD []]

/-- What stands below the blank line in the table of a report. -/
def csvSummary (r : Report) (timing : Timing) : Text :=
  let s := Summary.ofReport r timing
  Csv.line ["# Summary".toList]
    ++ Csv.line ["Action".toList, s.action.text]
    ++ Csv.line ["Total files processed".toList, Text.ofNat s.total]
    ++ s.counts.flatMap (fun (label, n) => Csv.line [label, Text.ofNat n])
    ++ Csv.line ["Processing time (seconds)".toList, (Double.ofNanoseconds s.timing.elapsed).fixed 2]
    ++ Csv.line ["Generated on".toList, s.timing.date]

/-- The table of a report, with paths as seen from `base`. -/
def toCsv (r : Report) (timing : Timing) (base : Path) : Text :=
  Csv.line ["file_path".toList, "outcome".toList, "message".toList]
    ++ r.entries.flatMap (fun (path, o) => csvLine base path o)
    ++ '\n' :: r.csvSummary timing

end Report

/-- The form in which a report is written to a file. -/
inductive ReportFormat where
  | json
  | csv
  deriving DecidableEq, Repr

def ReportFormat.text : ReportFormat → Text
  | json => "JSON".toList
  | csv => "CSV".toList

def Report.write (r : Report) (format : ReportFormat) (timing : Timing) (base : Path) : Text :=
  match format with
  | .json => (r.toJson timing base).text
  | .csv => r.toCsv timing base

def Report.save (r : Report) (format : ReportFormat) (timing : Timing) (base : Path) (tree : FileTree)
    (path : Path) : Except Failure FileTree :=
  match tree.write path (r.write format timing base) with
  | .ok tree => .ok tree
  | .error cause =>
    .error { contexts := ["Failed to write report to ".toList ++ path.text], cause := .file cause }

end LicenseHeader
