import LicenseHeader.Style.Basic
import LicenseHeader.Text.Line

/-!
# Finding a header

`HeaderScan.run` looks for the header of a file in a style.  It works on the lines of the file:

1. lines that have to stay on top, such as an interpreter line, are set aside;
2. after blank lines the first line of a header has to follow;
3. lines are read on as long as they belong to the header;
4. the header counts if its text, in lower case, has every keyword.

Blank lines around a header at the top of a file belong to it.
-/

namespace LicenseHeader

structure HeaderScan where
  /-- The lines above the header, or above the place where one would go. -/
  above : List Line
  /-- The lines of the header, if there is one. -/
  header : Option (List Line)
  /-- The lines below. -/
  below : List Line
  /-- The lines that were not looked at. -/
  unread : List Line

namespace HeaderScan

/-- Sets the lines aside that stay above a header: all up to the last of the first run of such
lines.  If there are none, or nothing follows them, the header goes to the top. -/
def splitAbove (s : Style) (lines : List Line) : List Line × List Line :=
  if s.skip.isNone then ([], lines)
  else
    let isSkip := fun (l : Line) => s.isSkipLine l.body
    let rest := (lines.dropWhile (!isSkip ·)).dropWhile isSkip
    if rest.isEmpty then ([], lines) else (lines.take (lines.length - rest.length), rest)

/-- Where a run of header lines ends. -/
inductive Stop where
  /-- At the end of the file. -/
  | endOfFile
  /-- With a line that closes the block. -/
  | closing
  /-- Before a line that does not belong to the run. -/
  | other (line : Line)

/-- Reads the lines that start with `before`, up to one that closes a block: the lines, where they
end, and what follows. -/
def readRun (s : Style) (before : Text) : List Line → List Line × Stop × List Line
  | [] => ([], .endOfFile, [])
  | l :: rest =>
    if before.isPrefixOf l.body then
      if s.isBlock && s.isLastLine l.body then ([l], .closing, rest)
      else
        match readRun s before rest with
        | (run, stop, left) => (l :: run, stop, left)
    else ([], .other l, rest)

def dropClosing (s : Style) : List Line → List Line
  | [] => []
  | l :: rest => if s.isLastLine l.body then rest else l :: rest

/-- What is left after a block, given where its run of lines ends.  The line after the run belongs to
the block, whatever it is. -/
def afterBlock (s : Style) (rest : List Line) : Stop → List Line
  | .endOfFile => rest
  | .closing => dropClosing s rest
  | .other l =>
    if s.allowsBlank && !l.isBlank then dropClosing s (rest.dropWhile Line.isBlank)
    else dropClosing s rest

/-- What is left after single lines, given where their run ends.  A blank line belongs to them. -/
def afterLines (rest : List Line) : Stop → List Line
  | .other l => if l.isBlank then rest else l :: rest
  | _ => rest

/-- What each line of a run starts with.  White space at the end does not count, unless there is
nothing else. -/
def runStart (s : Style) : Text :=
  if s.before.trimEnd.isEmpty && !s.isBlock then s.before else s.before.trimEnd

/-- Reads the lines of a header after its second line: the lines with words of the header, and what
is left after it. -/
def readBody (s : Style) (second : Line) (rest : List Line) : List Line × List Line :=
  if s.isBlock && s.isLastLine second.body then ([], dropClosing s rest)
  else if second.isBlank then ([], if s.isBlock then dropClosing s rest else rest)
  else
    match readRun s (runStart s) rest with
    | (run, stop, left) => (run, if s.isBlock then afterBlock s left stop else afterLines left stop)

/-- Reads a header: its lines with words, if there is one, and what is left.  A single line at the
end of a file is no header. -/
def readHeader (s : Style) (lines : List Line) : Option (List Line) × List Line :=
  match lines.dropWhile Line.isBlank with
  | [] => (none, [])
  | first :: rest =>
    if s.isFirstLine first.body then
      match if s.allowsBlank then rest.dropWhile Line.isBlank else rest with
      | [] => (none, [])
      | second :: rest =>
        match readBody s second rest with
        | (run, left) => (some (first :: second :: run), left)
    else (none, rest)

/-- Whether every keyword occurs in the words of some lines, in lower case and without breaks. -/
def hasKeywords (keywords : List Text) (lines : List Line) : Bool :=
  let words := lines.flatMap fun l => l.body.lower
  keywords.all (·.isIn words)

/-- What is left below a header, given what is left after its lines.  At the top of a file the blank
lines after the header belong to it; elsewhere one does if the style ends with a blank line. -/
def dropSpacing (s : Style) (atTop : Bool) (rest : List Line) : List Line :=
  if atTop then rest.dropWhile Line.isBlank
  else if s.closing.getLast? = some '\n' then
    match rest with
    | l :: left => if l.isBlank then left else rest
    | [] => []
  else rest

def run (s : Style) (keywords : List Text) (text : Text) : HeaderScan :=
  match splitAbove s (Line.split text) with
  | (above, lines) =>
    match readHeader s lines with
    | (some words, rest) =>
      if hasKeywords keywords words then
        let below := dropSpacing s above.isEmpty rest
        let unread := if above.isEmpty then below.drop 1 else rest.drop 1
        ⟨above, some (lines.take (lines.length - below.length)), below, unread⟩
      else ⟨above, none, lines, rest⟩
    | (none, rest) => ⟨above, none, lines, rest⟩

/-- The place where the header begins or would go, in bytes. -/
def beginsAt (scan : HeaderScan) : Nat := Line.totalSize scan.above

def endsAt? (scan : HeaderScan) : Option Nat :=
  scan.header.map fun lines => scan.beginsAt + Line.totalSize lines

end HeaderScan

end LicenseHeader
