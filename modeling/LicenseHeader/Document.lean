import LicenseHeader.Header.Scan
import LicenseHeader.Header.Template

/-!
# Documents

A document is a file whose header has been looked for: what is above the header, the header itself,
and what is below it.  A header can be put in and taken out; the rest of the file stays as it is.
-/

namespace LicenseHeader

/-- A file with the place of its header. -/
structure Document where
  style : Style
  /-- The text above the header, or above the place where one would go. -/
  above : Text
  /-- The header, if there is one. -/
  header : Option Text
  /-- The text below the header. -/
  below : Text
  /-- The way the first line break of the file is written. -/
  lineEnding : LineEnding
  /-- The properties that a header of this file can refer to. -/
  properties : Properties

namespace Document

def ofText (style : Style) (keywords : List Text) (properties : Properties) (text : Text) :
    Document :=
  let scan := HeaderScan.run style keywords text
  { style
    above := Line.unsplit scan.above
    header := scan.header.map Line.unsplit
    below := Line.unsplit scan.below
    lineEnding := LineEnding.detect text
    properties }

def text (d : Document) : Text := d.above ++ d.header.getD [] ++ d.below

def hasHeader (d : Document) : Bool := d.header.isSome

/-- The place where the header begins or would go, in bytes. -/
def beginsAt (d : Document) : Nat := d.above.size

def endsAt? (d : Document) : Option Nat := d.header.map fun h => d.beginsAt + h.size

def carries (d : Document) (h : HeaderTemplate) (strict : Bool) : Except PropertyCycle Bool :=
  h.isPresent d.text d.style d.properties strict

/-- Puts a header in.  A header that is already there goes below it. -/
def insertHeader (d : Document) (h : HeaderTemplate) : Except PropertyCycle Document :=
  (h.render d.style d.properties).map fun rendered =>
    { d with
      header := some (d.lineEnding.apply rendered)
      below := d.header.getD [] ++ d.below }

def removeHeader (d : Document) : Document := { d with header := none }

end Document

end LicenseHeader
