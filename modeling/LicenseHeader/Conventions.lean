import LicenseHeader.Document
import LicenseHeader.Mapping.Table
import LicenseHeader.Repository.History

/-!
# Conventions

The conventions of a project say how the headers of its files are written: the style of each file
name, and the properties that a header can refer to.
-/

namespace LicenseHeader

/-- How the headers of the files of a project are written. -/
structure Conventions where
  mapping : MappingTable
  registry : Registry
  properties : Properties := []
  /-- The words that a header has to have, in lower case. -/
  keywords : List Text := []
  /-- The histories that headers can refer to. -/
  history : Option History := none
  /-- The year that files without a history are of. -/
  currentYear : Text := []

namespace Conventions

def fileNameProperty : Text := "headmark.filename".toList

def styleOf (c : Conventions) (path : Path) : Style :=
  ((c.mapping.resolve? (path.fileName?.getD [])).bind c.registry.get?).getD c.registry.unknown

def propertiesOf (c : Conventions) (path : Path) : Properties :=
  let named := c.properties.put fileNameProperty (path.fileName?.getD [])
  match c.history with
  | none => named
  | some h => (h.properties c.currentYear path).foldl (fun ps (key, v) => ps.put key v) named

/-- The document of a file, if its style is known. -/
def document? (c : Conventions) (path : Path) (text : Text) : Option Document :=
  let style := c.styleOf path
  if style.isUnknown then none
  else some (Document.ofText style c.keywords (c.propertiesOf path) text)

end Conventions

end LicenseHeader
