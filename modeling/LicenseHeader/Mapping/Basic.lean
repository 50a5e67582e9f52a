import LicenseHeader.Keyed
import LicenseHeader.Text.Case

/-!
# Mapping entries

A mapping entry gives the style of the files with one name, or of those whose names end in one
extension.  Names are compared in lower case.
-/

namespace LicenseHeader

/-- The files that a mapping entry is about. -/
inductive MappingKey where
  /-- The files whose names end in a dot and this text. -/
  | extension (text : Text)
  /-- The files with this name. -/
  | fileName (text : Text)
  deriving DecidableEq, Repr

def MappingKey.text : MappingKey → Text
  | extension t => t
  | fileName t => t

/-- The extensions and file names given to one style. -/
structure MappingGroup where
  extensions : List Text := []
  fileNames : List Text := []
  deriving DecidableEq, Repr

/-- A file name or extension with its style. -/
structure MappingEntry where
  key : MappingKey
  style : Text
  deriving DecidableEq, Repr

namespace MappingEntry

/-- The entry for an extension, which may be written with dots in front. -/
def ofExtension (extension style : Text) : MappingEntry :=
  ⟨.extension (Text.lower (extension.dropWhile (· == '.'))), style.lower⟩

def ofFileName (name style : Text) : MappingEntry := ⟨.fileName name.lower, style.lower⟩

def ofGroup (style : Text) (g : MappingGroup) : List MappingEntry :=
  g.extensions.map (ofExtension · style) ++ g.fileNames.map (ofFileName · style)

/-- The style of a file name in lower case, if the entry is about it. -/
def resolve? (e : MappingEntry) (name : Text) : Option Text :=
  match e.key with
  | .extension ext => if ('.' :: ext).isSuffixOf name then some e.style else none
  | .fileName key => if key = name then some e.style else none

end MappingEntry

end LicenseHeader
