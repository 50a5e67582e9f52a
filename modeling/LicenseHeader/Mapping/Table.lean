import LicenseHeader.Mapping.Builtin
import LicenseHeader.Style.Registry

/-!
# Mapping tables

A mapping table gives the style of a file name.  An entry for the whole name wins over one for an
extension, and a longer extension over a shorter one.

Configured entries come first and must agree with each other; built-in ones fill what is left.
-/

namespace LicenseHeader

/-- File names and extensions with their styles. -/
structure MappingTable where
  fileNames : Keyed Text := []
  extensions : Keyed Text := []
  deriving DecidableEq, Repr

namespace MappingTable

def get? (t : MappingTable) : MappingKey → Option Text
  | .extension ext => t.extensions.get? ext
  | .fileName name => t.fileNames.get? name

def put (t : MappingTable) (key : MappingKey) (style : Text) : MappingTable :=
  match key with
  | .extension ext => { t with extensions := t.extensions.put ext style }
  | .fileName name => { t with fileNames := t.fileNames.put name style }

/-- Adds a configured entry, which may not contradict an earlier one. -/
def addConfigured (t : MappingTable) (e : MappingEntry) : Except ConfigError MappingTable :=
  match t.get? e.key with
  | none => .ok (t.put e.key e.style)
  | some style =>
    if style = e.style then .ok t else .error (.conflictingMapping e.key.text style e.style)

/-- Adds a built-in entry unless its key has a style. -/
def addBuiltin (t : MappingTable) (e : MappingEntry) : MappingTable :=
  if (t.get? e.key).isSome then t else t.put e.key e.style

/-- Adds a configured entry, whose style has to be known. -/
def addChecked (r : Registry) (t : MappingTable) (e : MappingEntry) :
    Except ConfigError MappingTable :=
  if r.has e.style then t.addConfigured e else .error (.unknownStyle e.style e.key.text)

/-- The table of the configured groups, one for each style, and perhaps of the built-in entries. -/
def build (groups : Keyed MappingGroup) (useBuiltin : Bool) (r : Registry) :
    Except ConfigError MappingTable := do
  let entries := groups.sorted.flatMap fun (style, g) => MappingEntry.ofGroup style g
  let table ← entries.foldlM (addChecked r) {}
  return if useBuiltin then builtinMapping.foldl addBuiltin table else table

/-- What follows each dot of a text, from the first dot on. -/
def suffixes : Text → List Text
  | [] => []
  | c :: t => if c = '.' then t :: suffixes t else suffixes t

/-- The style of a file name, in any case. -/
def resolve? (t : MappingTable) (name : Text) : Option Text :=
  match t.fileNames.get? name.lower with
  | some style => some style
  | none => (suffixes name.lower).findSome? t.extensions.get?

end MappingTable

end LicenseHeader
