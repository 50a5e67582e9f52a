import LicenseHeader.Style.Builtin
import LicenseHeader.Toml.Field

/-!
# Style documents and registries

A style document is a TOML table of definitions of styles.  A registry knows styles by their names, in
any case, and grows by the documents that are merged into it.  The style of files that have none is in
it from the start, and no document replaces it.

How the definitions are read from a document, and regular expressions from their written form, are
parameters of `Style.readAllWith`; `Style.readAll` is it with the readers of this library.
-/

namespace LicenseHeader

namespace StyleModel

def fieldNames : List Text :=
  ["firstLine", "endLine", "beforeEachLine", "afterEachLine", "allowBlankLines", "multipleLines",
    "padLines", "skipLinePattern", "firstLineDetectionPattern",
    "lastLineDetectionPattern"].map String.toList

def ofToml? (v : Toml.Value) : Option StyleModel := do
  let fields ← v.record? fieldNames
  let text := fun (name : String) => Toml.field Toml.Value.text? fields name.toList []
  let flag := fun (name : String) => Toml.field Toml.Value.bool? fields name.toList
  let pattern := fun (name : String) => Toml.optional Toml.Value.text? fields name.toList
  return {
    opening := ← text "firstLine"
    closing := ← text "endLine"
    before := ← text "beforeEachLine"
    after := ← text "afterEachLine"
    allowsBlank := ← flag "allowBlankLines" false
    isBlock := ← flag "multipleLines" true
    pads := ← flag "padLines" false
    skip := ← pattern "skipLinePattern"
    first := ← pattern "firstLineDetectionPattern"
    last := ← pattern "lastLineDetectionPattern" }

def readAll? (t : Text) : Option (Keyed StyleModel) := do
  let entries ← Toml.read? t
  entries.mapM fun (name, v) => (ofToml? v).map (name, ·)

end StyleModel

namespace Style

/-- The styles with some definitions, one for each name in lower case, where `compile` reads regular
expressions.  Of several with the same name the last counts. -/
def ofModelsWith (compile : Text → Option Regex) (models : Keyed StyleModel) :
    Except ConfigError (Keyed Style) :=
  models.foldlM
    (fun styles (name, m) => do
      let s ← ofModelWith compile name m
      return styles.put s.id s)
    []

def ofModels (models : Keyed StyleModel) : Except ConfigError (Keyed Style) :=
  ofModelsWith Regex.read? models

/-- The styles of the style document with the given name, where `parse` reads its definitions. -/
def readAllWith (parse : Text → Option (Keyed StyleModel)) (compile : Text → Option Regex)
    (name : Path) (t : Text) : Except ConfigError (Keyed Style) :=
  match parse t with
  | some models => ofModelsWith compile models
  | none => .error (.malformed name)

def readAll (name : Path) (t : Text) : Except ConfigError (Keyed Style) :=
  readAllWith StyleModel.readAll? Regex.read? name t

end Style

/-- The styles that are known, by their names in lower case. -/
structure Registry where
  styles : Keyed Style

namespace Registry

/-- The registry with nothing but the style of files that have none. -/
def empty : Registry := ⟨[(Style.unknownId, .unknown)]⟩

/-- Adds a style, or puts it for the one with the same name.  The style of files that have none stays. -/
def add (r : Registry) (name : Text) (s : Style) : Registry :=
  if name.lower = Style.unknownId then r else ⟨r.styles.put name.lower s⟩

def merge (r : Registry) (styles : Keyed Style) : Registry :=
  styles.foldl (fun r (name, s) => r.add name s) r

/-- The registry of the built-in styles, where `compile` reads regular expressions. -/
def builtinWith (compile : Text → Option Regex) : Except ConfigError Registry :=
  (Style.ofModelsWith compile builtinModels).map empty.merge

def builtin : Except ConfigError Registry := builtinWith Regex.read?

/-- The style with a name, in any case. -/
def get? (r : Registry) (name : Text) : Option Style := r.styles.get? name.lower

def unknown (r : Registry) : Style := (r.styles.get? Style.unknownId).getD .unknown

def has (r : Registry) (name : Text) : Bool := (r.get? name).isSome

def size (r : Registry) : Nat := r.styles.length

def isEmpty (r : Registry) : Bool := r.styles.isEmpty

end Registry

end LicenseHeader
