import LicenseHeader.Toml.Document

/-!
# Fields of TOML tables

Reading the values of known fields out of a value of a document.  A record may be written as a
table or, with its fields in their order, as an array.  Fields that are not known are passed over,
and a field of the wrong kind is a fault of the whole document.
-/

namespace LicenseHeader.Toml

/-- The key under which a date or time stands when it is read as a table. -/
def datetimeKey : Text := "$__toml_private_datetime".toList

namespace Value

def text? : Value → Option Text
  | string t => some t
  | _ => none

def bool? : Value → Option Bool
  | boolean b => some b
  | _ => none

def texts? : Value → Option (List Text)
  | array items => items.mapM text?
  | _ => none

/-- A count that fits into 64 bits. -/
def count? : Value → Option Nat
  | integer i => if 0 ≤ i ∧ i < Int.pow 2 64 then some i.toNat else none
  | _ => none

def entries? : Value → Option (Keyed Value)
  | table entries => some entries
  | datetime d => some [(datetimeKey, .string d.text)]
  | _ => none

/-- The fields of a record with the given field names. -/
def record? (names : List Text) : Value → Option (Keyed Value)
  | array items => some (names.zip items)
  | v => v.entries?

mutual

/-- Whether every integer in a value fits into 64 bits. -/
def fits : Value → Bool
  | integer i => -(Int.pow 2 63) ≤ i && i < Int.pow 2 63
  | array items => fitsAll items
  | table entries => fitsEntries entries
  | _ => true

def fitsAll : List Value → Bool
  | [] => true
  | v :: vs => v.fits && fitsAll vs

def fitsEntries : List (Text × Value) → Bool
  | [] => true
  | (_, v) :: rest => v.fits && fitsEntries rest

end

end Value

/-- The value of a field that need not be there. -/
def optional {α : Type} (decode : Value → Option α) (fields : Keyed Value) (name : Text) :
    Option (Option α) :=
  match fields.get? name with
  | none => some none
  | some v => (decode v).map some

/-- The value of a field with a default. -/
def field {α : Type} (decode : Value → Option α) (fields : Keyed Value) (name : Text)
    (default : α) : Option α :=
  (optional decode fields name).map (·.getD default)

end LicenseHeader.Toml
