import LicenseHeader.Text.Basic

/-!
# Keyed lists

A list of values with texts as keys, in the order in which the keys came.  `get?` finds the first
value of a key, and `put` keeps the place of a key that is already there.
-/

namespace LicenseHeader

abbrev Keyed (α : Type) := List (Text × α)

namespace Keyed

variable {α : Type}

def get? (entries : Keyed α) (key : Text) : Option α :=
  match entries with
  | [] => none
  | (k, v) :: rest => if k = key then some v else get? rest key

def has (entries : Keyed α) (key : Text) : Bool := (get? entries key).isSome

/-- Sets the value of a key; a new key goes to the end. -/
def put (entries : Keyed α) (key : Text) (value : α) : Keyed α :=
  match entries with
  | [] => [(key, value)]
  | (k, v) :: rest => if k = key then (k, value) :: rest else (k, v) :: put rest key value

/-- The entries in ascending order of their keys. -/
def sorted (entries : Keyed α) : Keyed α :=
  entries.mergeSort fun a b => Text.compare a.1 b.1 != .gt

@[simp]
theorem get?_nil (key : Text) : get? ([] : Keyed α) key = none := rfl

theorem get?_put (entries : Keyed α) (key : Text) (value : α) (other : Text) :
    get? (put entries key value) other = if other = key then some value else get? entries other := by
  induction entries with
  | nil =>
    by_cases h : key = other
    · simp [put, get?, h]
    · simp [put, get?, h, Ne.symm h]
  | cons entry rest ih =>
    obtain ⟨k, v⟩ := entry
    by_cases hk : k = key
    · subst hk
      by_cases ho : k = other
      · subst ho
        simp [put, get?]
      · simp [put, get?, ho, Ne.symm ho]
    · by_cases ho : k = other
      · subst ho
        simp [put, get?, hk]
      · simp [put, get?, hk, ho, ih]

theorem mem_of_get? {entries : Keyed α} {key : Text} {value : α}
    (h : get? entries key = some value) : (key, value) ∈ entries := by
  induction entries with
  | nil => exact absurd h (by simp)
  | cons entry rest ih =>
    obtain ⟨k, v⟩ := entry
    by_cases hk : k = key
    · simp_all [get?]
    · exact List.mem_cons_of_mem _ (ih (by simpa [get?, hk] using h))

end Keyed

end LicenseHeader
