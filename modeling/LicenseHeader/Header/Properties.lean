import LicenseHeader.Keyed

/-!
# Properties

A header text may refer to properties by `$\x7bkey\x7d`.  Expansion puts their values in, which may
refer to properties again.  A reference to a key that has no value is kept as it is.  A property that
refers to itself, directly or through others, is a cycle.
-/

namespace LicenseHeader

abbrev Properties := Keyed Text

/-- A part of a text with references. -/
inductive Piece where
  | char (c : Char)
  /-- A reference to a property. -/
  | reference (key : Text)
  deriving DecidableEq, Repr

/-- A property that refers to itself: its key, and the keys on the way from the text to it. -/
structure PropertyCycle where
  key : Text
  chain : List Text
  deriving DecidableEq, Repr

def PropertyCycle.message (c : PropertyCycle) : Text :=
  "Property '".toList ++ c.key ++ "' references itself: ".toList
    ++ Text.joinWith " -> ".toList c.chain

namespace Piece

def text : Piece → Text
  | char c => [c]
  | reference key => '$' :: '{' :: key ++ ['}']

/-- The key of the reference that a text starts with. -/
def key? : Text → Option Text
  | '$' :: '{' :: t => if t.contains '}' then some (t.takeWhile (· != '}')) else none
  | _ => none

/-- The pieces of a text, `skip` characters of the current reference being left. -/
def splitFrom : Nat → Text → List Piece
  | _, [] => []
  | skip + 1, _ :: t => splitFrom skip t
  | 0, c :: t =>
    match key? (c :: t) with
    | some key => reference key :: splitFrom (key.length + 2) t
    | none => char c :: splitFrom 0 t

def split (t : Text) : List Piece := splitFrom 0 t

end Piece

def writePieces (write : Text → Except PropertyCycle Text) : List Piece → Except PropertyCycle Text
  | [] => .ok []
  | .char c :: rest => (writePieces write rest).map (c :: ·)
  | .reference key :: rest =>
    match write key with
    | .error cycle => .error cycle
    | .ok value => (writePieces write rest).map (value ++ ·)

namespace Properties

/-- The properties whose keys are not in `chain`. -/
def outside (properties : Properties) (chain : List Text) : Properties :=
  properties.filter fun entry => entry.1 ∉ chain

/-- A property that comes into the chain leaves fewer outside. -/
theorem length_outside_lt {properties : Properties} {chain : List Text} {key value : Text}
    (h : Keyed.get? properties key = some value) (hnot : key ∉ chain) :
    (properties.outside (chain ++ [key])).length < (properties.outside chain).length := by
  have hfewer : properties.outside (chain ++ [key])
      = (properties.outside chain).filter fun entry => entry.1 ≠ key := by
    simp only [outside, List.filter_filter, List.mem_append, List.mem_singleton, not_or,
      Bool.decide_and, Bool.and_comm]
  have hmem : (key, value) ∈ properties.outside chain := by
    rw [outside, List.mem_filter, decide_eq_true_eq]
    exact ⟨Keyed.mem_of_get? h, hnot⟩
  rw [hfewer, List.length_filter_lt_length_iff_exists]
  exact ⟨(key, value), hmem, by simp⟩

/-- Writes a reference inside the values of the properties in `chain`.  Each value that is gone into
brings a new property into the chain, so this ends. -/
def writeReference (properties : Properties) (chain : List Text) (key : Text) :
    Except PropertyCycle Text :=
  match _hvalue : Keyed.get? properties key with
  | none => .ok (Piece.text (.reference key))
  | some value =>
    if _hin : key ∈ chain then .error ⟨key, chain ++ [key]⟩
    else writePieces (writeReference properties (chain ++ [key])) (Piece.split value)
  termination_by (properties.outside chain).length
  decreasing_by exact length_outside_lt _hvalue _hin

/-- Puts the values of properties into a text. -/
def expand (properties : Properties) (t : Text) : Except PropertyCycle Text :=
  writePieces (writeReference properties []) (Piece.split t)

end Properties

end LicenseHeader
