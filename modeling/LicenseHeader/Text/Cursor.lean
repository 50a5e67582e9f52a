import LicenseHeader.Text.Line

/-!
# Cursors

A cursor is a text with a place in it, which moves line by line.  Places are counted in bytes of the
UTF-8 form.  The place where the last line began is kept, so that the cursor can go back to it.

A place between two characters is a boundary.  Reading or changing the text at any other place
fails, which is the outer `Option` of the operations.
-/

namespace LicenseHeader

/-- The parts of a text before and after a number of bytes, if that is a boundary. -/
def Text.atByte? : Nat → Text → Option (Text × Text)
  | 0, t => some ([], t)
  | _ + 1, [] => none
  | n + 1, c :: t =>
    if c.utf8Size ≤ n + 1 then (atByte? (n + 1 - c.utf8Size) t).map fun (s, r) => (c :: s, r)
    else none
  termination_by _ t => t.length

/-- A text with a place in it. -/
structure Cursor where
  text : Text
  /-- The place of the cursor. -/
  offset : Nat := 0
  /-- The place that `rewind` goes to. -/
  mark : Nat := 0
  deriving DecidableEq, Repr

namespace Cursor

def ofText (t : Text) : Cursor := { text := t }

def atEnd (c : Cursor) : Bool := c.text.size ≤ c.offset

def moveTo (c : Cursor) (offset : Nat) : Cursor := { c with offset, mark := offset }

def reset (c : Cursor) : Cursor := c.moveTo 0

/-- Moves back to the start of the last line that was read. -/
def rewind (c : Cursor) : Cursor := { c with offset := c.mark }

def nextLine (c : Cursor) : Option (Option Text × Cursor) :=
  if c.atEnd then some (none, c)
  else
    match Text.atByte? c.offset c.text with
    | none => none
    | some (_, rest) =>
      let (line, advance) :=
        match rest.findIdx? (· = '\n') with
        | some i => (rest.take i, Text.size (rest.take i) + 1)
        | none => (rest, Text.size rest)
      some (some (Text.dropEnd '\r' line), { c with offset := c.offset + advance, mark := c.offset })

/-- Puts a text in at a place.  The cursor stays. -/
def insert (c : Cursor) (place : Nat) (t : Text) : Option Cursor :=
  (Text.atByte? place c.text).map fun (before, after) => { c with text := before ++ t ++ after }

/-- Takes out the text between two places.  The cursor stays. -/
def delete (c : Cursor) (first last : Nat) : Option Cursor :=
  if last < first then none
  else
    match Text.atByte? first c.text, Text.atByte? last c.text with
    | some (before, _), some (_, after) => some { c with text := before ++ after }
    | _, _ => none

end Cursor

end LicenseHeader
