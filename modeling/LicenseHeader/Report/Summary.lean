import LicenseHeader.Report.Basic

/-!
# Numbers and lists of files

The files of a report are counted in a `Summary`, which goes into the written reports, and put into
lists in `Categories`, which are shown.  Each goes through the files on its own, one after the other.
-/

namespace LicenseHeader

/-- When a report was made and how long the run took. -/
structure Timing where
  /-- The time of the run in nanoseconds. -/
  elapsed : Nat := 0
  /-- The seconds since the start of 1970. -/
  timestamp : Int := 0
  /-- Date and time of the report. -/
  date : Text := []
  deriving DecidableEq, Repr

/-- How many files have which outcome. -/
structure Summary where
  action : Action
  timing : Timing := {}
  total : Nat := 0
  present : Nat := 0
  missing : Nat := 0
  noop : Nat := 0
  added : Nat := 0
  replaced : Nat := 0
  removed : Nat := 0
  unknown : Nat := 0
  errors : Nat := 0
  deriving DecidableEq, Repr

namespace Summary

def add (s : Summary) (o : Outcome) : Summary :=
  let s := { s with total := s.total + 1 }
  match o with
  | .present => { s with present := s.present + 1 }
  | .missing => { s with missing := s.missing + 1 }
  | .noop => { s with noop := s.noop + 1 }
  | .added => { s with added := s.added + 1 }
  | .replaced => { s with replaced := s.replaced + 1 }
  | .removed => { s with removed := s.removed + 1 }
  | .unknown => { s with unknown := s.unknown + 1 }
  | .error _ => { s with errors := s.errors + 1 }

def ofReport (r : Report) (timing : Timing) : Summary :=
  r.entries.foldl (fun s e => s.add e.2) { action := r.action, timing }

theorem timing_add (s : Summary) (o : Outcome) : (s.add o).timing = s.timing := by
  cases o <;> rfl

theorem timing_foldl_add (entries : List (Path × Outcome)) (s : Summary) :
    (entries.foldl (fun s e => s.add e.2) s).timing = s.timing := by
  induction entries generalizing s with
  | nil => rfl
  | cons e entries ih => exact (ih (s.add e.2)).trans (s.timing_add e.2)

/-- The numbers with their labels, in the order in which they are shown. -/
def counts (s : Summary) : List (Text × Nat) := [
  ("present".toList, s.present),
  ("missing".toList, s.missing),
  ("noop".toList, s.noop),
  ("added".toList, s.added),
  ("replaced".toList, s.replaced),
  ("removed".toList, s.removed),
  ("unknown".toList, s.unknown),
  ("errors".toList, s.errors)]

end Summary

/-- The files of a report by their outcomes. -/
structure Categories where
  present : List Path := []
  missing : List Path := []
  noop : List Path := []
  added : List Path := []
  replaced : List Path := []
  removed : List Path := []
  unknown : List Path := []
  /-- The files that could not be handled, and why. -/
  errors : List (Path × Text) := []
  deriving DecidableEq, Repr

namespace Categories

/-- Puts one more file at the end of its list. -/
def add (c : Categories) (path : Path) (o : Outcome) : Categories :=
  match o with
  | .present => { c with present := c.present ++ [path] }
  | .missing => { c with missing := c.missing ++ [path] }
  | .noop => { c with noop := c.noop ++ [path] }
  | .added => { c with added := c.added ++ [path] }
  | .replaced => { c with replaced := c.replaced ++ [path] }
  | .removed => { c with removed := c.removed ++ [path] }
  | .unknown => { c with unknown := c.unknown ++ [path] }
  | .error message => { c with errors := c.errors ++ [(path, message)] }

def ofReport (r : Report) : Categories := r.entries.foldl (fun c e => c.add e.1 e.2) {}

/-- Whether there is something to tell besides the numbers. -/
def hasNews (c : Categories) : Bool :=
  !(c.missing.isEmpty && c.added.isEmpty && c.replaced.isEmpty && c.removed.isEmpty
    && c.errors.isEmpty)

end Categories

end LicenseHeader
