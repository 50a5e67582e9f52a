import LicenseHeader.Path
import LicenseHeader.Report.Outcome

/-!
# Reports

A report has one outcome for each file of a run: the first that was given.
-/

namespace LicenseHeader

structure Report where
  action : Action
  /-- The outcomes in the order in which they came. -/
  outcomes : List (Path × Outcome) := []
  deriving DecidableEq, Repr

namespace Report

def get? (r : Report) (path : Path) : Option Outcome :=
  (r.outcomes.find? (·.1.same path)).map Prod.snd

/-- Adds the outcome of a file, unless it has one. -/
def add (r : Report) (path : Path) (o : Outcome) : Report :=
  if (r.get? path).isSome then r else { r with outcomes := r.outcomes ++ [(path, o)] }

/-- The outcomes in the order of the paths. -/
def entries (r : Report) : List (Path × Outcome) :=
  r.outcomes.mergeSort fun a b => Path.compare a.1 b.1 != .gt

def size (r : Report) : Nat := r.outcomes.length

def isEmpty (r : Report) : Bool := r.size = 0

/-- The number of files with an outcome of some kind. -/
def count (r : Report) (kind : Outcome → Bool) : Nat := r.outcomes.countP (kind ·.2)

def paths (r : Report) (kind : Outcome → Bool) : List Path :=
  (r.entries.filter (kind ·.2)).map Prod.fst

def hasMissing (r : Report) : Bool := 0 < r.count (· = .missing)

def hasUpdates (r : Report) : Bool := 0 < r.count Outcome.isUpdate

def hasUnknown (r : Report) : Bool := 0 < r.count (· = .unknown)

def hasErrors (r : Report) : Bool := 0 < r.count (·.message?.isSome)

end Report

end LicenseHeader
