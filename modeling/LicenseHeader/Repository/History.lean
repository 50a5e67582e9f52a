import LicenseHeader.FileTree.Basic
import LicenseHeader.Failure
import LicenseHeader.Repository.Instant

/-!
# File histories

The history of a file says when it was first and last changed and by whom.  A commit changes the
files in which it differs from its first parent; a commit without parents changes all its files.

The commits are those that can be reached from the current one.  They are taken in turn, the newest
first of those that are known so far.  It is a failure if one of them has a time that no calendar
shows.
-/

namespace LicenseHeader

namespace Commit

/-- The paths at which two sets of files differ, in mode or content. -/
def changedBetween (before after : Keyed CommittedFile) : List Text :=
  (before.map Prod.fst).filter (fun path => before.get? path != after.get? path)
    ++ (after.map Prod.fst).filter fun path => !before.has path

/-- The files of the first parent of a commit of a list; none if it has no parent. -/
def filesBefore (commits : List Commit) (c : Commit) : Keyed CommittedFile :=
  ((c.parents.head?.bind (commits[·]?)).map Commit.files).getD []

/-- The paths that a commit of a list changes. -/
def changes (commits : List Commit) (c : Commit) : List Text :=
  changedBetween (c.filesBefore commits) c.files

/-- What is wrong with the time of a commit. -/
def timeFault? (c : Commit) : Option Failure :=
  if !c.time.hasZone then
    some { cause := .other ("Invalid timezone offset on commit ".toList ++ c.id) }
  else if !c.time.hasDay then
    some { cause := .other ("Invalid timestamp on commit ".toList ++ c.id) }
  else none

end Commit

namespace Repository

/-- Puts a commit before the first one that is strictly older. -/
def enqueue (commits : List Commit) (i : Nat) : List Nat → List Nat
  | [] => [i]
  | j :: queue =>
    let seconds := fun k => ((commits[k]?).map (·.time.seconds)).getD 0
    if seconds j < seconds i then i :: j :: queue else j :: enqueue commits i queue

def parentsOf (commits : List Commit) (i : Nat) : List Nat :=
  (((commits[i]?).map Commit.parents).getD []).filter (· < commits.length)

/-- Lets a commit wait unless it has been seen; given are those that wait and those that have been
seen. -/
def await (commits : List Commit) (known : List Nat × List Nat) (i : Nat) : List Nat × List Nat :=
  if i ∈ known.2 then known else (enqueue commits i known.1, i :: known.2)

/-- The commits in the order in which they are taken, at most `fuel` of them, given those that wait
and those that have been seen. -/
def visit (commits : List Commit) : Nat → List Nat → List Nat → List Nat
  | 0, _, _ => []
  | _, [], _ => []
  | fuel + 1, i :: queue, seen =>
    let known := (parentsOf commits i).foldl (await commits) (queue, seen)
    i :: visit commits fuel known.1 known.2

/-- The commits that can be reached from the current one. -/
def reachable (r : Repository) : List Commit :=
  match r.head with
  | none => []
  | some i => (visit r.commits r.commits.length [i] [i]).filterMap (r.commits[·]?)

end Repository

/-- What the commits say about a file. -/
structure FileHistory where
  created : Instant
  modified : Instant
  /-- The authors, each once, in ascending order. -/
  authors : List Text
  deriving DecidableEq, Repr

namespace FileHistory

def addAuthor (author : Text) : List Text → List Text
  | [] => [author]
  | a :: authors =>
    match Text.compare author a with
    | .lt => author :: a :: authors
    | .eq => a :: authors
    | .gt => a :: addAuthor author authors

/-- The history of a file that one commit has changed. -/
def ofCommit (c : Commit) : FileHistory := ⟨c.time, c.time, [c.author]⟩

/-- The history of a file that one more commit has changed. -/
def add (h : FileHistory) (c : Commit) : FileHistory where
  created := if c.time.seconds < h.created.seconds then c.time else h.created
  modified := if c.time.seconds < h.modified.seconds then h.modified else c.time
  authors := addAuthor c.author h.authors

end FileHistory

/-- The histories of files, by their paths. -/
structure History where
  files : List (Path × FileHistory) := []

namespace History

def get? (h : History) (p : Path) : Option FileHistory :=
  (h.files.find? (·.1.same p)).map Prod.snd

def addTo (c : Commit) (p : Path) : List (Path × FileHistory) → List (Path × FileHistory)
  | [] => [(p, .ofCommit c)]
  | (q, h) :: rest => if q.same p then (q, h.add c) :: rest else (q, h) :: addTo c p rest

/-- Adds a commit to the histories of the files that it changes, which lie in `directory`. -/
def record (directory : Path) (commits : List Commit) (h : History) (c : Commit) :
    Except Failure History :=
  match c.timeFault? with
  | some f => .error f
  | none =>
    .ok ⟨(c.changes commits).foldl (fun files path => addTo c (directory.join ⟨path⟩) files) h.files⟩

/-- The histories of the files of a repository, its commits being taken in an order. -/
def ofCommits (r : Repository) (order : List Commit) : Except Failure History :=
  order.foldlM (record (Place.path r.place) r.commits) {}

def collect (r : Repository) : Except Failure History := ofCommits r r.reachable

/-- The properties that headers of a file can refer to.  A file without a history is of the current
year. -/
def properties (h : History) (currentYear : Text) (p : Path) : Keyed Text :=
  let created := "headmark.git.createdYear".toList
  let modified := "headmark.git.modifiedYear".toList
  let authors := "headmark.git.authors".toList
  match h.get? p with
  | some f =>
    [(created, f.created.yearNumber), (modified, f.modified.yearNumber),
      (authors, Text.joinWith ", ".toList f.authors)]
  | none => [(created, currentYear), (modified, currentYear), (authors, [])]

end History

end LicenseHeader
