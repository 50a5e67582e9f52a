import LicenseHeader.Keyed

/-!
# Repositories

A repository keeps the history of a directory as commits.  A commit has the whole set of files of its
time, so what it changed is found by comparing it with the commit before.  A file is changed as well if
only its mode is: if it becomes executable, or a link.
-/

namespace LicenseHeader

/-- A moment, as a clock in some time zone shows it. -/
structure Instant where
  /-- The seconds since the start of 1970 in universal time. -/
  seconds : Int
  /-- The distance of the time zone from universal time in minutes. -/
  offset : Int
  deriving DecidableEq, Repr

inductive FileMode where
  | regular
  | executable
  /-- A symbolic link, whose content is the path that it leads to. -/
  | link
  /-- A commit of another repository, whose content is the name of that commit. -/
  | submodule
  deriving DecidableEq, Repr

/-- A file as a commit has it. -/
structure CommittedFile where
  mode : FileMode := .regular
  content : Text
  deriving DecidableEq, Repr

structure Commit where
  author : Text
  time : Instant
  /-- All files by their paths. -/
  files : Keyed CommittedFile
  /-- The places of the commits before this one in the list of all commits. -/
  parents : List Nat
  /-- The name by which the repository knows the commit. -/
  id : Text := []
  deriving DecidableEq, Repr

/-- The names of the directories on the way from the top to a place in a file tree. -/
abbrev Place := List Text

structure Repository where
  /-- The directory whose history it keeps. -/
  place : Place
  /-- Whether it has no working files. -/
  isBare : Bool := false
  commits : List Commit := []
  /-- The place of the current commit in the list; nothing if the current branch has none. -/
  head : Option Nat := none
  deriving DecidableEq, Repr

end LicenseHeader
