import LicenseHeader.Path
import LicenseHeader.Repository.Basic

/-!
# File trees

A file tree is a tree of directories with files and symbolic links, a working directory and some
repositories.  It is a value: writing a file gives another tree.

A path is followed name by name from the working directory, or from the top if it is absolute.  Links
on the way are followed, at most forty of them.

* `FileTree.resolve` gives the place that a path leads to;
* `FileTree.readText`, `FileTree.readBody` and `FileTree.write` are the operations on files;
* `FileError` says why one of them failed.
-/

namespace LicenseHeader

/-- Why a file or directory could not be reached, read or written. -/
inductive FileError where
  | notFound
  | notDirectory
  | isDirectory
  | linkLoop
  /-- The bytes of the file are no UTF-8 text. -/
  | notText
  deriving DecidableEq, Repr

namespace FileError

def message : FileError → Text
  | notFound => "No such file or directory (os error 2)".toList
  | notDirectory => "Not a directory (os error 20)".toList
  | isDirectory => "Is a directory (os error 21)".toList
  | linkLoop => "Too many levels of symbolic links (os error 40)".toList
  | notText => "stream did not contain valid UTF-8".toList

end FileError

inductive FileBody where
  | text (t : Text)
  /-- Bytes that are no UTF-8 text. -/
  | binary (bytes : List UInt8)
  deriving DecidableEq, Repr

def FileBody.ofBytes (bytes : List UInt8) : FileBody :=
  match String.fromUTF8? ⟨bytes.toArray⟩ with
  | some s => .text s.toList
  | none => .binary bytes

/-- A file, a link or a directory. -/
inductive Node where
  | file (body : FileBody)
  | link (target : Path)
  | directory (entries : List (Text × Node))

namespace Node

/-- The node at a place, links not followed. -/
def at? : Place → Node → Option Node
  | [], n => some n
  | name :: rest, directory entries => (Keyed.get? entries name).bind (at? rest)
  | _ :: _, _ => none

/-- Puts a node at a place.  Directories on the way that are not there are made. -/
def put (new : Node) : Place → Node → Node
  | [], _ => new
  | name :: rest, directory entries =>
    directory (Keyed.put entries name (put new rest ((Keyed.get? entries name).getD (directory []))))
  | name :: rest, _ => directory [(name, put new rest (directory []))]

def erase : Place → Node → Node
  | [], n => n
  | [name], directory entries => directory (entries.filter fun e => e.1 ≠ name)
  | name :: rest, directory entries =>
    directory (entries.map fun e => if e.1 = name then (e.1, erase rest e.2) else e)
  | _ :: _, n => n

mutual

/-- The files below a node with their places. -/
def files : Node → List (Place × FileBody)
  | file body => [([], body)]
  | link _ => []
  | directory entries => filesOf entries

def filesOf : List (Text × Node) → List (Place × FileBody)
  | [] => []
  | (name, n) :: rest => (files n).map (fun f => (name :: f.1, f.2)) ++ filesOf rest

end

end Node

structure FileTree where
  top : Node := .directory []
  workingDir : Place := []
  repositories : List Repository := []

def Place.path (place : Place) : Path := ⟨'/' :: Text.joinWith ['/'] place⟩

namespace FileTree

/-- The most links that are followed for one path. -/
def maxLinks : Nat := 40

/-- How far a path has been followed. -/
inductive Walk where
  | arrived (place : Place)
  /-- At a link in a directory, with the names after it. -/
  | atLink (directory : Place) (target : Path) (rest : List Text)
  | failed (cause : FileError)

/-- Follows names from a place up to the next link.  With `create`, the last name need not be
there. -/
def walk (tree : FileTree) (create : Bool) : Place → List Text → Walk
  | here, [] => .arrived here
  | here, name :: rest =>
    match tree.top.at? here with
    | none => .failed .notFound
    | some (.directory entries) =>
      if name = [] ∨ name = ['.'] then walk tree create here rest
      else if name = ['.', '.'] then walk tree create here.dropLast rest
      else if create && !rest.isEmpty && rest.all List.isEmpty then .failed .isDirectory
      else
        match Keyed.get? entries name with
        | none =>
          if create && rest.isEmpty then .arrived (here ++ [name]) else .failed .notFound
        | some (.link target) => .atLink here target rest
        | some _ => walk tree create (here ++ [name]) rest
    | some _ => .failed .notDirectory

def start (here : Place) (p : Path) : Place := if p.isAbsolute then [] else here

/-- Follows names from a place, and at most `fuel` links less one. -/
def follow (tree : FileTree) (create : Bool) : Nat → Place → List Text → Except FileError Place
  | 0, _, _ => .error .linkLoop
  | fuel + 1, here, names =>
    match tree.walk create here names with
    | .arrived place => .ok place
    | .failed cause => .error cause
    | .atLink directory target rest =>
      follow tree create fuel (start directory target) (splitAt '/' target.text ++ rest)

def resolveWith (tree : FileTree) (create : Bool) (p : Path) : Except FileError Place :=
  if p.text.isEmpty then .error .notFound
  else tree.follow create (maxLinks + 1) (start tree.workingDir p) (splitAt '/' p.text)

/-- The place of the file or directory that a path leads to. -/
def resolve (tree : FileTree) (p : Path) : Except FileError Place := tree.resolveWith false p

def node (tree : FileTree) (p : Path) : Except FileError Node :=
  match tree.resolve p with
  | .error cause => .error cause
  | .ok place =>
    match tree.top.at? place with
    | some n => .ok n
    | none => .error .notFound

/-- The absolute path without links of what a path leads to. -/
def canonical (tree : FileTree) (p : Path) : Except FileError Path :=
  match tree.node p with
  | .error cause => .error cause
  | .ok _ => (tree.resolve p).map Place.path

def has (tree : FileTree) (p : Path) : Bool := (tree.node p).isOk

def isDirectory (tree : FileTree) (p : Path) : Bool :=
  match tree.node p with
  | .ok (.directory _) => true
  | _ => false

def isFile (tree : FileTree) (p : Path) : Bool :=
  match tree.node p with
  | .ok (.file _) => true
  | _ => false

def readBody (tree : FileTree) (p : Path) : Except FileError FileBody :=
  match tree.node p with
  | .ok (.file body) => .ok body
  | .ok (.directory _) => .error .isDirectory
  | .ok (.link _) => .error .notFound
  | .error cause => .error cause

def readText (tree : FileTree) (p : Path) : Except FileError Text :=
  match tree.readBody p with
  | .ok (.text t) => .ok t
  | .ok (.binary _) => .error .notText
  | .error cause => .error cause

/-- Writes a file, which need not be there before. -/
def write (tree : FileTree) (p : Path) (t : Text) : Except FileError FileTree :=
  match tree.resolveWith true p with
  | .error cause => .error cause
  | .ok place =>
    match tree.top.at? place with
    | some (.directory _) => .error .isDirectory
    | _ => .ok { tree with top := Node.put (.file (.text t)) place tree.top }

/-- The repository of a place: the one of the nearest directory above it. -/
def repository? (tree : FileTree) (place : Place) : Option Repository :=
  (tree.repositories.filter (·.place.isPrefixOf place)).foldl
    (fun best r =>
      match best with
      | some b => if b.place.length ≤ r.place.length then some r else best
      | none => some r)
    none

end FileTree

end LicenseHeader
