import LicenseHeader.Text.Basic

/-!
# Paths

A path is a text with slashes.  It is kept as it was written, since it is shown that way, but two
paths are the same if their parts are: doubled slashes, slashes at the end and single dots after
the start do not count.

* `Path.parts` gives the parts, `Path.compare` the order of paths part by part;
* `Path.join`, `Path.parent?`, `Path.fileName?` and `Path.withFileName` take paths apart and put
  them together;
* `Path.shownFrom` is the form of a path in a report.
-/

namespace LicenseHeader

inductive PathPart where
  /-- The top directory, in front of an absolute path. -/
  | root
  /-- A single dot at the start of a path. -/
  | here
  /-- Two dots. -/
  | up
  /-- A name. -/
  | name (text : Text)
  deriving DecidableEq, Repr

namespace PathPart

def text : PathPart → Text
  | root => ['/']
  | here => ['.']
  | up => ['.', '.']
  | name t => t

/-- The place of the kind of a part in the order of parts. -/
def rank : PathPart → Nat
  | root => 0
  | here => 1
  | up => 2
  | name _ => 3

/-- The order of parts: names are compared by their characters. -/
def compare : PathPart → PathPart → Ordering
  | name s, name t => Text.compare s t
  | a, b => Ord.compare a.rank b.rank

/-- The part that a segment between two slashes stands for, after the first segment. -/
def ofSegment? (segment : Text) : Option PathPart :=
  if segment = [] ∨ segment = ['.'] then none
  else if segment = ['.', '.'] then some up
  else some (name segment)

end PathPart

/-- A path as it is written. -/
structure Path where
  text : Text
  deriving DecidableEq, Repr

namespace Path

def ofString (s : String) : Path := ⟨s.toList⟩

def isAbsolute (p : Path) : Bool := p.text.head? == some '/'

def parts (p : Path) : List PathPart :=
  match splitAt '/' p.text with
  | [] => []
  | first :: rest =>
    let front : List PathPart :=
      if p.isAbsolute then [.root]
      else if first = [] then []
      else if first = ['.'] then [.here]
      else if first = ['.', '.'] then [.up]
      else [.name first]
    front ++ rest.filterMap PathPart.ofSegment?

def compareParts : List PathPart → List PathPart → Ordering
  | [], [] => .eq
  | [], _ :: _ => .lt
  | _ :: _, [] => .gt
  | a :: as, b :: bs => (PathPart.compare a b).then (compareParts as bs)

/-- The order of paths, part by part. -/
def compare (p q : Path) : Ordering := compareParts p.parts q.parts

def same (p q : Path) : Bool := p.parts == q.parts

/-- The path `q` seen from the directory `p`; an absolute `q` is kept. -/
def join (p q : Path) : Path :=
  if q.isAbsolute then q
  else
    match p.text.getLast? with
    | none => q
    | some c => if c = '/' then ⟨p.text ++ q.text⟩ else ⟨p.text ++ '/' :: q.text⟩

def ofParts (ps : List PathPart) : Path := ps.foldl (fun p part => p.join ⟨part.text⟩) ⟨[]⟩

/-- Drops the segments at the end that are no part of a path. -/
def dropIdle (reversed : List Text) : List Text :=
  reversed.dropWhile fun segment => (PathPart.ofSegment? segment).isNone

/-- The path without its last part; the top directory and the empty path have no parent. -/
def parent? (p : Path) : Option Path :=
  match splitAt '/' p.text with
  | [] => none
  | first :: rest =>
    match dropIdle rest.reverse with
    | [] => if first = [] then none else some ⟨[]⟩
    | _ :: before =>
      match dropIdle before with
      | [] => some (if p.isAbsolute then ⟨['/']⟩ else ⟨first⟩)
      | kept => some ⟨Text.joinWith ['/'] (first :: kept.reverse)⟩

/-- The last part of a path, if it is a name. -/
def fileName? (p : Path) : Option Text :=
  match p.parts.getLast? with
  | some (.name t) => some t
  | _ => none

/-- The path with another last name; a path that does not end in a name gets one more. -/
def withFileName (p : Path) (name : Text) : Path :=
  let directory := if p.fileName?.isSome then p.parent?.getD p else p
  directory.join ⟨name⟩

/-- The path next to a path whose name has `ending` added. -/
def sibling (p : Path) (ending : Text) : Path := p.withFileName (p.fileName?.getD [] ++ ending)

/-- The parts that lead from a directory to a path.  `parted` says that the two have already gone
different ways. -/
def partsFrom (parted : Bool) : List PathPart → List PathPart → Option (List PathPart)
  | [], [] => some []
  | a :: as, [] => some (a :: as)
  | [], _ :: bs => (partsFrom true [] bs).map (PathPart.up :: ·)
  | a :: as, b :: bs =>
    if parted = false ∧ a = b then partsFrom false as bs
    else if b = .here then (partsFrom true as bs).map (a :: ·)
    else if b = .up then none
    else some (List.replicate (bs.length + 1) .up ++ a :: as)

/-- The path from a directory to `p`, if there is one. -/
def from? (base p : Path) : Option Path :=
  if p.isAbsolute ≠ base.isAbsolute then if p.isAbsolute then some p else none
  else (partsFrom false p.parts base.parts).map ofParts

/-- The form of a path in a report: from `base` if it lies below it, with slashes only. -/
def shownFrom (base p : Path) : Text :=
  let path :=
    match from? base p with
    | some q => if q.parts.head? = some PathPart.up then p else q
    | none => p
  path.text.map fun c => if c = '\\' then '/' else c

end Path

end LicenseHeader
