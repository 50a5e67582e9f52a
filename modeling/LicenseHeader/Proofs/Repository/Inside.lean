import LicenseHeader.Proofs.Text.Basic
import LicenseHeader.Repository.Opening
import Mathlib.Data.List.Infix

/-!
# Paths in the directory of a repository

A repository answers whether a path is ignored only if the path lies in its directory.  The repository
of a directory is that of the directory itself or of one above it, so it answers for everything below.

* `Path.parts_join`: a path below a directory has the parts of the directory, and then its own;
* `parts_path_isPrefix`: a directory above another one has its first parts;
* `Repository.exists_ignores`: a repository answers for every path below the directory for which it was
  opened.
-/

namespace LicenseHeader

/-! ### The parts of a path -/

namespace Path

/-- The parts that the segments of a text stand for. -/
def partsOf (t : Text) : List PathPart := (splitAt '/' t).filterMap PathPart.ofSegment?

theorem partsOf_append (front back : Text) :
    partsOf (front ++ '/' :: back) = partsOf front ++ partsOf back := by
  rw [partsOf, splitAt_append_cons, List.filterMap_append]
  rfl

theorem partsOf_nil : partsOf [] = [] := rfl

theorem parts_absolute (t : Text) : parts ⟨'/' :: t⟩ = .root :: partsOf t := rfl

theorem isAbsolute_join (t : Text) {q : Path} (hq : q.isAbsolute = false) :
    (join ⟨'/' :: t⟩ q).isAbsolute = true := by
  rw [join, hq, if_neg Bool.false_ne_true]
  split
  next hnone => cases List.getLast?_eq_none_iff.mp hnone
  next =>
    split
    · rfl
    · rfl

/-- All paths below a directory begin in the same way. -/
theorem exists_join_eq (p : Path) :
    ∃ lead, ∀ q : Path, q.isAbsolute = false → p.join q = ⟨lead ++ q.text⟩ := by
  cases hlast : p.text.getLast? with
  | none =>
    refine ⟨[], fun q hq => ?_⟩
    rw [join, hq, if_neg Bool.false_ne_true, hlast]
    rfl
  | some c =>
    by_cases hslash : c = '/'
    · refine ⟨p.text, fun q hq => ?_⟩
      rw [join, hq, if_neg Bool.false_ne_true, hlast]
      exact if_pos hslash
    · refine ⟨p.text ++ ['/'], fun q hq => ?_⟩
      rw [join, hq, if_neg Bool.false_ne_true, hlast, List.append_assoc]
      exact if_neg hslash

/-- Two paths below a directory are told apart by what comes after it. -/
theorem join_inj {p q r : Path} (hq : q.isAbsolute = false) (hr : r.isAbsolute = false)
    (h : p.join q = p.join r) : q = r := by
  obtain ⟨lead, hlead⟩ := exists_join_eq p
  rw [hlead q hq, hlead r hr] at h
  exact congrArg mk (List.append_cancel_left (mk.inj h))

/-- **The parts of a path below an absolute directory.** -/
theorem parts_join (t : Text) {q : Path} (hq : q.isAbsolute = false) :
    (join ⟨'/' :: t⟩ q).parts = parts ⟨'/' :: t⟩ ++ partsOf q.text := by
  have hjoin : (join ⟨'/' :: t⟩ q).parts = .root :: (partsOf t ++ partsOf q.text) := by
    rw [join, hq, if_neg Bool.false_ne_true]
    cases hlast : t.getLast? with
    | none =>
      obtain rfl := List.getLast?_eq_none_iff.mp hlast
      rfl
    | some c =>
      have hwhole : ('/' :: t).getLast? = some c := by rw [List.getLast?_cons, hlast]; rfl
      rw [hwhole]
      dsimp only
      split
      next hslash =>
        obtain ⟨front, rfl⟩ := List.getLast?_eq_some_iff.mp hlast
        rw [hslash, List.cons_append, List.append_assoc]
        show parts ⟨'/' :: (front ++ '/' :: q.text)⟩ = _
        rw [parts_absolute, partsOf_append, partsOf_append, partsOf_nil, List.append_nil]
      next =>
        rw [List.cons_append, parts_absolute, partsOf_append]
  rw [hjoin, parts_absolute, List.cons_append]

end Path

/-- Two joined texts with a separator between them. -/
theorem Text.joinWith_append_cons (sep : Text) (name : Text) (front : List Text) (next : Text)
    (back : List Text) :
    Text.joinWith sep (name :: front ++ next :: back)
      = Text.joinWith sep (name :: front) ++ sep ++ Text.joinWith sep (next :: back) := by
  induction front generalizing name with
  | nil => rfl
  | cons second front ih =>
    rw [List.cons_append, List.cons_append, joinWith, ← List.cons_append, ih, joinWith]
    simp only [List.append_assoc]

/-- A directory above another one has its first parts. -/
theorem parts_path_isPrefix {above place : Place} (h : above <+: place) :
    (Place.path above).parts <+: (Place.path place).parts := by
  obtain ⟨rest, rfl⟩ := h
  rw [Place.path, Place.path, Path.parts_absolute, Path.parts_absolute, List.prefix_cons_inj]
  cases above with
  | nil => exact List.nil_prefix
  | cons name above =>
    cases rest with
    | nil =>
      rw [List.append_nil]
    | cons next rest =>
      rw [Text.joinWith_append_cons, List.append_assoc, List.singleton_append, Path.partsOf_append]
      exact List.prefix_append _ _

/-! ### The repository of a directory -/

theorem FileTree.isPrefix_of_repository? {tree : FileTree} {place : Place} {r : Repository}
    (h : tree.repository? place = some r) : r.place <+: place := by
  have hkept : ∀ b ∈ tree.repository? place, b.place <+: place := by
    refine List.foldlRecOn _ _ (motive := fun best : Option Repository =>
      ∀ b ∈ best, b.place <+: place) (by simp) ?_
    intro best hbest first hfirst b hb
    have hprefix : first.place <+: place :=
      List.isPrefixOf_iff_prefix.mp (List.mem_filter.mp hfirst).2
    cases best with
    | none =>
      obtain rfl := Option.some.inj hb
      exact hprefix
    | some best =>
      dsimp only at hb
      split at hb
      · obtain rfl := Option.some.inj hb
        exact hprefix
      · exact hbest b hb
  exact hkept r h

namespace Repository

theorem partsBelow?_append (parts more : List PathPart) : partsBelow? parts (parts ++ more) = some more := by
  induction parts with
  | nil => rfl
  | cons part parts ih => rw [List.cons_append, partsBelow?, if_pos rfl, ih]

/-- The repository of a directory keeps the history of this directory or of one above it. -/
theorem isPrefix_of_openFor {tree : FileTree} {directory : Path} {r : Repository}
    (h : openFor tree directory = .ok r) :
    ∃ place, tree.resolve directory = .ok place ∧ r.place <+: place := by
  unfold openFor at h
  dsimp only at h
  split at h
  next => cases h
  next place hresolve =>
    split at h
    next => cases h
    next found hfound =>
      split at h
      next => cases h
      next =>
        obtain rfl := Except.ok.inj h
        exact ⟨place, hresolve, FileTree.isPrefix_of_repository? hfound⟩

/-- **A repository answers for what is in its directory.** -/
theorem exists_ignores {r : Repository} (tree : FileTree) {place : Place} (hplace : r.place <+: place)
    {path : Path} (hpath : path.isAbsolute = false) :
    ∃ b, r.ignores tree ((Place.path place).join path) = .ok b := by
  have hparts : ((Place.path place).join path).parts = (Place.path place).parts ++ Path.partsOf path.text :=
    Path.parts_join _ hpath
  obtain ⟨more, hmore⟩ := parts_path_isPrefix hplace
  have habsolute : ((Place.path place).join path).isAbsolute = true := Path.isAbsolute_join _ hpath
  rw [ignores, habsolute, if_pos rfl, hparts, ← hmore, List.append_assoc, partsBelow?_append]
  split
  next hnone => cases hnone
  next => exact ⟨false, rfl⟩
  next => exact ⟨_, rfl⟩

end Repository

end LicenseHeader
