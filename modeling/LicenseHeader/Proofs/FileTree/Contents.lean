import LicenseHeader.Proofs.FileTree.Writing

/-!
# The contents of a file tree

Two file trees hold the same files if the same is seen at every place; in which order a directory
lists its entries is not seen.  What a write does is said here for the contents of all places.

* `Node.faceAt?`: what is seen at a place, and `FileTree.SameFiles`: two trees of which the same is
  seen everywhere;
* `FileTree.wrote_of_write`: a write changes one place and nothing else;
* `FileTree.readBody_eq`: what is read from a path is what is seen at the place it leads to;
* `FileTree.Grown`: a tree with some new files, in which every path that led to a place still does
  (`FileTree.Grown.resolveWith`).
-/

namespace LicenseHeader

namespace Node

/-- What is seen of a node: the contents of a file and the target of a link.  Of a directory only
that it is one. -/
inductive Face where
  | file (body : FileBody)
  | link (target : Path)
  | directory

/-- The kind of a node of which something is seen. -/
def Face.kind : Face → Kind
  | file _ => .file
  | link target => .link target
  | directory => .directory

/-- What is seen of a node. -/
def face : Node → Face
  | file body => .file body
  | link target => .link target
  | directory _ => .directory

/-- What is seen at a place. -/
def faceAt? (place : Place) (n : Node) : Option Face := (n.at? place).map face

theorem kindAt?_eq_map_faceAt? (n : Node) (place : Place) :
    n.kindAt? place = (n.faceAt? place).map Face.kind := by
  have hface : Face.kind ∘ face = kind := by
    funext m
    cases m <;> rfl
  rw [kindAt?, faceAt?, Option.map_map, hface]

end Node

namespace FileTree

variable {tree left : FileTree} {p : Path} {t : Text} {place : Place}

/-- Two trees of which the same is seen at every place. -/
structure SameFiles (a b : FileTree) : Prop where
  workingDir : a.workingDir = b.workingDir
  repositories : a.repositories = b.repositories
  faceAt : ∀ place, a.top.faceAt? place = b.top.faceAt? place

/-! ### Writing -/

/-- A text was written to the file at a place, and nothing else was done. -/
structure Wrote (tree : FileTree) (place : Place) (t : Text) (left : FileTree) : Prop where
  workingDir : left.workingDir = tree.workingDir
  repositories : left.repositories = tree.repositories
  faceAt : ∀ other, left.top.faceAt? other
    = if other = place then some (.file (.text t)) else tree.top.faceAt? other

/-- **A write changes one place**, that of the file to which the path leads. -/
theorem wrote_of_write (h : tree.write p t = .ok left) :
    ∃ place, tree.resolveWith true p = .ok place ∧
      (∀ k, tree.top.kindAt? place = some k → k = .file) ∧ tree.Wrote place t left := by
  obtain ⟨place, hresolve, hplace, rfl, -⟩ := write_cases h
  have hreached := reached_of_arrives (splitAt_ne_nil _ _) (resolveWith_eq_ok_iff.mp hresolve).2
  have hnodir : tree.top.kindAt? place ≠ some .directory := by
    intro hk
    exact absurd (hplace _ hk) (by simp)
  refine ⟨place, hresolve, hplace, rfl, rfl, fun other => ?_⟩
  exact Node.map_at?_put_file (fun _ _ => rfl) hreached.parent hnodir (.text t) other

/-- A path to a place where no directory is can be written to. -/
theorem exists_write (hresolve : tree.resolveWith true p = .ok place)
    (hplace : tree.top.kindAt? place ≠ some .directory) (t : Text) :
    ∃ left, tree.write p t = .ok left := by
  rw [write_eq, hresolve]
  dsimp only
  split
  · rename_i hk
    exact absurd hk hplace
  · exact ⟨_, rfl⟩

/-! ### Reading -/

theorem readBody_eq (tree : FileTree) (p : Path) :
    tree.readBody p =
      match tree.resolve p with
      | .error cause => .error cause
      | .ok place =>
        match tree.top.faceAt? place with
        | some (.file body) => .ok body
        | some .directory => .error .isDirectory
        | _ => .error .notFound := by
  rw [readBody, node]
  cases tree.resolve p with
  | error cause => rfl
  | ok place =>
    dsimp only
    rw [Node.faceAt?]
    cases tree.top.at? place with
    | none => rfl
    | some n => cases n <;> rfl

/-! ### New files -/

/-- A tree with some new files; all that was there is still of the same kind. -/
structure Grown (tree left : FileTree) : Prop where
  workingDir : left.workingDir = tree.workingDir
  kindAt : ∀ place, left.top.kindAt? place = tree.top.kindAt? place ∨
    (tree.top.kindAt? place = none ∧ left.top.kindAt? place = some .file)

namespace Grown

variable {create : Bool} {here : Place} {names : List Text} {w : Walk}

theorem kindAt?_of_some (h : tree.Grown left) {k : Node.Kind}
    (hk : tree.top.kindAt? place = some k) : left.top.kindAt? place = some k := by
  rcases h.kindAt place with hsame | ⟨hnone, -⟩
  · rw [hsame, hk]
  · rw [hnone] at hk
    cases hk

/-- A way that paths take is still there.  Only its end may be a new file now, to which it leads as
well. -/
theorem leads (h : tree.Grown left) (hleads : tree.Leads create here names w) :
    left.Leads create here names w := by
  induction hleads with
  | done here => exact .done here
  | stay hhere hname _ ih => exact .stay (h.kindAt?_of_some hhere) hname ih
  | up hhere _ ih => exact .up (h.kindAt?_of_some hhere) ih
  | down hhere hname hfits hk hlink _ ih =>
    exact .down (h.kindAt?_of_some hhere) hname hfits (h.kindAt?_of_some hk) hlink ih
  | link hhere hname hfits hk =>
    exact .link (h.kindAt?_of_some hhere) hname hfits (h.kindAt?_of_some hk)
  | @new here name hcreate hhere hname hk =>
    have hdir := h.kindAt?_of_some hhere
    rcases h.kindAt (here ++ [name]) with hsame | ⟨-, hfile⟩
    · exact .new hcreate hdir hname (hsame.trans hk)
    · exact .down hdir hname (by simp [Fits]) hfile (by simp) (.done _)

theorem arrives (h : tree.Grown left) {fuel : Nat} (harrives : tree.Arrives create fuel here names place) :
    left.Arrives create fuel here names place := by
  induction harrives with
  | stop hleads => exact .stop (h.leads hleads)
  | through hleads _ ih => exact .through (h.leads hleads) ih

/-- **New files are in nobody's way.** -/
theorem resolveWith (h : tree.Grown left) (hresolve : tree.resolveWith create p = .ok place) :
    left.resolveWith create p = .ok place := by
  rw [resolveWith_eq_ok_iff] at hresolve ⊢
  rw [h.workingDir]
  exact ⟨hresolve.1, h.arrives hresolve.2⟩

end Grown

end FileTree

end LicenseHeader
