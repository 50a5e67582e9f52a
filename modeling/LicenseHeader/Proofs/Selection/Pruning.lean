import LicenseHeader.Proofs.Glob.Below
import LicenseHeader.Selection.Walk
import Mathlib.Data.List.Infix

/-!
# Leaving directories out

The walk over a directory does not enter a directory that is excluded, unless a reversed exclude
pattern could keep a file below it.  This changes nothing: the files that are taken are those that
would be taken one by one, in whatever order the directories list their entries.

* `Node.HasFile`: a file is at a place, reached through directories alone;
* `Node.Reordered`: the same tree with other orders of entries;
* `Selection.isExcluded_below`: what is below a directory that is not entered is excluded;
* `Selection.findsTaken`: what the walk finds at and below a path;
* `Selection.mem_files_iff_taken` is the result.
-/

namespace LicenseHeader

/-! ### The files of a tree -/

namespace Node

/-- Induction on a node, and for a directory on all nodes in it. -/
@[elab_as_elim]
theorem induct {motive : Node → Prop} (file : ∀ body, motive (.file body))
    (link : ∀ target, motive (.link target))
    (directory : ∀ entries, (∀ e ∈ entries, motive e.2) → motive (.directory entries)) (n : Node) :
    motive n :=
  @Node.rec motive (fun entries => ∀ e ∈ entries, motive e.2) (fun e => motive e.2) file link
    directory (fun _ h => absurd h List.not_mem_nil)
    (fun _ _ hhead htail => List.forall_mem_cons.mpr ⟨hhead, htail⟩) (fun _ _ h => h) n

/-- There is a file at a place, and no link on the way. -/
inductive HasFile : Node → Place → Prop where
  | here (body : FileBody) : HasFile (file body) []
  | inside {entries : List (Text × Node)} {name : Text} {n : Node} {place : Place} :
      (name, n) ∈ entries → HasFile n place → HasFile (directory entries) (name :: place)

theorem hasFile_directory_iff {entries : List (Text × Node)} {place : Place} :
    (directory entries).HasFile place ↔
      ∃ e ∈ entries, ∃ rest, e.2.HasFile rest ∧ place = e.1 :: rest := by
  constructor
  · intro h
    cases h with
    | inside hentry hrest => exact ⟨_, hentry, _, hrest, rfl⟩
  · rintro ⟨e, hentry, rest, hrest, rfl⟩
    exact .inside hentry hrest

/-- The same tree, where directories list their entries in other orders. -/
inductive Reordered : Node → Node → Prop where
  | refl (n : Node) : Reordered n n
  | trans {a b c : Node} : Reordered a b → Reordered b c → Reordered a c
  | swap (d e : Text × Node) (entries : List (Text × Node)) :
      Reordered (directory (d :: e :: entries)) (directory (e :: d :: entries))
  | rest (e : Text × Node) {entries entries' : List (Text × Node)} :
      Reordered (directory entries) (directory entries') →
      Reordered (directory (e :: entries)) (directory (e :: entries'))
  | entry (name : Text) {n n' : Node} (entries : List (Text × Node)) : Reordered n n' →
      Reordered (directory ((name, n) :: entries)) (directory ((name, n') :: entries))

theorem hasFile_cons_iff {e : Text × Node} {entries : List (Text × Node)} {place : Place} :
    (directory (e :: entries)).HasFile place ↔
      (∃ rest, e.2.HasFile rest ∧ place = e.1 :: rest) ∨ (directory entries).HasFile place := by
  simp only [hasFile_directory_iff, List.mem_cons, exists_eq_or_imp]

theorem hasFile_of_reordered {n n' : Node} (h : n.Reordered n') (place : Place) :
    n.HasFile place ↔ n'.HasFile place := by
  induction h generalizing place with
  | refl n => exact Iff.rfl
  | trans _ _ ih₁ ih₂ => exact (ih₁ place).trans (ih₂ place)
  | swap d e entries =>
    rw [hasFile_cons_iff, hasFile_cons_iff, hasFile_cons_iff, hasFile_cons_iff]
    exact or_left_comm
  | rest e _ ih => rw [hasFile_cons_iff, hasFile_cons_iff, ih]
  | entry name entries _ ih =>
    rw [hasFile_cons_iff, hasFile_cons_iff]
    simp only [ih]

/-- The files of a tree are those that `files` lists. -/
theorem hasFile_iff_mem_files {n : Node} {place : Place} :
    n.HasFile place ↔ place ∈ n.files.map Prod.fst := by
  induction n using Node.induct generalizing place with
  | file body =>
    rw [files]
    constructor
    · intro h
      cases h
      simp
    · intro h
      rw [show place = [] by simpa using h]
      exact .here body
  | link target =>
    rw [files]
    constructor
    · intro h
      cases h
    · intro h
      simp at h
  | directory entries ih =>
    rw [files]
    induction entries with
    | nil => simp [hasFile_directory_iff, filesOf]
    | cons e entries ihrest =>
      obtain ⟨hhead, htail⟩ := List.forall_mem_cons.mp ih
      rw [hasFile_cons_iff, ihrest htail, filesOf, List.map_append, List.mem_append]
      simp only [hhead]
      simp [eq_comm]

end Node

namespace Selection

variable {s : Selection} {ignored : Text → Bool} {path : Text}

/-! ### Paths of entries -/

/-- The path of a place below a directory. -/
def pathOf (directory : Text) (place : Place) : Text := place.foldl below directory

/-- A place whose names are those of files and directories. -/
def IsNamed (place : Place) : Prop := ∀ name ∈ place, name ≠ [] ∧ '/' ∉ name

theorem pathSegments_pathOf {place : Place} (h : IsNamed place) (directory : Text) :
    Glob.pathSegments (pathOf directory place) = Glob.pathSegments directory ++ place := by
  induction place generalizing directory with
  | nil => exact (List.append_nil _).symm
  | cons name place ih =>
    obtain ⟨⟨hname, hslash⟩, hrest⟩ := List.forall_mem_cons.mp h
    have hbelow : Glob.pathSegments (below directory name) = Glob.pathSegments directory ++ [name] := by
      unfold below
      split
      · rename_i hempty
        rw [List.isEmpty_iff.mp hempty, Glob.pathSegments_name hname hslash]
        rfl
      · rw [Glob.pathSegments_append, Glob.pathSegments_name hname hslash]
    show Glob.pathSegments (pathOf (below directory name) place) = _
    rw [ih hrest, hbelow, List.append_assoc]
    rfl

theorem pathOf_of_ne_nil {directory : Text} (h : directory ≠ []) (place : Place) :
    pathOf directory place = directory ++ place.flatMap ('/' :: ·) := by
  induction place generalizing directory with
  | nil => exact (List.append_nil _).symm
  | cons name place ih =>
    have hbelow : below directory name = directory ++ '/' :: name := by
      unfold below
      rw [if_neg (by simpa using h)]
    show pathOf (below directory name) place = _
    rw [hbelow, ih (by simp), List.flatMap_cons, List.append_assoc]

theorem joinWith_slash (name : Text) (place : Place) :
    Text.joinWith ['/'] (name :: place) = name ++ place.flatMap ('/' :: ·) := by
  induction place generalizing name with
  | nil => exact (List.append_nil _).symm
  | cons next place ih =>
    rw [Text.joinWith, ih, List.flatMap_cons, List.append_assoc]
    rfl

/-- The path from the directory of a walk has slashes between its names. -/
theorem pathOf_nil {place : Place} (h : IsNamed place) :
    pathOf [] place = Text.joinWith ['/'] place := by
  cases place with
  | nil => rfl
  | cons name place =>
    obtain ⟨⟨hname, -⟩, -⟩ := List.forall_mem_cons.mp h
    rw [joinWith_slash]
    exact pathOf_of_ne_nil hname place

/-! ### Excluded directories -/

/-- Below a directory in which no file might be kept no reversed pattern matches. -/
theorem not_keeps_below {directory : Text} {more : List Text}
    (hkeep : s.mayKeepBelow directory = false)
    (hpath : Glob.pathSegments path = Glob.pathSegments directory ++ more) (isDirectory : Bool) :
    s.keeps.any (·.accepts path isDirectory) = false := by
  rw [Bool.eq_false_iff]
  intro hany
  obtain ⟨p, hp, haccepts⟩ := List.any_eq_true.mp hany
  rw [Glob.PathPattern.accepts, hpath] at haccepts
  have hmay := Glob.PathPattern.mayMatchBelow_of_accepts haccepts
  have hkept : s.mayKeepBelow directory = true := List.any_eq_true.mpr ⟨p, hp, hmay⟩
  rw [hkeep] at hkept
  cases hkept

/-- **Nothing is lost below a directory that is not entered.**  A pattern that excludes it excludes
what is below it, and no reversed pattern matches there. -/
theorem isExcluded_below {directory : Text} {more : List Text} {b c : Bool}
    (hexcluded : s.isExcluded directory true b = true) (hkeep : s.mayKeepBelow directory = false)
    (hignored : b = true → c = true)
    (hpath : Glob.pathSegments path = Glob.pathSegments directory ++ more) (hmore : more ≠ []) :
    s.isExcluded path false c = true := by
  have hout : (c || s.excludes.any (·.accepts path false)) = true := by
    rw [isExcluded, Bool.and_eq_true, Bool.or_eq_true] at hexcluded
    rw [Bool.or_eq_true]
    refine hexcluded.1.imp hignored fun hany => ?_
    obtain ⟨p, hp, haccepts⟩ := List.any_eq_true.mp hany
    refine List.any_eq_true.mpr ⟨p, hp, ?_⟩
    rw [Glob.PathPattern.accepts, hpath]
    exact Glob.PathPattern.acceptsSegments_append haccepts hmore false
  rw [isExcluded, hout, not_keeps_below hkeep hpath]
  rfl

/-! ### What the walk finds -/

/-- An answer that lists exactly the paths with a property. -/
def Finds (answer : Except Failure (List Text)) (p : Text → Prop) : Prop :=
  ∃ found, answer = .ok found ∧ ∀ path, path ∈ found ↔ p path

/-- A file is taken by its own path. -/
def Takes (s : Selection) (ignored : Text → Bool) (path : Text) : Prop :=
  s.isIncluded path false = true ∧ s.isExcluded path false (ignored path) = false

/-- The files that are taken at and below a path, each by its own path. -/
def TakesBelow (s : Selection) (ignored : Text → Bool) (directory : Text) (n : Node) (path : Text) :
    Prop :=
  ∃ place, n.HasFile place ∧ path = pathOf directory place ∧ s.Takes ignored path

/-- A place below a directory with proper names, where everything in an ignored directory is
ignored. -/
structure IsTame (ignored : Text → Bool) (directory : Text) (place : Place) : Prop where
  named : IsNamed place
  ignoredBelow : ∀ front, front <+: place → front ≠ [] →
    ignored (pathOf directory front) = true → ignored (pathOf directory place) = true

theorem IsTame.tail {directory name : Text} {place : Place}
    (h : IsTame ignored directory (name :: place)) : IsTame ignored (below directory name) place where
  named := (List.forall_mem_cons.mp h.named).2
  ignoredBelow front hfront _ := h.ignoredBelow (name :: front) (List.prefix_cons_inj name |>.mpr hfront)
    (List.cons_ne_nil _ _)

/-- What is below an ignored entry is ignored. -/
theorem IsTame.own {directory name : Text} {place : Place}
    (h : IsTame ignored directory (name :: place)) (hentry : ignored (below directory name) = true) :
    ignored (pathOf (below directory name) place) = true :=
  h.ignoredBelow [name] ⟨place, rfl⟩ (List.cons_ne_nil _ _) hentry

/-- The entries of a directory one after the other. -/
theorem filesIn_finds {directory : Text} {entries : List (Text × Node)}
    {p : Text × Node → Text → Prop} {check : Text → Except Failure Bool}
    (h : ∀ e ∈ entries, Finds (filesAt s check (below directory e.1) e.2) (p e)) :
    Finds (filesIn s check directory entries) fun path => ∃ e ∈ entries, p e path := by
  induction entries with
  | nil => exact ⟨[], by rw [filesIn], by simp⟩
  | cons e entries ih =>
    obtain ⟨hhead, htail⟩ := List.forall_mem_cons.mp h
    obtain ⟨found, hfound, hpaths⟩ := hhead
    obtain ⟨more, hmore, hothers⟩ := ih htail
    refine ⟨found ++ more, ?_, fun path => ?_⟩
    · rw [filesIn, hfound]
      dsimp only
      rw [hmore]
    · rw [List.mem_append, hpaths, hothers]
      simp only [List.mem_cons, exists_eq_or_imp]

/-- Wherever a node is, the walk finds the files that are taken at and below it. -/
def FindsTaken (s : Selection) (ignored : Text → Bool) (n : Node) : Prop :=
  ∀ path, (∀ place, n.HasFile place → IsTame ignored path place) →
    (∀ place, n.HasFile place → ignored path = true → ignored (pathOf path place) = true) →
    Finds (filesAt s (fun p => .ok (ignored p)) path n) (s.TakesBelow ignored path n)

/-- The files of a directory that is entered. -/
theorem filesIn_spec {directory : Text} {entries : List (Text × Node)}
    (hentries : ∀ e ∈ entries, s.FindsTaken ignored e.2)
    (htame : ∀ place, (Node.directory entries).HasFile place → IsTame ignored directory place) :
    Finds (filesIn s (fun p => .ok (ignored p)) directory entries)
      (s.TakesBelow ignored directory (.directory entries)) := by
  have hfinds : ∀ e ∈ entries, Finds (filesAt s (fun p => .ok (ignored p)) (below directory e.1) e.2)
      (s.TakesBelow ignored (below directory e.1) e.2) := by
    intro e he
    refine hentries e he _ (fun place hfile => ?_) fun place hfile => ?_
    · exact (htame _ (.inside he hfile)).tail
    · exact (htame _ (.inside he hfile)).own
  obtain ⟨found, hfound, hpaths⟩ := filesIn_finds hfinds
  refine ⟨found, hfound, fun path => (hpaths path).trans ?_⟩
  constructor
  · rintro ⟨e, he, place, hfile, rfl, htakes⟩
    exact ⟨e.1 :: place, .inside he hfile, rfl, htakes⟩
  · rintro ⟨place, hfile, rfl, htakes⟩
    obtain ⟨e, he, rest, hrest, rfl⟩ := Node.hasFile_directory_iff.mp hfile
    exact ⟨e, he, rest, hrest, rfl, htakes⟩

theorem takesBelow_file_iff {body : FileBody} {p : Text} :
    s.TakesBelow ignored path (.file body) p ↔ p = path ∧ s.Takes ignored path := by
  constructor
  · rintro ⟨place, hfile, rfl, htakes⟩
    cases hfile
    exact ⟨rfl, htakes⟩
  · rintro ⟨rfl, htakes⟩
    exact ⟨[], .here body, rfl, htakes⟩

theorem filesAt_file (s : Selection) (ignored : Text → Bool) (path : Text) (body : FileBody) :
    Finds (filesAt s (fun p => .ok (ignored p)) path (.file body))
      (s.TakesBelow ignored path (.file body)) := by
  have hanswer : filesAt s (fun p => .ok (ignored p)) path (.file body)
      = .ok (if s.isIncluded path false && !s.isExcluded path false (ignored path) then [path]
          else []) := by
    rw [filesAt]
    dsimp only
    cases s.isIncluded path false <;> cases s.isExcluded path false (ignored path) <;> rfl
  refine ⟨_, hanswer, fun p => ?_⟩
  rw [takesBelow_file_iff, Takes]
  split
  · rename_i htaken
    rw [Bool.and_eq_true, Bool.not_eq_true'] at htaken
    simp [htaken]
  · rename_i htaken
    rw [Bool.and_eq_true, Bool.not_eq_true'] at htaken
    simp [htaken]

/-- In a directory that is not entered no file is taken. -/
theorem not_takesBelow_of_pruned {entries : List (Text × Node)}
    (hexcluded : s.isExcluded path true (ignored path) = true) (hkeep : s.mayKeepBelow path = false)
    (hnamed : ∀ place, (Node.directory entries).HasFile place → IsNamed place)
    (hown : ∀ place, (Node.directory entries).HasFile place →
      ignored path = true → ignored (pathOf path place) = true) (p : Text) :
    ¬s.TakesBelow ignored path (.directory entries) p := by
  rintro ⟨place, hfile, rfl, -, htaken⟩
  have hplace : place ≠ [] := by
    rintro rfl
    cases hfile
  have hout := isExcluded_below hexcluded hkeep (hown place hfile)
    (pathSegments_pathOf (hnamed place hfile) path) hplace
  rw [htaken] at hout
  cases hout

/-- **What the walk finds at and below a path.**  Induction on the tree: a directory that is not
entered has no file that is taken, and in all others the entries are searched. -/
theorem findsTaken (s : Selection) (ignored : Text → Bool) (n : Node) : s.FindsTaken ignored n := by
  induction n using Node.induct with
  | file body => exact fun path _ _ => filesAt_file s ignored path body
  | link target =>
    intro path _ _
    refine ⟨[], by rw [filesAt], fun p => ?_⟩
    simp only [List.not_mem_nil, false_iff]
    rintro ⟨place, hfile, -⟩
    cases hfile
  | directory entries ih =>
    intro path htame hown
    rw [filesAt]
    dsimp only
    split
    · rename_i hpruned
      rw [Bool.and_eq_true, Bool.not_eq_true'] at hpruned
      have hnamed := fun place hfile => (htame place hfile).named
      refine ⟨[], rfl, fun p => ?_⟩
      simp only [List.not_mem_nil, false_iff]
      exact not_takesBelow_of_pruned hpruned.1 hpruned.2 hnamed hown p
    · exact filesIn_spec ih htame

/-- The walk starts in the directory itself, which is always entered. -/
theorem files_finds (s : Selection) {tree : FileTree} {root top : Path} {n : Node}
    (hopen : openRoot tree root = .ok (top, n))
    (htame : ∀ place, n.HasFile place → IsTame ignored [] place) :
    Finds (s.files (fun p => .ok (ignored p)) tree root) fun path =>
      ∃ place, place ≠ [] ∧ n.HasFile place ∧ path = pathOf [] place ∧ s.Takes ignored path := by
  rw [files, hopen]
  cases n with
  | link target =>
    refine ⟨[], rfl, fun path => ?_⟩
    simp only [List.not_mem_nil, false_iff]
    rintro ⟨place, -, hfile, -⟩
    cases hfile
  | file body =>
    refine ⟨[], rfl, fun path => ?_⟩
    simp only [List.not_mem_nil, false_iff]
    rintro ⟨place, hplace, hfile, -⟩
    cases hfile
    exact hplace rfl
  | directory entries =>
    obtain ⟨found, hfound, hpaths⟩ := filesIn_spec (fun e _ => findsTaken s ignored e.2) htame
    refine ⟨found, hfound, fun path => (hpaths path).trans ?_⟩
    constructor
    · rintro ⟨place, hfile, hpath⟩
      refine ⟨place, ?_, hfile, hpath⟩
      rintro rfl
      cases hfile
    · rintro ⟨place, -, hfile, hpath⟩
      exact ⟨place, hfile, hpath⟩

/-- **Leaving directories out changes nothing.**  Let a directory hold files under proper names, and
let everything in an ignored directory be ignored.  Then the files that are found are all those that
are included and not excluded by their own paths, whatever the patterns are, and in whatever order
the directories list their entries. -/
theorem mem_files_iff_taken (s : Selection) (ignored : Text → Bool) {n n' : Node}
    (hnames : ∀ place, n.HasFile place → ∀ name ∈ place, name ≠ [] ∧ '/' ∉ name)
    (hignored : ∀ place, n.HasFile place → ∀ front, front <+: place → front ≠ [] →
      ignored (Text.joinWith ['/'] front) = true → ignored (Text.joinWith ['/'] place) = true)
    (horder : n.Reordered n') {tree : FileTree} {root top : Path}
    (hopen : openRoot tree root = .ok (top, n')) :
    ∃ found, s.files (fun path => .ok (ignored path)) tree root = .ok found ∧
      ∀ path, path ∈ found ↔
        ∃ place, place ≠ [] ∧ n.HasFile place ∧ path = Text.joinWith ['/'] place ∧
          s.isIncluded path false = true ∧ s.isExcluded path false (ignored path) = false := by
  have htame : ∀ place, n'.HasFile place → IsTame ignored [] place := by
    intro place hfile
    have hfile' := (Node.hasFile_of_reordered horder place).mpr hfile
    refine ⟨hnames place hfile', fun front hfront hne => ?_⟩
    have hnamed : IsNamed front := fun name hname => hnames place hfile' name (hfront.subset hname)
    rw [pathOf_nil hnamed, pathOf_nil (hnames place hfile')]
    exact hignored place hfile' front hfront hne
  obtain ⟨found, hfound, hpaths⟩ := files_finds s hopen htame
  refine ⟨found, hfound, fun path => (hpaths path).trans (exists_congr fun place => ?_)⟩
  rw [Node.hasFile_of_reordered horder]
  refine and_congr_right fun _ => and_congr_right fun hfile => ?_
  rw [pathOf_nil (htame place hfile).named]
  rfl

/-- An excluded directory with a file that is kept and one that is not, and an ignored one. -/
def nestedTree : Node :=
  .directory [
    ("gen".toList, .directory [("b.c".toList, .file (.text []))]),
    ("out".toList, .directory [
      ("a.c".toList, .file (.text [])),
      ("keep".toList, .directory [("c.c".toList, .file (.text []))])])]

/-- The same directory, read in another order. -/
def nestedTreeReversed : Node :=
  .directory [
    ("out".toList, .directory [
      ("keep".toList, .directory [("c.c".toList, .file (.text []))]),
      ("a.c".toList, .file (.text []))]),
    ("gen".toList, .directory [("b.c".toList, .file (.text []))])]

/-- A reversed pattern for a directory in an excluded directory. -/
theorem mem_files_iff_taken_nested :
    ∃ s found, compile {
        excludes := ["out/".toList, "!/out/keep/".toList], useBuiltin := false } = .ok s ∧
      s.files (fun path => .ok ("gen".toList.isPrefixOf path)) { top := nestedTreeReversed }
        ⟨['/']⟩ = .ok found ∧
      "out/keep/c.c".toList ∈ found ∧ "out/a.c".toList ∉ found ∧ "gen/b.c".toList ∉ found := by
  have hplaces : nestedTree.files.map Prod.fst
      = [["gen".toList, "b.c".toList], ["out".toList, "a.c".toList],
          ["out".toList, "keep".toList, "c.c".toList]] := by
    simp [nestedTree, Node.files, Node.filesOf]
  have hnames : ∀ place ∈ nestedTree.files.map Prod.fst,
      ∀ name ∈ place, name ≠ [] ∧ '/' ∉ name := by
    rw [hplaces]
    decide
  have hignored : ∀ place ∈ nestedTree.files.map Prod.fst, ∀ front ∈ place.inits, front ≠ [] →
      "gen".toList.isPrefixOf (Text.joinWith ['/'] front) = true →
      "gen".toList.isPrefixOf (Text.joinWith ['/'] place) = true := by
    rw [hplaces]
    decide
  have horder : nestedTree.Reordered nestedTreeReversed :=
    .trans (.swap _ _ _) (.entry _ _ (.swap _ _ _))
  have hopen : openRoot { top := nestedTreeReversed } ⟨['/']⟩
      = .ok (⟨['/']⟩, nestedTreeReversed) := rfl
  obtain ⟨found, hfound, htaken⟩ := mem_files_iff_taken
    ⟨builtinIncludes.map (Glob.PathPattern.compile true),
      [Glob.PathPattern.compile true "out/".toList],
      [Glob.PathPattern.compile true "!/out/keep/".toList]⟩
    ("gen".toList.isPrefixOf ·)
    (fun place hfile => hnames place (Node.hasFile_iff_mem_files.mp hfile))
    (fun place hfile front hfront => hignored place (Node.hasFile_iff_mem_files.mp hfile) front
      ((List.mem_inits front place).mpr hfront)) horder hopen
  refine ⟨_, found, rfl, hfound, ?_, ?_, ?_⟩
  · refine (htaken _).mpr ⟨["out".toList, "keep".toList, "c.c".toList], by simp, ?_, rfl, ?_, ?_⟩
    · rw [Node.hasFile_iff_mem_files, hplaces]
      simp
    · decide
    · decide
  · rw [htaken]
    rintro ⟨-, -, -, -, -, hkept⟩
    exact absurd hkept (by decide)
  · rw [htaken]
    rintro ⟨-, -, -, -, -, hkept⟩
    exact absurd hkept (by decide)

end Selection

end LicenseHeader
