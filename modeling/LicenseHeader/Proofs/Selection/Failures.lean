import LicenseHeader.Proofs.Selection.Walking

/-!
# Checks that fail

Whether a path is ignored is asked of a check, and the check may fail.  A walk asks it about every
directory that it comes to and about every file that is included, and it does not go on behind a
directory about which the check fails.  So no failure is lost: the walk fails exactly if the check fails
at some place that is reached, and a file is taken only after the check has answered.

* `Node.HasAt`: a node with a property is at a place;
* `Selection.Passes`: the walk goes on behind a directory;
* `Selection.IsAsked` and `Selection.IsWanted`: what the check is asked about, and the files among it;
* `Selection.Reaches`: the walk comes to a place;
* `Selection.Accounts`: an answer that loses no failure;
* `filesAt_accounts`: the answer of a walk does so, by induction on the tree;
* `files_error_iff_reaches` is the result.
-/

namespace LicenseHeader

/-! ### Nodes at places -/

namespace Node

variable {p : Node → Prop} {entries : List (Text × Node)} {name : Text} {place : Place}

/-- There is a node with a property at a place, and no link on the way. -/
inductive HasAt (p : Node → Prop) : Node → Place → Prop where
  | here {n : Node} : p n → HasAt p n []
  | inside {entries : List (Text × Node)} {name : Text} {n : Node} {place : Place} :
      (name, n) ∈ entries → HasAt p n place → HasAt p (directory entries) (name :: place)

theorem hasAt_nil_iff {n : Node} : n.HasAt p [] ↔ p n := by
  constructor
  · intro h
    cases h with
    | here hp => exact hp
  · exact .here

theorem hasAt_cons_iff :
    (directory entries).HasAt p (name :: place) ↔ ∃ n, (name, n) ∈ entries ∧ n.HasAt p place := by
  constructor
  · intro h
    cases h with
    | inside hentry hrest => exact ⟨_, hentry, hrest⟩
  · rintro ⟨n, hentry, hrest⟩
    exact .inside hentry hrest

theorem hasAt_entry_cons_iff {e : Text × Node} :
    (directory (e :: entries)).HasAt p (name :: place) ↔
      e.1 = name ∧ e.2.HasAt p place ∨ (directory entries).HasAt p (name :: place) := by
  obtain ⟨own, n⟩ := e
  simp only [hasAt_cons_iff, List.mem_cons, Prod.mk.injEq, or_and_right, exists_or]
  refine or_congr_left ?_
  constructor
  · rintro ⟨m, ⟨rfl, rfl⟩, hrest⟩
    exact ⟨rfl, hrest⟩
  · rintro ⟨rfl, hrest⟩
    exact ⟨n, ⟨rfl, rfl⟩, hrest⟩

/-- Only directories are listed in another order. -/
theorem Reordered.eq_or_directories {n n' : Node} (h : n.Reordered n') :
    n = n' ∨ ∃ entries entries', n = directory entries ∧ n' = directory entries' := by
  induction h with
  | refl n => exact Or.inl rfl
  | trans _ _ ih₁ ih₂ =>
    rcases ih₁ with rfl | ⟨entries, _, rfl, rfl⟩
    · exact ih₂
    · rcases ih₂ with rfl | ⟨_, entries', _, rfl⟩
      · exact Or.inr ⟨_, _, rfl, rfl⟩
      · exact Or.inr ⟨_, _, rfl, rfl⟩
  | swap d e entries => exact Or.inr ⟨_, _, rfl, rfl⟩
  | rest e _ _ => exact Or.inr ⟨_, _, rfl, rfl⟩
  | entry name entries _ _ => exact Or.inr ⟨_, _, rfl, rfl⟩

/-- The order of entries does not matter for a property for which it does not matter at the place. -/
theorem hasAt_of_reordered (hp : ∀ {n n' : Node}, n.Reordered n' → (p n ↔ p n')) {n n' : Node}
    (h : n.Reordered n') (place : Place) : n.HasAt p place ↔ n'.HasAt p place := by
  cases place with
  | nil => rw [hasAt_nil_iff, hasAt_nil_iff, hp h]
  | cons name place =>
    induction h generalizing name place with
    | refl n => exact Iff.rfl
    | trans _ _ ih₁ ih₂ => exact (ih₁ name place).trans (ih₂ name place)
    | swap d e entries =>
      simp only [hasAt_entry_cons_iff]
      exact or_left_comm
    | rest e _ ih => rw [hasAt_entry_cons_iff, hasAt_entry_cons_iff, ih]
    | @entry own n n' entries hn ih =>
      rw [hasAt_entry_cons_iff, hasAt_entry_cons_iff]
      cases place with
      | nil => simp only [hasAt_nil_iff, hp hn]
      | cons next place => simp only [ih]

end Node

namespace Selection

variable {s : Selection} {check : Text → Except Failure Bool} {what : Text → Node → Prop} {path : Text}

/-! ### What is reached -/

/-- A walk goes on behind a directory: the check answers, and the directory is not excluded, or a file
below it might be kept. -/
def Passes (s : Selection) (check : Text → Except Failure Bool) (directory : Text) : Prop :=
  ∃ b, check directory = .ok b ∧
    (s.isExcluded directory true b = false ∨ s.mayKeepBelow directory = true)

/-- A file that is included. -/
def IsWanted (s : Selection) (path : Text) : Node → Prop
  | .file _ => s.isIncluded path false = true
  | _ => False

/-- What the check is asked about: directories, and files that are included. -/
def IsAsked (s : Selection) (path : Text) : Node → Prop
  | .directory _ => True
  | n => s.IsWanted path n

theorem isWanted_of_reordered (s : Selection) (path : Text) {n n' : Node} (h : n.Reordered n') :
    s.IsWanted path n ↔ s.IsWanted path n' := by
  rcases h.eq_or_directories with rfl | ⟨_, _, rfl, rfl⟩
  · exact Iff.rfl
  · exact Iff.rfl

theorem isAsked_of_reordered (s : Selection) (path : Text) {n n' : Node} (h : n.Reordered n') :
    s.IsAsked path n ↔ s.IsAsked path n' := by
  rcases h.eq_or_directories with rfl | ⟨_, _, rfl, rfl⟩
  · exact Iff.rfl
  · exact Iff.rfl

/-- The paths of some nodes at and below a path, as far as the walk goes: it goes on behind all
directories above them. -/
def ReachesBelow (s : Selection) (check : Text → Except Failure Bool) (what : Text → Node → Prop)
    (directory : Text) (n : Node) (path : Text) : Prop :=
  ∃ place, (∀ front, front <+: place → front ≠ place → s.Passes check (pathOf directory front)) ∧
    n.HasAt (what path) place ∧ path = pathOf directory place

theorem reachesBelow_of_leaf {n : Node} (hleaf : ∀ entries, n ≠ .directory entries) {p : Text} :
    s.ReachesBelow check what path n p ↔ p = path ∧ what path n := by
  constructor
  · rintro ⟨place, -, hat, rfl⟩
    cases hat with
    | here hwhat => exact ⟨rfl, hwhat⟩
    | inside => exact absurd rfl (hleaf _)
  · rintro ⟨rfl, hwhat⟩
    exact ⟨[], fun front hfront hne => absurd (List.prefix_nil.mp hfront) hne, .here hwhat, rfl⟩

theorem reachesBelow_directory_iff {entries : List (Text × Node)} {p : Text} :
    s.ReachesBelow check what path (.directory entries) p ↔
      p = path ∧ what path (.directory entries) ∨
        s.Passes check path ∧ ∃ e ∈ entries, s.ReachesBelow check what (below path e.1) e.2 p := by
  constructor
  · rintro ⟨place, hpasses, hat, rfl⟩
    cases hat with
    | here hwhat => exact Or.inl ⟨rfl, hwhat⟩
    | inside hentry hrest =>
      obtain ⟨hpath, hbelow⟩ := forall_fronts_cons_iff.mp hpasses
      exact Or.inr ⟨hpath, _, hentry, _, hbelow, hrest, rfl⟩
  · rintro (⟨rfl, hwhat⟩ | ⟨hpath, ⟨name, n⟩, hentry, place, hbelow, hrest, rfl⟩)
    · exact ⟨[], fun front hfront hne => absurd (List.prefix_nil.mp hfront) hne, .here hwhat, rfl⟩
    · exact ⟨name :: place, forall_fronts_cons_iff.mpr ⟨hpath, hbelow⟩, .inside hentry hrest, rfl⟩

/-! ### Answers -/

/-- An answer that loses no failure at the paths that are asked about: it is a failure of the check at
one of them, or the check has answered at all of them and the files that were found are those that are
wanted and not excluded. -/
def Accounts (s : Selection) (check : Text → Except Failure Bool) (asked wanted : Text → Prop) :
    Except Failure (List Text) → Prop
  | .error f => ∃ path, asked path ∧ check path = .error f
  | .ok found => (∀ path, asked path → ∃ b, check path = .ok b) ∧
      ∀ path, path ∈ found ↔
        wanted path ∧ ∃ b, check path = .ok b ∧ s.isExcluded path false b = false

/-- The answer of a walk at and below a path loses no failure. -/
def AccountsBelow (s : Selection) (check : Text → Except Failure Bool) (path : Text) (n : Node) :
    Prop :=
  s.Accounts check (s.ReachesBelow check s.IsAsked path n) (s.ReachesBelow check s.IsWanted path n)
    (filesAt s check path n)

/-- Where nothing is asked or wanted, nothing is to be found. -/
theorem accounts_nil {asked wanted : Text → Prop} (hasked : ∀ path, ¬asked path)
    (hwanted : ∀ path, ¬wanted path) : s.Accounts check asked wanted (.ok []) := by
  refine ⟨fun path hpath => absurd hpath (hasked path), fun path => ?_⟩
  exact iff_of_false List.not_mem_nil fun hpath => hwanted path hpath.1

/-- The entries of a directory one after the other. -/
theorem filesIn_accounts {directory : Text} {entries : List (Text × Node)}
    (h : ∀ e ∈ entries, s.AccountsBelow check (below directory e.1) e.2) :
    s.Accounts check
      (fun path => ∃ e ∈ entries, s.ReachesBelow check s.IsAsked (below directory e.1) e.2 path)
      (fun path => ∃ e ∈ entries, s.ReachesBelow check s.IsWanted (below directory e.1) e.2 path)
      (filesIn s check directory entries) := by
  induction entries with
  | nil =>
    rw [filesIn]
    exact accounts_nil (by simp) (by simp)
  | cons e entries ih =>
    obtain ⟨hhead, htail⟩ := List.forall_mem_cons.mp h
    have hmore := ih htail
    rw [AccountsBelow] at hhead
    rw [filesIn]
    cases hfound : filesAt s check (below directory e.1) e.2 with
    | error f =>
      rw [hfound] at hhead
      obtain ⟨path, hasked, hfails⟩ := hhead
      exact ⟨path, ⟨e, List.mem_cons_self, hasked⟩, hfails⟩
    | ok found =>
      rw [hfound] at hhead
      dsimp only
      cases hrest : filesIn s check directory entries with
      | error f =>
        rw [hrest] at hmore
        obtain ⟨path, ⟨d, hd, hasked⟩, hfails⟩ := hmore
        exact ⟨path, ⟨d, List.mem_cons_of_mem _ hd, hasked⟩, hfails⟩
      | ok more =>
        rw [hrest] at hmore
        obtain ⟨hanswers, hpaths⟩ := hhead
        obtain ⟨hothers, hfiles⟩ := hmore
        refine ⟨fun path => ?_, fun path => ?_⟩
        · simp only [List.mem_cons, exists_eq_or_imp]
          rintro (hasked | hasked)
          · exact hanswers path hasked
          · exact hothers path hasked
        · rw [List.mem_append, hpaths, hfiles, ← or_and_right]
          simp only [List.mem_cons, exists_eq_or_imp]

/-- A file: the check is asked if it is included. -/
theorem accountsBelow_file (s : Selection) (check : Text → Except Failure Bool) (path : Text)
    (body : FileBody) : s.AccountsBelow check path (.file body) := by
  have hleaf : ∀ entries, Node.file body ≠ .directory entries := fun entries h => by cases h
  have hasked : ∀ p, s.ReachesBelow check s.IsAsked path (.file body) p ↔
      p = path ∧ s.isIncluded path false = true := fun p => reachesBelow_of_leaf hleaf
  have hwanted : ∀ p, s.ReachesBelow check s.IsWanted path (.file body) p ↔
      p = path ∧ s.isIncluded path false = true := fun p => reachesBelow_of_leaf hleaf
  rw [AccountsBelow, filesAt]
  split
  next hincluded =>
    cases hcheck : check path with
    | error f => exact ⟨path, (hasked path).mpr ⟨rfl, hincluded⟩, hcheck⟩
    | ok b =>
      refine ⟨fun p hp => ?_, fun p => ?_⟩
      · obtain ⟨rfl, -⟩ := (hasked p).mp hp
        exact ⟨b, hcheck⟩
      · rw [hwanted, and_iff_left hincluded]
        split
        next hexcluded =>
          refine iff_of_false List.not_mem_nil ?_
          rintro ⟨rfl, c, hc, hkept⟩
          rw [hcheck] at hc
          rw [← Except.ok.inj hc, hexcluded] at hkept
          cases hkept
        next hexcluded =>
          rw [List.mem_singleton]
          refine ⟨?_, And.left⟩
          rintro rfl
          exact ⟨rfl, b, hcheck, Bool.not_eq_true _ ▸ hexcluded⟩
  next hincluded =>
    exact accounts_nil (fun p hp => hincluded ((hasked p).mp hp).2)
      fun p hp => hincluded ((hwanted p).mp hp).2

/-- A link is passed over. -/
theorem accountsBelow_link (s : Selection) (check : Text → Except Failure Bool) (path : Text)
    (target : Path) : s.AccountsBelow check path (.link target) := by
  have hleaf : ∀ entries, Node.link target ≠ .directory entries := fun entries h => by cases h
  rw [AccountsBelow, filesAt]
  exact accounts_nil (fun p hp => (reachesBelow_of_leaf hleaf |>.mp hp).2)
    fun p hp => (reachesBelow_of_leaf hleaf |>.mp hp).2

/-- **No failure is lost at and below a path.**  Induction on the tree: behind a directory about which
the check fails, or which is left out, nothing is asked. -/
theorem accountsBelow (s : Selection) (check : Text → Except Failure Bool) (n : Node) :
    ∀ path, s.AccountsBelow check path n := by
  induction n using Node.induct with
  | file body => exact fun path => accountsBelow_file s check path body
  | link target => exact fun path => accountsBelow_link s check path target
  | directory entries ih =>
    intro path
    have hown : s.ReachesBelow check s.IsAsked path (.directory entries) path :=
      reachesBelow_directory_iff.mpr (Or.inl ⟨rfl, trivial⟩)
    rw [AccountsBelow, filesAt]
    cases hcheck : check path with
    | error f => exact ⟨path, hown, hcheck⟩
    | ok b =>
      dsimp only
      split
      next hpruned =>
        rw [Bool.and_eq_true, Bool.not_eq_true'] at hpruned
        have hstops : ¬s.Passes check path := by
          rintro ⟨c, hc, hgoes⟩
          rw [hcheck] at hc
          rw [← Except.ok.inj hc, hpruned.1, hpruned.2] at hgoes
          simp at hgoes
        refine ⟨fun p hp => ?_, fun p => iff_of_false List.not_mem_nil ?_⟩
        · rcases reachesBelow_directory_iff.mp hp with ⟨rfl, -⟩ | ⟨hpasses, -⟩
          · exact ⟨b, hcheck⟩
          · exact absurd hpasses hstops
        · rintro ⟨hp, -⟩
          rcases reachesBelow_directory_iff.mp hp with ⟨-, hfile⟩ | ⟨hpasses, -⟩
          · exact hfile
          · exact hstops hpasses
      next hentered =>
        have hpasses : s.Passes check path := by
          refine ⟨b, hcheck, ?_⟩
          cases hexcluded : s.isExcluded path true b with
          | false => exact Or.inl rfl
          | true => simpa [hexcluded] using hentered
        have hentries := filesIn_accounts fun e he => ih e he (below path e.1)
        cases hfound : filesIn s check path entries with
        | error f =>
          rw [hfound] at hentries
          obtain ⟨p, hp, hfails⟩ := hentries
          exact ⟨p, reachesBelow_directory_iff.mpr (Or.inr ⟨hpasses, hp⟩), hfails⟩
        | ok found =>
          rw [hfound] at hentries
          refine ⟨fun p hp => ?_, fun p => (hentries.2 p).trans (and_congr_left fun _ => ?_)⟩
          · rcases reachesBelow_directory_iff.mp hp with ⟨rfl, -⟩ | ⟨-, hbelow⟩
            · exact ⟨b, hcheck⟩
            · exact hentries.1 p hbelow
          · rw [reachesBelow_directory_iff, and_iff_right hpasses]
            exact (or_iff_right And.right).symm

/-! ### The whole walk -/

/-- The walk comes to a place below the directory in which it starts, and there is something of a kind:
the check has answered about every directory on the way, and none of them was left out. -/
structure Reaches (s : Selection) (check : Text → Except Failure Bool) (what : Text → Node → Prop)
    (n : Node) (place : Place) : Prop where
  ne_nil : place ≠ []
  passes : ∀ front, front <+: place → front ≠ [] → front ≠ place →
    s.Passes check (pathOf [] front)
  isAt : n.HasAt (what (pathOf [] place)) place

/-- The directory in which the walk starts is not asked about. -/
theorem exists_reaches_iff {entries : List (Text × Node)} {p : Text} :
    (∃ place, s.Reaches check what (.directory entries) place ∧ p = pathOf [] place) ↔
      ∃ e ∈ entries, s.ReachesBelow check what (below [] e.1) e.2 p := by
  constructor
  · rintro ⟨place, ⟨hne, hpasses, hat⟩, rfl⟩
    cases hat with
    | here => exact absurd rfl hne
    | @inside _ name n place hentry hrest =>
      refine ⟨_, hentry, place, fun front hfront hproper => ?_, hrest, rfl⟩
      exact hpasses (name :: front) ((List.prefix_cons_inj name).mpr hfront) (List.cons_ne_nil _ _)
        (by simpa using hproper)
  · rintro ⟨⟨name, n⟩, hentry, place, hpasses, hrest, rfl⟩
    refine ⟨name :: place, ⟨List.cons_ne_nil _ _, fun front hfront hne hproper => ?_,
      .inside hentry hrest⟩, rfl⟩
    obtain ⟨first, front, rfl⟩ := List.exists_cons_of_ne_nil hne
    obtain ⟨rfl, hbelow⟩ := List.cons_prefix_cons.mp hfront
    exact hpasses front hbelow (by simpa using hproper)

theorem reaches_of_reordered
    (hwhat : ∀ (p : Text) {n n' : Node}, n.Reordered n' → (what p n ↔ what p n')) {n n' : Node}
    (h : n.Reordered n') (place : Place) :
    s.Reaches check what n place ↔ s.Reaches check what n' place := by
  constructor
  · rintro ⟨hne, hpasses, hat⟩
    exact ⟨hne, hpasses, (Node.hasAt_of_reordered (hwhat _) h place).mp hat⟩
  · rintro ⟨hne, hpasses, hat⟩
    exact ⟨hne, hpasses, (Node.hasAt_of_reordered (hwhat _) h place).mpr hat⟩

/-- The answer of the whole walk loses no failure. -/
theorem files_accounts (s : Selection) (check : Text → Except Failure Bool) {tree : FileTree}
    {root top : Path} {n : Node} (hopen : openRoot tree root = .ok (top, n)) :
    s.Accounts check (fun p => ∃ place, s.Reaches check s.IsAsked n place ∧ p = pathOf [] place)
      (fun p => ∃ place, s.Reaches check s.IsWanted n place ∧ p = pathOf [] place)
      (s.files check tree root) := by
  have hleaf : (∀ entries, n ≠ .directory entries) → ∀ what p,
      ¬∃ place, s.Reaches check what n place ∧ p = pathOf [] place := by
    rintro hleaf what p ⟨place, ⟨hne, -, hat⟩, -⟩
    cases hat with
    | here => exact hne rfl
    | inside => exact hleaf _ rfl
  rw [files, hopen]
  cases n with
  | directory entries =>
    simp only [exists_reaches_iff]
    exact filesIn_accounts fun e _ => accountsBelow s check e.2 (below [] e.1)
  | file body =>
    have hnone := hleaf fun entries h => by cases h
    exact accounts_nil (hnone _) (hnone _)
  | link target =>
    have hnone := hleaf fun entries h => by cases h
    exact accounts_nil (hnone _) (hnone _)

/-- **No failure of the check is lost.**  For every tree, selection and check, and in whatever order the
directories list their entries: the walk fails if and only if the check fails at a directory or an
included file that is reached, and then with such a failure.  If it does not fail, the files that are
found are the included ones that are reached and that the check has answered to be not excluded. -/
theorem files_error_iff_reaches (s : Selection) (check : Text → Except Failure Bool) {n n' : Node}
    (horder : n.Reordered n') {tree : FileTree} {root top : Path}
    (hopen : openRoot tree root = .ok (top, n')) :
    ((∃ f, s.files check tree root = .error f) ↔
      ∃ place f, s.Reaches check s.IsAsked n place ∧ check (pathOf [] place) = .error f) ∧
    (∀ f, s.files check tree root = .error f →
      ∃ place, s.Reaches check s.IsAsked n place ∧ check (pathOf [] place) = .error f) ∧
    ∀ found, s.files check tree root = .ok found → ∀ path, path ∈ found ↔
      (∃ place, s.Reaches check s.IsWanted n place ∧ path = pathOf [] place) ∧
        ∃ b, check path = .ok b ∧ s.isExcluded path false b = false := by
  have haccounts := files_accounts s check hopen
  have hasked : ∀ place, s.Reaches check s.IsAsked n place ↔ s.Reaches check s.IsAsked n' place :=
    reaches_of_reordered s.isAsked_of_reordered horder
  have hwanted : ∀ place, s.Reaches check s.IsWanted n place ↔ s.Reaches check s.IsWanted n' place :=
    reaches_of_reordered s.isWanted_of_reordered horder
  cases hanswer : s.files check tree root with
  | error f =>
    rw [hanswer] at haccounts
    obtain ⟨path, ⟨place, hreaches, rfl⟩, hfails⟩ := haccounts
    have hplace := (hasked place).mpr hreaches
    refine ⟨iff_of_true ⟨f, rfl⟩ ⟨place, f, hplace, hfails⟩, ?_, ?_⟩
    · rintro g hg
      rw [← Except.error.inj hg]
      exact ⟨place, hplace, hfails⟩
    · intro found hfound
      cases hfound
  | ok found =>
    rw [hanswer] at haccounts
    obtain ⟨hanswers, hpaths⟩ := haccounts
    refine ⟨iff_of_false ?_ ?_, ?_, ?_⟩
    · rintro ⟨f, hf⟩
      cases hf
    · rintro ⟨place, f, hreaches, hfails⟩
      obtain ⟨b, hb⟩ := hanswers _ ⟨place, (hasked place).mp hreaches, rfl⟩
      rw [hfails] at hb
      cases hb
    · intro f hf
      cases hf
    · intro other hother path
      rw [← Except.ok.inj hother, hpaths path]
      simp only [hwanted]

/-- A check that fails at one path and otherwise has everything in one directory ignored. -/
def failsAt (bad path : Text) : Except Failure Bool :=
  if path = bad then .error { cause := .other "cannot evaluate".toList }
  else .ok ("gen".toList.isPrefixOf path)

/-- A directory is excluded, and another one in it kept. -/
def keeping : Selection where
  includes := builtinIncludes.map (Glob.PathPattern.compile true)
  excludes := [Glob.PathPattern.compile true "out/".toList]
  keeps := [Glob.PathPattern.compile true "!/out/keep/".toList]

/-- A failure in an excluded directory counts if a file might be kept there, and one in an ignored
directory does not. -/
theorem files_error_iff_reaches_nested :
    nestedTree.Reordered nestedTreeReversed ∧
      (∃ f, keeping.files (failsAt "out/keep".toList) { top := nestedTreeReversed } ⟨['/']⟩
        = .error f) ∧
      keeping.files (failsAt "gen/b.c".toList) { top := nestedTreeReversed } ⟨['/']⟩
        = .ok ["out/keep/c.c".toList] ∧
      ∃ place, keeping.Reaches (failsAt "gen/b.c".toList) keeping.IsWanted nestedTree place ∧
        "out/keep/c.c".toList = pathOf [] place := by
  have horder : nestedTree.Reordered nestedTreeReversed :=
    .trans (.swap _ _ _) (.entry _ _ (.swap _ _ _))
  have hopen : openRoot { top := nestedTreeReversed } ⟨['/']⟩
      = .ok (⟨['/']⟩, nestedTreeReversed) := rfl
  have hfound : keeping.files (failsAt "gen/b.c".toList) { top := nestedTreeReversed } ⟨['/']⟩
      = .ok ["out/keep/c.c".toList] := by
    decide +kernel
  refine ⟨horder, ?_, hfound, ?_⟩
  · refine (files_error_iff_reaches keeping (failsAt "out/keep".toList) horder hopen).1.mpr
      ⟨["out".toList, "keep".toList], _, ⟨by simp, fun front hfront hne hproper => ?_, ?_⟩, rfl⟩
    · rcases front with _ | ⟨first, _ | ⟨second, front⟩⟩
      · exact absurd rfl hne
      · obtain ⟨rfl, -⟩ := List.cons_prefix_cons.mp hfront
        exact ⟨false, by decide, Or.inr (by decide)⟩
      · obtain ⟨rfl, hrest⟩ := List.cons_prefix_cons.mp hfront
        obtain ⟨rfl, hend⟩ := List.cons_prefix_cons.mp hrest
        exact absurd (by rw [List.prefix_nil.mp hend]) hproper
    · exact .inside (List.mem_cons_of_mem _ List.mem_cons_self)
        (.inside (List.mem_cons_of_mem _ List.mem_cons_self) (.here trivial))
  · have hlisted := (files_error_iff_reaches keeping (failsAt "gen/b.c".toList) horder hopen).2.2
      _ hfound "out/keep/c.c".toList
    exact (hlisted.mp List.mem_cons_self).1

end Selection

end LicenseHeader
