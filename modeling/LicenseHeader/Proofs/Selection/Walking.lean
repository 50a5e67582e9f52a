import LicenseHeader.Proofs.Selection.Pruning

/-!
# One more exclude pattern

`Selection.mem_files_iff_taken` says what a walk finds if everything in an ignored directory is ignored.
Ignore files need not be like that.  Here the walk is described as it goes, directory by directory, and
then compared with the walk that has one more exclude pattern.

* `Node.HasEntry`: a file, link or directory is at a place;
* `Selection.Enters` and `Selection.Walks`: the directories on the way to a file are entered, and the
  file is taken;
* `Selection.files_walks`: these are the files that a walk finds;
* `Selection.withExclude` adds a pattern, and `compile_withExclude` shows that a rule more does this;
* `walks_withExclude_iff` and `walks_withKeep_iff`: what a pattern takes away, and what a reversed
  pattern brings back.
-/

namespace LicenseHeader

/-! ### Entries -/

/-- There is something at a place, and no link on the way. -/
inductive Node.HasEntry : Node → Place → Prop where
  | here (n : Node) : HasEntry n []
  | inside {entries : List (Text × Node)} {name : Text} {n : Node} {place : Place} :
      (name, n) ∈ entries → HasEntry n place → HasEntry (directory entries) (name :: place)

theorem Node.HasFile.hasEntry {n : Node} {place : Place} (h : n.HasFile place) : n.HasEntry place := by
  induction h with
  | here body => exact .here _
  | inside hentry _ ih => exact .inside hentry ih

namespace Selection

variable {s : Selection} {ignored : Text → Bool} {path : Text}

/-! ### The walk -/

/-- A directory is entered: it is not excluded, or a file below it might be kept. -/
def Enters (s : Selection) (ignored : Text → Bool) (directory : Text) : Prop :=
  s.isExcluded directory true (ignored directory) = false ∨ s.mayKeepBelow directory = true

/-- All directories above a place are entered, the one at the path included. -/
def EntersAbove (s : Selection) (ignored : Text → Bool) (path : Text) (place : Place) : Prop :=
  ∀ front, front <+: place → front ≠ place → s.Enters ignored (pathOf path front)

theorem entersAbove_nil : s.EntersAbove ignored path [] := by
  intro front hfront hne
  exact absurd (List.prefix_nil.mp hfront) hne

/-- The fronts of a place are the empty one and those that go through the first name. -/
theorem forall_fronts_cons_iff {holds : Text → Prop} {name : Text} {place : Place} :
    (∀ front, front <+: name :: place → front ≠ name :: place → holds (pathOf path front)) ↔
      holds path ∧
        ∀ front, front <+: place → front ≠ place → holds (pathOf (below path name) front) := by
  constructor
  · intro h
    refine ⟨h [] List.nil_prefix (by simp), fun front hfront hne => ?_⟩
    exact h (name :: front) ((List.prefix_cons_inj name).mpr hfront) (by simpa using hne)
  · rintro ⟨hpath, hbelow⟩ front hfront hne
    cases front with
    | nil => exact hpath
    | cons first front =>
      obtain ⟨rfl, hrest⟩ := List.cons_prefix_cons.mp hfront
      exact hbelow front hrest (by simpa using hne)

theorem entersAbove_cons_iff {name : Text} {place : Place} :
    s.EntersAbove ignored path (name :: place) ↔
      s.Enters ignored path ∧ s.EntersAbove ignored (below path name) place :=
  forall_fronts_cons_iff

/-- The files that a walk finds at and below a path. -/
def WalksBelow (s : Selection) (ignored : Text → Bool) (directory : Text) (n : Node) (path : Text) :
    Prop :=
  ∃ place, n.HasFile place ∧ path = pathOf directory place ∧
    s.EntersAbove ignored directory place ∧ s.Takes ignored path

/-- A check that answers for all entries at and below a path. -/
def Answers (check : Text → Except Failure Bool) (ignored : Text → Bool) (path : Text) (n : Node) :
    Prop :=
  ∀ place, n.HasEntry place → check (pathOf path place) = .ok (ignored (pathOf path place))

/-- **What the walk finds, directory by directory.**  Induction on the tree. -/
theorem filesAt_walks (s : Selection) (ignored : Text → Bool) {check : Text → Except Failure Bool}
    (n : Node) : ∀ path, Answers check ignored path n →
      Finds (filesAt s check path n) (s.WalksBelow ignored path n) := by
  induction n using Node.induct with
  | file body =>
    intro path hcheck
    obtain ⟨found, hfound, hpaths⟩ := filesAt_file s ignored path body
    have hown : check path = .ok (ignored path) := hcheck [] (.here _)
    refine ⟨found, ?_, fun p => (hpaths p).trans ?_⟩
    · rw [filesAt] at hfound ⊢
      rw [hown]
      exact hfound
    · constructor
      · rintro ⟨place, hfile, hpath, htakes⟩
        cases hfile
        exact ⟨[], .here body, hpath, entersAbove_nil, htakes⟩
      · rintro ⟨place, hfile, hpath, -, htakes⟩
        exact ⟨place, hfile, hpath, htakes⟩
  | link target =>
    intro path _
    refine ⟨[], by rw [filesAt], fun p => ?_⟩
    simp only [List.not_mem_nil, false_iff]
    rintro ⟨place, hfile, -⟩
    cases hfile
  | directory entries ih =>
    intro path hcheck
    have hown : check path = .ok (ignored path) := hcheck [] (.here _)
    rw [filesAt, hown]
    dsimp only
    split
    next hpruned =>
      rw [Bool.and_eq_true, Bool.not_eq_true'] at hpruned
      refine ⟨[], rfl, fun p => ?_⟩
      simp only [List.not_mem_nil, false_iff]
      rintro ⟨place, hfile, -, henters, -⟩
      cases hfile
      have hpath := (entersAbove_cons_iff.mp henters).1
      rw [Enters, hpruned.1, hpruned.2] at hpath
      simp at hpath
    next hentered =>
      have henters : s.Enters ignored path := by
        rw [Enters]
        cases hexcluded : s.isExcluded path true (ignored path) with
        | false => exact Or.inl rfl
        | true =>
          rw [hexcluded, Bool.true_and, Bool.not_eq_true'] at hentered
          exact Or.inr (Bool.not_eq_false _ ▸ hentered)
      obtain ⟨found, hfound, hpaths⟩ := filesIn_finds fun e he =>
        ih e he (below path e.1) fun place hentry => hcheck (e.1 :: place) (.inside he hentry)
      refine ⟨found, hfound, fun p => (hpaths p).trans ?_⟩
      constructor
      · rintro ⟨e, he, place, hfile, rfl, hbelow, htakes⟩
        exact ⟨e.1 :: place, .inside he hfile, rfl, entersAbove_cons_iff.mpr ⟨henters, hbelow⟩, htakes⟩
      · rintro ⟨place, hfile, rfl, habove, htakes⟩
        obtain ⟨e, he, rest, hrest, rfl⟩ := Node.hasFile_directory_iff.mp hfile
        exact ⟨e, he, rest, hrest, rfl, (entersAbove_cons_iff.mp habove).2, htakes⟩

/-- A walk gets to a file: every directory on the way is entered, and the file is taken.  The directory
in which the walk starts is always entered. -/
structure Walks (s : Selection) (ignored : Text → Bool) (place : Place) : Prop where
  enters : ∀ front, front <+: place → front ≠ [] → front ≠ place →
    s.Enters ignored (Text.joinWith ['/'] front)
  takes : s.Takes ignored (Text.joinWith ['/'] place)

theorem entersAbove_iff {name : Text} {place : Place} (hnamed : IsNamed (name :: place)) :
    s.EntersAbove ignored (below [] name) place ↔
      ∀ front, front <+: name :: place → front ≠ [] → front ≠ name :: place →
        s.Enters ignored (Text.joinWith ['/'] front) := by
  have hpath : ∀ front, front <+: place →
      pathOf (below [] name) front = Text.joinWith ['/'] (name :: front) := by
    intro front hfront
    have hfront : IsNamed (name :: front) := fun part hpart =>
      hnamed part ((List.cons_prefix_cons.mpr ⟨rfl, hfront⟩).subset hpart)
    exact pathOf_nil hfront
  constructor
  · intro h front hfront hne hproper
    obtain ⟨first, front, rfl⟩ := List.exists_cons_of_ne_nil hne
    obtain ⟨rfl, hrest⟩ := List.cons_prefix_cons.mp hfront
    rw [← hpath front hrest]
    exact h front hrest (by simpa using hproper)
  · intro h front hfront hproper
    rw [hpath front hfront]
    exact h (name :: front) (List.cons_prefix_cons.mpr ⟨rfl, hfront⟩) (by simp) (by simpa using hproper)

/-- **The files that a walk finds**, by their paths from the directory in which it starts. -/
theorem files_walks (s : Selection) {tree : FileTree} {root top : Path}
    {entries : List (Text × Node)} {check : Text → Except Failure Bool}
    (hopen : openRoot tree root = .ok (top, .directory entries))
    (hnamed : ∀ place, (Node.directory entries).HasEntry place → IsNamed place)
    (hcheck : ∀ place, place ≠ [] → (Node.directory entries).HasEntry place →
      check (Text.joinWith ['/'] place) = .ok (ignored (Text.joinWith ['/'] place))) :
    Finds (s.files check tree root) fun path =>
      ∃ place, (Node.directory entries).HasFile place ∧ path = Text.joinWith ['/'] place ∧
        s.Walks ignored place := by
  have hanswers : ∀ e ∈ entries, Answers check ignored (below [] e.1) e.2 := by
    intro e he place hentry
    have hinside : (Node.directory entries).HasEntry (e.1 :: place) := .inside he hentry
    have hpath : pathOf (below [] e.1) place = Text.joinWith ['/'] (e.1 :: place) :=
      pathOf_nil (hnamed _ hinside)
    rw [hpath]
    exact hcheck _ (by simp) hinside
  obtain ⟨found, hfound, hpaths⟩ := filesIn_finds fun e he =>
    filesAt_walks s ignored e.2 (below [] e.1) (hanswers e he)
  rw [files, hopen]
  refine ⟨found, hfound, fun path => (hpaths path).trans ?_⟩
  constructor
  · rintro ⟨e, he, place, hfile, rfl, habove, htakes⟩
    have hinside : (Node.directory entries).HasFile (e.1 :: place) := .inside he hfile
    have hplace := hnamed _ hinside.hasEntry
    have hpath : pathOf (below [] e.1) place = Text.joinWith ['/'] (e.1 :: place) := pathOf_nil hplace
    rw [hpath] at htakes ⊢
    exact ⟨e.1 :: place, hinside, rfl, (entersAbove_iff hplace).mp habove, htakes⟩
  · rintro ⟨place, hfile, rfl, henters, htakes⟩
    obtain ⟨e, he, rest, hrest, rfl⟩ := Node.hasFile_directory_iff.mp hfile
    have hplace := hnamed _ hfile.hasEntry
    have hpath : pathOf (below [] e.1) rest = Text.joinWith ['/'] (e.1 :: rest) := pathOf_nil hplace
    exact ⟨e, he, rest, hrest, hpath.symm, (entersAbove_iff hplace).mpr henters, htakes⟩

/-! ### One more pattern -/

/-- The selection with one more exclude pattern. -/
def withExclude (s : Selection) (p : Glob.PathPattern) : Selection :=
  if p.reversed then { s with keeps := s.keeps ++ [p] } else { s with excludes := s.excludes ++ [p] }

/-- A rule more is a pattern more. -/
theorem compile_withExclude (rules : SelectionRules) (name : Text) :
    compile { rules with excludes := rules.excludes ++ [name] } =
      (compile rules).map (·.withExclude (Glob.PathPattern.compile rules.caseSensitive name)) := by
  unfold compile
  dsimp only
  split
  · rfl
  · simp only [Except.map, withExclude]
    cases hreversed : (Glob.PathPattern.compile rules.caseSensitive name).reversed <;>
      simp [hreversed, ← List.append_assoc, List.map_append, List.filter_append]

variable {p : Glob.PathPattern} {place : Place}

theorem pathSegments_joinWith (hnamed : IsNamed place) :
    Glob.pathSegments (Text.joinWith ['/'] place) = place := by
  rw [← pathOf_nil hnamed, pathSegments_pathOf hnamed]
  rfl

/-- The segments of a path below a directory. -/
theorem exists_pathSegments_eq {front : Place} (hnamed : IsNamed place) (hfront : front <+: place)
    (hne : front ≠ place) :
    ∃ more, more ≠ [] ∧ Glob.pathSegments (Text.joinWith ['/'] place)
      = Glob.pathSegments (Text.joinWith ['/'] front) ++ more := by
  obtain ⟨more, rfl⟩ := hfront
  have hnames : IsNamed front := fun name hname => hnamed name (List.mem_append_left _ hname)
  refine ⟨more, fun hnil => hne (by rw [hnil, List.append_nil]), ?_⟩
  rw [pathSegments_joinWith hnamed, pathSegments_joinWith hnames]

/-- To be excluded by one more pattern is to be ignored where it matches. -/
theorem isExcluded_withExclude (hreversed : p.reversed = false) (path : Text) (isDirectory b : Bool) :
    (s.withExclude p).isExcluded path isDirectory b
      = s.isExcluded path isDirectory (b || p.accepts path isDirectory) := by
  rw [withExclude, hreversed, if_neg Bool.false_ne_true, isExcluded, isExcluded]
  dsimp only
  rw [List.any_append, List.any_cons, List.any_nil, Bool.or_false, Bool.or_assoc,
    Bool.or_comm (p.accepts path isDirectory)]

theorem isExcluded_mono {b c : Bool} (h : b = true → c = true) {isDirectory : Bool}
    (hkept : s.isExcluded path isDirectory c = false) : s.isExcluded path isDirectory b = false := by
  rw [isExcluded] at hkept ⊢
  cases b with
  | true => rwa [h rfl] at hkept
  | false =>
    cases hexcludes : s.excludes.any (·.accepts path isDirectory) with
    | false => rfl
    | true => rwa [hexcludes, Bool.or_true] at hkept

/-- **What one more pattern takes away.**  The files that it matches and that no reversed pattern keeps;
a directory that is left out because of it has no other files. -/
theorem walks_withExclude_iff (hreversed : p.reversed = false) (hnamed : IsNamed place) :
    (s.withExclude p).Walks ignored place ↔ s.Walks ignored place ∧
      (p.accepts (Text.joinWith ['/'] place) false = false ∨
        s.keeps.any (·.accepts (Text.joinWith ['/'] place) false) = true) := by
  have hincluded : ∀ path, (s.withExclude p).isIncluded path false = s.isIncluded path false := by
    intro path
    rw [withExclude, hreversed]
    rfl
  have hmay : ∀ path, (s.withExclude p).mayKeepBelow path = s.mayKeepBelow path := by
    intro path
    rw [withExclude, hreversed]
    rfl
  constructor
  · rintro ⟨henters, hin, hout⟩
    rw [isExcluded_withExclude hreversed] at hout
    refine ⟨⟨fun front hfront hne hproper => ?_, by rwa [← hincluded], ?_⟩, ?_⟩
    · rcases henters front hfront hne hproper with hexcluded | hkeep
      · rw [isExcluded_withExclude hreversed] at hexcluded
        exact Or.inl (isExcluded_mono (fun hb => by rw [hb, Bool.true_or]) hexcluded)
      · rw [hmay] at hkeep
        exact Or.inr hkeep
    · exact isExcluded_mono (fun hb => by rw [hb, Bool.true_or]) hout
    · cases haccepts : p.accepts (Text.joinWith ['/'] place) false with
      | false => exact Or.inl rfl
      | true =>
        rw [haccepts, Bool.or_true, isExcluded, Bool.true_or, Bool.true_and, Bool.not_eq_false'] at hout
        exact Or.inr hout
  · rintro ⟨⟨henters, hin, hout⟩, hrest⟩
    refine ⟨fun front hfront hne hproper => ?_, by rwa [hincluded], ?_⟩
    · rw [Enters, hmay, isExcluded_withExclude hreversed]
      cases hkeep : s.mayKeepBelow (Text.joinWith ['/'] front) with
      | true => exact Or.inr rfl
      | false =>
        -- if the pattern matched the directory it would match the file, which nothing keeps
        obtain ⟨more, hmore, hpath⟩ := exists_pathSegments_eq hnamed hfront hproper
        have hnone := not_keeps_below hkeep hpath false
        have hpass : p.accepts (Text.joinWith ['/'] front) true = false := by
          rw [Bool.eq_false_iff]
          intro haccepts
          have hfile : p.accepts (Text.joinWith ['/'] place) false = true := by
            rw [Glob.PathPattern.accepts, hpath]
            exact Glob.PathPattern.acceptsSegments_append haccepts hmore false
          rw [hfile, hnone] at hrest
          simp at hrest
        rcases henters front hfront hne hproper with hexcluded | hmayKeep
        · rw [hpass, Bool.or_false]
          exact Or.inl hexcluded
        · rw [hkeep] at hmayKeep
          cases hmayKeep
    · rw [isExcluded_withExclude hreversed]
      rcases hrest with hpass | hkept
      · rwa [hpass, Bool.or_false]
      · rw [isExcluded, hkept, Bool.not_true, Bool.and_false]

/-- A reversed pattern more keeps an included file: the pattern matches it, or it is taken anyway and all
directories above it are entered, now that a file below them might be kept. -/
def Keeps (s : Selection) (p : Glob.PathPattern) (ignored : Text → Bool) (place : Place) : Prop :=
  s.isIncluded (Text.joinWith ['/'] place) false = true ∧
    (p.accepts (Text.joinWith ['/'] place) false = true ∨
      s.isExcluded (Text.joinWith ['/'] place) false (ignored (Text.joinWith ['/'] place)) = false ∧
      ∀ front, front <+: place → front ≠ [] → front ≠ place →
        s.Enters ignored (Text.joinWith ['/'] front) ∨
          p.mayMatchBelow (Text.joinWith ['/'] front) = true)

theorem Walks.keeps (h : s.Walks ignored place) (p : Glob.PathPattern) : s.Keeps p ignored place := by
  refine ⟨h.takes.1, Or.inr ⟨h.takes.2, fun front hfront hne hproper => ?_⟩⟩
  exact Or.inl (h.enters front hfront hne hproper)

/-- **What one more reversed pattern brings back.** -/
theorem walks_withKeep_iff (hreversed : p.reversed = true) (hnamed : IsNamed place) :
    (s.withExclude p).Walks ignored place ↔ s.Keeps p ignored place := by
  have hincluded : ∀ path, (s.withExclude p).isIncluded path false = s.isIncluded path false := by
    intro path
    rw [withExclude, hreversed]
    rfl
  have hexcluded : ∀ path isDirectory b, (s.withExclude p).isExcluded path isDirectory b
      = (s.isExcluded path isDirectory b && !p.accepts path isDirectory) := by
    intro path isDirectory b
    rw [withExclude, hreversed, if_pos rfl, isExcluded, isExcluded]
    dsimp only
    rw [List.any_append, List.any_cons, List.any_nil, Bool.or_false, Bool.not_or, Bool.and_assoc]
  have henters : ∀ path, (s.withExclude p).Enters ignored path ↔
      s.Enters ignored path ∨ p.mayMatchBelow path = true := by
    intro path
    have hmay : (s.withExclude p).mayKeepBelow path = (s.mayKeepBelow path || p.mayMatchBelow path) := by
      rw [withExclude, hreversed, if_pos rfl, mayKeepBelow, mayKeepBelow]
      dsimp only
      rw [List.any_append, List.any_cons, List.any_nil, Bool.or_false]
    have hbelow : p.accepts path true = true → p.mayMatchBelow path = true := by
      intro haccepts
      rw [Glob.PathPattern.accepts, ← List.append_nil (Glob.pathSegments path)] at haccepts
      exact Glob.PathPattern.mayMatchBelow_of_accepts haccepts
    rw [Enters, Enters, hmay, hexcluded, Bool.or_eq_true]
    cases haccepts : p.accepts path true with
    | false =>
      rw [Bool.not_false, Bool.and_true]
      tauto
    | true => simp [hbelow haccepts]
  constructor
  · rintro ⟨hdirectories, hin, hout⟩
    rw [hincluded] at hin
    rw [hexcluded] at hout
    refine ⟨hin, ?_⟩
    cases haccepts : p.accepts (Text.joinWith ['/'] place) false with
    | true => exact Or.inl rfl
    | false =>
      rw [haccepts, Bool.not_false, Bool.and_true] at hout
      refine Or.inr ⟨hout, fun front hfront hne hproper => ?_⟩
      exact (henters _).mp (hdirectories front hfront hne hproper)
  · rintro ⟨hin, hrest⟩
    refine ⟨fun front hfront hne hproper => (henters _).mpr ?_, by rwa [hincluded], ?_⟩
    · rcases hrest with haccepts | ⟨-, hdirectories⟩
      · obtain ⟨more, -, hpath⟩ := exists_pathSegments_eq hnamed hfront hproper
        rw [Glob.PathPattern.accepts, hpath] at haccepts
        exact Or.inr (Glob.PathPattern.mayMatchBelow_of_accepts haccepts)
      · exact hdirectories front hfront hne hproper
    · rw [hexcluded]
      rcases hrest with haccepts | ⟨hkept, -⟩
      · rw [haccepts, Bool.not_true, Bool.and_false]
      · rw [hkept, Bool.false_and]

end Selection

end LicenseHeader
