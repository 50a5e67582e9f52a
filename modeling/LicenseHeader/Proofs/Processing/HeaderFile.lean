import LicenseHeader.Processing
import LicenseHeader.Proofs.Journal
import LicenseHeader.Proofs.Repository.Inside
import LicenseHeader.Proofs.Selection.Walking

/-!
# The file of the header

A configuration can name the file of its header.  This file is not taken, and its name is also one more
exclude pattern, which matches at any depth.  So the files that are taken differ from those of a
configuration with the same header in it by more than this one file.

* `Job.exists_prepares` and `Job.gives_ofConfig`: what a configuration makes ready, part by part;
* `Job.files_spec`: the files of a job are those that a walk finds, without the file of the header;
* `Job.files_of_headerPath`: the comparison;
* `Job.files_lose_namesake`: a file that is lost because it has the name of the header file.
-/

namespace LicenseHeader

/-! ### Steady computations -/

theorem Resource.isSteady_find (tree : FileTree) (baseDir configDir : Path) (name : Text) :
    (find tree baseDir configDir name).IsSteady := by
  unfold find
  dsimp only
  split
  · split
    · exact ⟨_, (Journal.gives_note _).bind (Journal.gives_pure _)⟩
    · exact ⟨_, Journal.gives_throw _⟩
  · split
    · exact ⟨_, (Journal.gives_note _).bind (Journal.gives_pure _)⟩
    · exact ⟨_, Journal.gives_throw _⟩

theorem Repository.isSteady_forIgnoring (tree : FileTree) (directory : Path) (gate : Gate) :
    (forIgnoring tree directory gate).IsSteady := by
  unfold forIgnoring
  split
  · exact ⟨_, Journal.gives_pure _⟩
  · exact ⟨_, Journal.gives_pure _⟩
  · exact ⟨_, Journal.gives_throw _⟩
  · exact ⟨_, (Journal.gives_note _).bind (Journal.gives_pure _)⟩

theorem Repository.isSteady_readHistory (r : Repository) : r.readHistory.IsSteady := by
  unfold readHistory
  split
  · exact ⟨_, Journal.gives_pure _⟩
  · split
    · exact ⟨_, Journal.Gives.bind_error (Journal.gives_throw _)⟩
    · refine Journal.IsSteady.bind ⟨_, Journal.gives_ofExcept _⟩ fun h => ?_
      exact ⟨_, (Journal.gives_note _).bind (Journal.gives_pure _)⟩

theorem Repository.isSteady_forHistory (tree : FileTree) (directory : Path) (gate : Gate) :
    (forHistory tree directory gate).IsSteady := by
  unfold forHistory
  split
  · exact ⟨_, Journal.gives_pure _⟩
  · exact ⟨_, Journal.gives_pure _⟩
  · exact ⟨_, Journal.gives_throw _⟩
  · exact (isSteady_readHistory _).bind fun _ => ⟨_, Journal.gives_pure _⟩

namespace Job

variable {c : Config} {tree : FileTree} {currentYear : Text} {job : Job}

theorem isSteady_loadStyles (c : Config) (tree : FileTree) : (loadStyles c tree).IsSteady := by
  unfold loadStyles
  refine (Journal.isSteady_ofConfig _).bind fun start => ?_
  refine Journal.IsSteady.foldlM (fun registry name => ?_) _ _
  refine Journal.IsSteady.bind ((Resource.isSteady_find _ _ _ _).during _) fun resource => ?_
  refine (Journal.isSteady_ofConfig _).bind fun styles => ?_
  exact ⟨_, (Journal.gives_note _).bind (Journal.gives_pure _)⟩

theorem isSteady_loadHeader (c : Config) (tree : FileTree) : (loadHeader c tree).IsSteady := by
  unfold loadHeader
  split
  · exact ⟨_, Journal.gives_pure _⟩
  · refine Journal.IsSteady.bind ((Resource.isSteady_find _ _ _ _).during _) fun resource => ?_
    exact ⟨_, (Journal.gives_note _).bind (Journal.gives_pure _)⟩
  · exact ⟨_, Journal.gives_throw _⟩

/-! ### What a configuration makes ready -/

/-- The parts of a job, one after the other as they are made ready. -/
structure Parts where
  registry : Registry
  mapping : MappingTable
  header : HeaderTemplate
  headerFile : Option Path
  leftOut : List Text
  selection : Selection
  repository : Option Repository
  properties : Properties
  history : Option History

/-- The job with some parts. -/
def Parts.toJob (parts : Parts) (c : Config) (currentYear : Text) : Job where
  baseDir := c.baseDir
  selection := parts.selection
  repository := parts.repository
  conventions := {
    mapping := parts.mapping
    registry := parts.registry
    properties := parts.properties
    history := parts.history
    currentYear
    keywords := c.effectiveKeywords }
  header := parts.header
  headerFile := parts.headerFile
  strict := c.strictCheck
  dryRun := c.dryRun

/-- What a configuration makes ready, part by part. -/
structure Prepares (c : Config) (tree : FileTree) (parts : Parts) : Prop where
  valid : c.validate tree = .ok ()
  styles : (loadStyles c tree).Gives (.ok parts.registry)
  mapping : MappingTable.build c.mapping c.useBuiltinMapping parts.registry = .ok parts.mapping
  header : (loadHeader c tree).Gives (.ok (parts.header, parts.headerFile, parts.leftOut))
  selection : Selection.compile {
    includes := c.includes
    excludes := c.excludes ++ parts.leftOut
    useBuiltin := c.useBuiltinExcludes
    caseSensitive := c.caseSensitive } = .ok parts.selection
  repository : (Repository.forIgnoring tree c.baseDir c.ignoreGate).Gives (.ok parts.repository)
  properties : c.textProperties = .ok parts.properties
  history : (Repository.forHistory tree c.baseDir c.historyGate).Gives (.ok parts.history)

theorem gives_ofConfig {parts : Parts} (h : Prepares c tree parts) (currentYear : Text) :
    (ofConfig c tree currentYear).Gives (.ok (parts.toJob c currentYear)) := by
  unfold ofConfig
  rw [h.valid, h.properties]
  refine Journal.gives_ofConfig_ok.bind ?_
  refine h.styles.bind ?_
  rw [h.mapping]
  refine Journal.gives_ofConfig_ok.bind ?_
  refine h.header.bind ?_
  dsimp only
  rw [h.selection]
  refine Journal.gives_ofConfig_ok.bind ?_
  refine h.repository.bind ?_
  refine Journal.gives_ofConfig_ok.bind ?_
  exact h.history.bind (Journal.gives_pure _)

theorem exists_prepares (h : (ofConfig c tree currentYear).results.1 = .ok job) :
    ∃ parts, Prepares c tree parts ∧ job = parts.toJob c currentYear := by
  unfold ofConfig Journal.results at h
  obtain ⟨⟨⟩, hvalid, more, h⟩ := Journal.exists_of_bind (Journal.isSteady_ofConfig _) h
  obtain ⟨registry, hstyles, more, h⟩ := Journal.exists_of_bind (isSteady_loadStyles c tree) h
  obtain ⟨mapping, hmapping, more, h⟩ := Journal.exists_of_bind (Journal.isSteady_ofConfig _) h
  obtain ⟨⟨header, headerFile, leftOut⟩, hheader, more, h⟩ :=
    Journal.exists_of_bind (isSteady_loadHeader c tree) h
  obtain ⟨selection, hselection, more, h⟩ := Journal.exists_of_bind (Journal.isSteady_ofConfig _) h
  obtain ⟨repository, hrepository, more, h⟩ :=
    Journal.exists_of_bind (Repository.isSteady_forIgnoring _ _ _) h
  obtain ⟨properties, hproperties, more, h⟩ := Journal.exists_of_bind (Journal.isSteady_ofConfig _) h
  obtain ⟨history, hhistory, more, h⟩ :=
    Journal.exists_of_bind (Repository.isSteady_forHistory _ _ _) h
  exact ⟨⟨registry, mapping, header, headerFile, leftOut, selection, repository, properties, history⟩,
    ⟨Journal.eq_ok_of_gives_ofConfig hvalid, hstyles, Journal.eq_ok_of_gives_ofConfig hmapping, hheader,
      Journal.eq_ok_of_gives_ofConfig hselection, hrepository,
      Journal.eq_ok_of_gives_ofConfig hproperties, hhistory⟩, (Except.ok.inj h).symm⟩

/-! ### The header -/

/-- Where the file of a header is, if it comes from one. -/
def templateFile (tree : FileTree) (resource : Resource) : Option Path :=
  match resource.location with
  | .file path => (tree.canonical path).toOption
  | .bundled _ => none

theorem exists_of_loadHeader {name : Text} (hinline : c.inlineHeader = none)
    (hpath : c.headerPath = some name) {header : HeaderTemplate} {headerFile : Option Path}
    {leftOut : List Text} (h : (loadHeader c tree).Gives (.ok (header, headerFile, leftOut))) :
    ∃ resource, (Resource.find tree c.baseDir c.configDir name).Gives (.ok resource) ∧
      header = ⟨resource.content⟩ ∧ headerFile = templateFile tree resource ∧ leftOut = [name] := by
  have hload := h []
  unfold loadHeader at hload
  rw [hinline, hpath] at hload
  dsimp only at hload
  have hsteady := Resource.isSteady_find tree c.baseDir c.configDir name
  obtain ⟨resource, hresource, more, hload⟩ := Journal.exists_of_bind (hsteady.during _) hload
  obtain ⟨⟨⟩, -, more, hload⟩ := Journal.exists_of_bind ⟨_, Journal.gives_note _⟩ hload
  obtain ⟨rfl, hrest⟩ := Prod.mk.inj (Except.ok.inj hload)
  obtain ⟨rfl, rfl⟩ := Prod.mk.inj hrest
  exact ⟨resource, hsteady.gives_of_during hresource, rfl, rfl, rfl⟩

/-- The configuration with the text of the header in it. -/
def withInline (c : Config) (content : Text) : Config :=
  { c with headerPath := none, inlineHeader := some content }

theorem validate_withInline (h : c.validate tree = .ok ()) (content : Text) :
    (withInline c content).validate tree = .ok () := by
  unfold Config.validate at h ⊢
  by_cases hmissing : c.inlineHeader.isNone ∧ c.headerPath.isNone
  · rw [if_pos hmissing] at h
    cases h
  · rw [if_neg hmissing] at h
    rw [if_neg (by simp [withInline])]
    exact h

/-- With the text of the header in the configuration everything else is made ready in the same way, but
for the pattern that leaves the file of the header out. -/
theorem prepares_withInline {name : Text} (hinline : c.inlineHeader = none)
    (hpath : c.headerPath = some name) {parts : Parts} (h : Prepares c tree parts) :
    ∃ resource selection, (Resource.find tree c.baseDir c.configDir name).Gives (.ok resource) ∧
      parts.headerFile = templateFile tree resource ∧
      parts.selection = selection.withExclude (Glob.PathPattern.compile c.caseSensitive name) ∧
      Prepares (withInline c resource.content) tree
        { parts with headerFile := none, leftOut := [], selection } := by
  obtain ⟨resource, hresource, hheader, hfile, hleft⟩ := exists_of_loadHeader hinline hpath h.header
  have hcompile := h.selection
  have hmore := Selection.compile_withExclude {
    includes := c.includes
    excludes := c.excludes
    useBuiltin := c.useBuiltinExcludes
    caseSensitive := c.caseSensitive } name
  rw [hleft, hmore] at hcompile
  cases hselection : Selection.compile {
    includes := c.includes
    excludes := c.excludes
    useBuiltin := c.useBuiltinExcludes
    caseSensitive := c.caseSensitive } with
  | error e =>
    rw [hselection] at hcompile
    cases hcompile
  | ok selection =>
    rw [hselection] at hcompile
    refine ⟨resource, selection, hresource, hfile, (Except.ok.inj hcompile).symm, ?_⟩
    refine ⟨validate_withInline h.valid _, h.styles, h.mapping, ?_, ?_, h.repository, h.properties,
      h.history⟩
    · rw [hheader]
      exact Journal.gives_pure _
    · rw [List.append_nil]
      exact hselection

/-! ### The files of a job -/

/-- Whether the ignore files of a repository leave a path below a directory out. -/
def leavesOut (repository : Option Repository) (tree : FileTree) (top : Path) (path : Text) : Bool :=
  repository.any fun r => (r.ignores tree (top.join ⟨path⟩)).toOption.getD false

theorem isAbsolute_joinWith {place : Place} (hnamed : Selection.IsNamed place) :
    Path.isAbsolute ⟨Text.joinWith ['/'] place⟩ = false := by
  cases place with
  | nil => rfl
  | cons name place =>
    obtain ⟨⟨hname, hslash⟩, -⟩ := List.forall_mem_cons.mp hnamed
    obtain ⟨first, rest, rfl⟩ := List.exists_cons_of_ne_nil hname
    have hne : first ≠ '/' := fun heq => hslash (heq ▸ List.mem_cons_self)
    rw [Selection.joinWith_slash]
    simp [Path.isAbsolute, hne]

/-- What a job does not leave out was asked of a repository that answers. -/
theorem ignored_eq_ok {repository : Option Repository} {place : Place}
    (hrepository : ∀ r ∈ repository, r.place <+: place) {path : Text}
    (hpath : Path.isAbsolute ⟨path⟩ = false) :
    (match repository with
      | none => .ok false
      | some r => r.ignores tree ((Place.path place).join ⟨path⟩))
      = Except.ok (leavesOut repository tree (Place.path place) path) := by
  cases repository with
  | none => rfl
  | some r =>
    obtain ⟨b, hb⟩ := Repository.exists_ignores tree (hrepository r rfl) hpath
    rw [leavesOut]
    dsimp only
    rw [hb, Option.any_some, hb]
    rfl

theorem isPrefix_of_forIgnoring {directory : Path} {gate : Gate} {repository : Option Repository}
    (h : (Repository.forIgnoring tree directory gate).Gives (.ok repository)) {place : Place}
    (hplace : tree.resolve directory = .ok place) : ∀ r ∈ repository, r.place <+: place := by
  intro r hr
  have hresult := h []
  unfold Repository.forIgnoring at hresult
  split at hresult
  next =>
    obtain rfl := Except.ok.inj hresult
    cases hr
  next =>
    obtain rfl := Except.ok.inj hresult
    cases hr
  next => cases hresult
  next found _ hopen =>
    obtain rfl := Except.ok.inj hresult
    obtain rfl := Option.some.inj hr
    obtain ⟨place', hplace', hprefix⟩ := Repository.isPrefix_of_openFor hopen
    rw [hplace] at hplace'
    rwa [Except.ok.inj hplace']

/-- **The files of a job** are those that a walk finds, without the file of the header. -/
theorem files_spec {entries : List (Text × Node)} {place : Place}
    (hplace : tree.resolve job.baseDir = .ok place)
    (hroot : tree.node job.baseDir = .ok (.directory entries))
    (hnamed : ∀ place, (Node.directory entries).HasEntry place → Selection.IsNamed place)
    (hrepository : ∀ r ∈ job.repository, r.place <+: place) :
    ∃ paths, job.files tree = .ok paths ∧ ∀ path, path ∈ paths ↔
      ∃ file, (Node.directory entries).HasFile file ∧
        path = (Place.path place).join ⟨Text.joinWith ['/'] file⟩ ∧
        job.selection.Walks (leavesOut job.repository tree (Place.path place)) file ∧
        job.headerFile.any (·.same path) = false := by
  have hopen : Selection.openRoot tree job.baseDir = .ok (Place.path place, .directory entries) := by
    rw [Selection.openRoot, FileTree.canonical, hroot, hplace]
    rfl
  obtain ⟨found, hfound, hpaths⟩ := @Selection.files_walks
    (leavesOut job.repository tree (Place.path place)) job.selection tree job.baseDir _ entries
    (fun path =>
      match job.repository with
      | none => .ok false
      | some r => r.ignores tree ((Place.path place).join ⟨path⟩)) hopen hnamed
    fun file _ hentry => ignored_eq_ok hrepository (isAbsolute_joinWith (hnamed file hentry))
  have hfiles : job.files tree = .ok (((found.map fun path => (Place.path place).join ⟨path⟩).filter
      fun path => !(job.headerFile.any (·.same path))).mergeSort
        fun a b => Path.compare a b != .gt) := by
    rw [files, hopen]
    dsimp only
    split
    next hwalk => cases hfound.symm.trans hwalk
    next hwalk => rw [Except.ok.inj (hfound.symm.trans hwalk)]
  refine ⟨_, hfiles, fun path => ?_⟩
  rw [List.mem_mergeSort, List.mem_filter, List.mem_map]
  constructor
  · rintro ⟨⟨relative, hrelative, rfl⟩, hother⟩
    obtain ⟨file, hfile, rfl, hwalks⟩ := (hpaths relative).mp hrelative
    exact ⟨file, hfile, rfl, hwalks, by simpa using hother⟩
  · rintro ⟨file, hfile, rfl, hwalks, hother⟩
    exact ⟨⟨_, (hpaths _).mpr ⟨file, hfile, rfl, hwalks⟩, rfl⟩, by simpa using hother⟩

/-- A file is known by its path. -/
theorem eq_of_join_eq {top : Path} {file other : Place} (hfile : Selection.IsNamed file)
    (hother : Selection.IsNamed other)
    (h : top.join ⟨Text.joinWith ['/'] file⟩ = top.join ⟨Text.joinWith ['/'] other⟩) :
    file = other := by
  have hpath := Path.join_inj (isAbsolute_joinWith hfile) (isAbsolute_joinWith hother) h
  rw [← Selection.pathSegments_joinWith hfile, ← Selection.pathSegments_joinWith hother,
    Path.mk.inj hpath]

/-- The base directory of a valid configuration is a directory. -/
theorem exists_of_validate (h : c.validate tree = .ok ()) :
    ∃ entries place, tree.node c.baseDir = .ok (.directory entries) ∧
      tree.resolve c.baseDir = .ok place := by
  have hdirectory : tree.isDirectory c.baseDir = true := by
    by_contra hnone
    unfold Config.validate at h
    by_cases hmissing : c.inlineHeader.isNone ∧ c.headerPath.isNone
    · rw [if_pos hmissing] at h
      cases h
    rw [if_neg hmissing] at h
    split at h
    next =>
      split at h
      next => cases h
      next => cases h
    next hdirectory => exact hdirectory hnone
  unfold FileTree.isDirectory at hdirectory
  split at hdirectory
  next entries hnode =>
    cases hplace : tree.resolve c.baseDir with
    | error cause =>
      rw [FileTree.node, hplace] at hnode
      cases hnode
    | ok place => exact ⟨entries, place, hnode, rfl⟩
  next => cases hdirectory

theorem compile_reversed (caseSensitive : Bool) (name : Text) :
    (Glob.PathPattern.compile caseSensitive name).reversed = (name.head? == some '!') := by
  cases name with
  | nil => rfl
  | cons first rest =>
    by_cases hfirst : first = '!'
    · subst hfirst
      rfl
    · unfold Glob.PathPattern.compile
      dsimp only
      split
      next heq => exact absurd (List.cons.inj heq).1 hfirst
      next => simp [hfirst]

/-- **What naming the file of a header does to the files that are taken.**  Let the header of a
configuration come from a resource with a name, and let the base directory hold entries under proper
names.  The job with the same header in its configuration can be made ready as well, and both lists of
files are found.  Besides the file of the header, those files are lost that its name, as a pattern,
matches and no reversed pattern keeps.  A name that starts with an exclamation mark is a reversed pattern,
and brings files back instead. -/
theorem files_of_headerPath {name : Text} {root : Node} (hinline : c.inlineHeader = none)
    (hpath : c.headerPath = some name)
    (hjob : (ofConfig c tree currentYear).results.1 = .ok job)
    (hroot : tree.node c.baseDir = .ok root)
    (hnames : ∀ place, root.HasEntry place → ∀ part ∈ place, part ≠ [] ∧ '/' ∉ part) :
    ∃ resource inlineJob place paths inlinePaths,
      (Resource.find tree c.baseDir c.configDir name).results.1 = .ok resource ∧
      (ofConfig { c with headerPath := none, inlineHeader := some resource.content } tree
        currentYear).results.1 = .ok inlineJob ∧
      tree.resolve c.baseDir = .ok place ∧
      job.files tree = .ok paths ∧ inlineJob.files tree = .ok inlinePaths ∧
      (name.head? ≠ some '!' → ∀ path, path ∈ paths ↔
        ∃ file, root.HasFile file ∧ path = (Place.path place).join ⟨Text.joinWith ['/'] file⟩ ∧
          path ∈ inlinePaths ∧ (templateFile tree resource).any (·.same path) = false ∧
          ((Glob.PathPattern.compile c.caseSensitive name).accepts (Text.joinWith ['/'] file) false
              = false ∨
            inlineJob.selection.keeps.any (·.accepts (Text.joinWith ['/'] file) false) = true)) ∧
      (name.head? = some '!' → ∀ path, path ∈ paths ↔
        ∃ file, root.HasFile file ∧ path = (Place.path place).join ⟨Text.joinWith ['/'] file⟩ ∧
          (templateFile tree resource).any (·.same path) = false ∧
          (path ∈ inlinePaths ∨
            inlineJob.selection.Keeps (Glob.PathPattern.compile c.caseSensitive name)
              (leavesOut job.repository tree (Place.path place)) file)) := by
  obtain ⟨parts, hparts, rfl⟩ := exists_prepares hjob
  obtain ⟨resource, selection, hresource, hfile, hselection, hinlineParts⟩ :=
    prepares_withInline hinline hpath hparts
  obtain ⟨entries, place, hnode, hplace⟩ := exists_of_validate hparts.valid
  obtain rfl : root = .directory entries := Except.ok.inj (hroot.symm.trans hnode)
  have hrepository := isPrefix_of_forIgnoring hparts.repository hplace
  obtain ⟨paths, hpaths, hmem⟩ :=
    @files_spec tree (parts.toJob c currentYear) entries place hplace hroot hnames hrepository
  obtain ⟨inlinePaths, hinlinePaths, hinlineMem⟩ :=
    @files_spec tree (Parts.toJob { parts with headerFile := none, leftOut := [], selection }
      (withInline c resource.content) currentYear) entries place hplace hroot hnames hrepository
  dsimp only [Parts.toJob] at hmem hinlineMem
  rw [hselection, hfile] at hmem
  refine ⟨resource, _, place, paths, inlinePaths, hresource [], gives_ofConfig hinlineParts currentYear [],
    hplace, hpaths, hinlinePaths, ?_, ?_⟩
  · intro hname path
    have hreversed : (Glob.PathPattern.compile c.caseSensitive name).reversed = false := by
      simpa [compile_reversed] using hname
    rw [hmem]
    constructor
    · rintro ⟨file, hfound, rfl, hwalks, hother⟩
      have hnamed := hnames file hfound.hasEntry
      obtain ⟨hwalks, hrest⟩ := (Selection.walks_withExclude_iff hreversed hnamed).mp hwalks
      exact ⟨file, hfound, rfl, (hinlineMem _).mpr ⟨file, hfound, rfl, hwalks, rfl⟩, hother, hrest⟩
    · rintro ⟨file, hfound, rfl, hin, hother, hrest⟩
      have hnamed := hnames file hfound.hasEntry
      obtain ⟨same, hsame, heq, hwalks, -⟩ := (hinlineMem _).mp hin
      obtain rfl := eq_of_join_eq hnamed (hnames same hsame.hasEntry) heq
      exact ⟨file, hfound, rfl,
        (Selection.walks_withExclude_iff hreversed hnamed).mpr ⟨hwalks, hrest⟩, hother⟩
  · intro hname path
    have hreversed : (Glob.PathPattern.compile c.caseSensitive name).reversed = true := by
      simpa [compile_reversed] using hname
    rw [hmem]
    constructor
    · rintro ⟨file, hfound, rfl, hwalks, hother⟩
      have hkeeps := (Selection.walks_withKeep_iff hreversed (hnames file hfound.hasEntry)).mp hwalks
      exact ⟨file, hfound, rfl, hother, Or.inr hkeeps⟩
    · rintro ⟨file, hfound, rfl, hother, hkept⟩
      have hnamed := hnames file hfound.hasEntry
      refine ⟨file, hfound, rfl, (Selection.walks_withKeep_iff hreversed hnamed).mpr ?_, hother⟩
      rcases hkept with hin | hkeeps
      · obtain ⟨same, hsame, heq, hwalks, -⟩ := (hinlineMem _).mp hin
        obtain rfl := eq_of_join_eq hnamed (hnames same hsame.hasEntry) heq
        exact hwalks.keeps _
      · exact hkeeps

/-! ### A file with the name of the header file -/

/-- A tree with the file of a header and a file of the same name further down. -/
def namesakeTree : FileTree where
  top := .directory [
    ("HEADER.txt".toList, .file (.text "Copyright Acme".toList)),
    ("sub".toList, .directory [("HEADER.txt".toList, .file (.text []))])]

/-- A configuration that names the file of its header. -/
def namesakeConfig : Config where
  baseDir := ⟨['/']⟩
  headerPath := some "HEADER.txt".toList
  useBuiltinMapping := false
  useBuiltinExcludes := false

/-- Its selection, with some exclude patterns. -/
def namesakeSelection (excludes : List Text) : Selection where
  includes := builtinIncludes.map (Glob.PathPattern.compile true)
  excludes := excludes.map (Glob.PathPattern.compile true)
  keeps := []

/-- What it makes ready. -/
def namesakeParts (registry : Registry) : Parts where
  registry
  mapping := {}
  header := ⟨"Copyright Acme".toList⟩
  headerFile := some ⟨"/HEADER.txt".toList⟩
  leftOut := ["HEADER.txt".toList]
  selection := namesakeSelection ["HEADER.txt".toList]
  repository := none
  properties := []
  history := none

/-- What it makes ready with the text of the header in it. -/
def namesakeInlineParts (registry : Registry) : Parts :=
  { namesakeParts registry with headerFile := none, leftOut := [], selection := namesakeSelection [] }

theorem exists_prepares_namesake :
    ∃ registry, Prepares namesakeConfig namesakeTree (namesakeParts registry) := by
  obtain ⟨registry, hregistry⟩ : ∃ registry, Registry.builtin = .ok registry := by
    have hok : Registry.builtin.toBool = true := by decide +kernel
    cases hbuiltin : Registry.builtin with
    | error e =>
      rw [hbuiltin] at hok
      cases hok
    | ok registry => exact ⟨registry, rfl⟩
  refine ⟨registry, rfl, ?_, ?_, fun _ => rfl, rfl, fun _ => rfl, rfl, fun _ => rfl⟩
  · unfold loadStyles
    rw [hregistry]
    exact Journal.gives_ofConfig_ok.bind (Journal.gives_pure _)
  · have hsorted : namesakeConfig.mapping.sorted = [] := by simp [namesakeConfig, Keyed.sorted]
    unfold MappingTable.build
    rw [hsorted]
    rfl

theorem prepares_namesakeInline {registry : Registry}
    (h : Prepares namesakeConfig namesakeTree (namesakeParts registry)) :
    Prepares (withInline namesakeConfig "Copyright Acme".toList) namesakeTree
      (namesakeInlineParts registry) :=
  ⟨rfl, h.styles, h.mapping, fun _ => rfl, rfl, h.repository, h.properties, h.history⟩

theorem isNamed_namesake (place : Place) (h : namesakeTree.top.HasEntry place) :
    Selection.IsNamed place := by
  have hall : ∀ place ∈ [[], ["HEADER.txt".toList], ["sub".toList],
      ["sub".toList, "HEADER.txt".toList]], ∀ part ∈ place, part ≠ [] ∧ '/' ∉ part := by decide
  refine hall place ?_
  cases h with
  | here => decide
  | inside hentry hrest =>
    rcases hentry with _ | ⟨_, _ | ⟨_, ⟨⟩⟩⟩
    · cases hrest
      decide
    · cases hrest with
      | here => decide
      | inside hentry hrest =>
        rcases hentry with _ | ⟨_, ⟨⟩⟩
        cases hrest
        decide

theorem hasFile_namesake : namesakeTree.top.HasFile ["sub".toList, "HEADER.txt".toList] :=
  .inside (.tail _ (.head _)) (.inside (.head _) (.here _))

/-- When the file with the name of the header file is taken. -/
theorem exists_files_namesake {parts : Parts} (hbase : c.baseDir = ⟨['/']⟩)
    (hrepository : parts.repository = none) :
    ∃ paths, (parts.toJob c currentYear).files namesakeTree = .ok paths ∧
      (⟨"/sub/HEADER.txt".toList⟩ ∈ paths ↔
        parts.selection.Walks (fun _ => false) ["sub".toList, "HEADER.txt".toList] ∧
          parts.headerFile.any (·.same ⟨"/sub/HEADER.txt".toList⟩) = false) := by
  have hplace : namesakeTree.resolve c.baseDir = .ok [] := by
    rw [hbase]
    rfl
  have hroot : namesakeTree.node c.baseDir = .ok namesakeTree.top := by
    rw [hbase]
    rfl
  obtain ⟨paths, hpaths, hmem⟩ := @files_spec namesakeTree (parts.toJob c currentYear) _ [] hplace hroot
    isNamed_namesake (by simp [Parts.toJob, hrepository])
  refine ⟨paths, hpaths, (hmem _).trans ?_⟩
  dsimp only [Parts.toJob]
  rw [hrepository]
  constructor
  · rintro ⟨file, hfound, heq, hwalks, hother⟩
    obtain rfl := @eq_of_join_eq (Place.path []) _ _ (isNamed_namesake _ hasFile_namesake.hasEntry)
      (isNamed_namesake _ hfound.hasEntry) heq
    exact ⟨hwalks, hother⟩
  · rintro ⟨hwalks, hother⟩
    exact ⟨_, hasFile_namesake, rfl, hwalks, hother⟩

theorem walks_namesake :
    (namesakeSelection []).Walks (fun _ => false) ["sub".toList, "HEADER.txt".toList] := by
  refine ⟨fun front hfront hne hproper => ?_, by decide, by decide⟩
  have hall : ∀ front ∈ ["sub".toList, "HEADER.txt".toList].inits, front ≠ [] →
      front ≠ ["sub".toList, "HEADER.txt".toList] →
        (namesakeSelection []).isExcluded (Text.joinWith ['/'] front) true false = false := by decide
  exact Or.inl (hall front ((List.mem_inits _ _).mpr hfront) hne hproper)

theorem not_walks_namesake :
    ¬(namesakeSelection ["HEADER.txt".toList]).Walks (fun _ => false)
      ["sub".toList, "HEADER.txt".toList] := by
  intro h
  have hexcluded := h.takes.2
  revert hexcluded
  decide

theorem files_of_headerPath_namesake :
    ∃ job paths, (ofConfig namesakeConfig namesakeTree []).results.1 = .ok job ∧
      job.files namesakeTree = .ok paths ∧ ⟨"/sub/HEADER.txt".toList⟩ ∉ paths := by
  obtain ⟨registry, hparts⟩ := exists_prepares_namesake
  have hjob := gives_ofConfig hparts [] []
  obtain ⟨resource, inlineJob, place, paths, _, hresource, hinlineJob, hplace, hpaths, _, hmem, -⟩ :=
    files_of_headerPath rfl rfl hjob rfl isNamed_namesake
  refine ⟨_, paths, hjob, hpaths, fun hin => ?_⟩
  obtain ⟨file, hfound, heq, -, -, hrest⟩ := (hmem (by decide) _).mp hin
  obtain rfl := Except.ok.inj hplace
  obtain rfl : ["sub".toList, "HEADER.txt".toList] = file :=
    @eq_of_join_eq (Place.path []) _ _ (isNamed_namesake _ hasFile_namesake.hasEntry)
      (isNamed_namesake _ hfound.hasEntry) heq
  obtain rfl := Except.ok.inj hresource
  obtain rfl := Except.ok.inj
    ((gives_ofConfig (prepares_namesakeInline hparts) [] []).symm.trans hinlineJob)
  rcases hrest with hpass | hkept
  · revert hpass
    decide
  · exact Bool.false_ne_true hkept

/-- **A file is lost for its name.**  It is not the file of the header, and with the same header in the
configuration it is taken. -/
theorem files_lose_namesake :
    ∃ job inlineJob paths inlinePaths,
      (ofConfig namesakeConfig namesakeTree []).results.1 = .ok job ∧
      (ofConfig { namesakeConfig with
        headerPath := none, inlineHeader := some "Copyright Acme".toList } namesakeTree []).results.1
          = .ok inlineJob ∧
      job.files namesakeTree = .ok paths ∧ inlineJob.files namesakeTree = .ok inlinePaths ∧
      job.headerFile = some ⟨"/HEADER.txt".toList⟩ ∧ job.header = inlineJob.header ∧
      ⟨"/sub/HEADER.txt".toList⟩ ∈ inlinePaths ∧ ⟨"/sub/HEADER.txt".toList⟩ ∉ paths := by
  obtain ⟨registry, hparts⟩ := exists_prepares_namesake
  obtain ⟨paths, hpaths, hmem⟩ :=
    @exists_files_namesake namesakeConfig [] (namesakeParts registry) rfl rfl
  obtain ⟨inlinePaths, hinlinePaths, hinlineMem⟩ :=
    @exists_files_namesake (withInline namesakeConfig "Copyright Acme".toList) []
      (namesakeInlineParts registry) rfl rfl
  refine ⟨_, _, paths, inlinePaths, gives_ofConfig hparts [] [],
    gives_ofConfig (prepares_namesakeInline hparts) [] [], hpaths, hinlinePaths, rfl, rfl, ?_, ?_⟩
  · exact hinlineMem.mpr ⟨walks_namesake, rfl⟩
  · exact fun hin => not_walks_namesake (hmem.mp hin).1

end Job

end LicenseHeader
