import LicenseHeader.Processing
import LicenseHeader.Proofs.FileTree.Writing
import LicenseHeader.Proofs.Header.LineBreaks
import LicenseHeader.Proofs.Style.Builtin

/-!
# Processing files, whatever the line breaks

The same file can be written with line feeds alone or with carriage returns.  Every action does the
same to both: what comes of it is the same, and the new text of the second is that of the first with
carriage returns.

* `Document.crlf`: the document of the file with carriage returns (`Document.ofText_crlf`);
* `Job.act_crlf`: an action on the two documents;
* `Job.SameButBreaks`: two results of handling a file that differ in line breaks only;
* `Job.handle_crlf` is the result.
-/

namespace LicenseHeader

/-! ### Documents with carriage returns -/

namespace Document

variable {s : Style} {keywords : List Text} {properties : Properties} {t : Text} {d : Document}

/-- The document of the same file with carriage returns. -/
def crlf (d : Document) : Document :=
  { d with
    above := d.above.crlf
    header := d.header.map Text.crlf
    below := d.below.crlf
    lineEnding := .crlf }

@[simp]
theorem hasHeader_crlf (d : Document) : d.crlf.hasHeader = d.hasHeader := Option.isSome_map

@[simp]
theorem text_crlf (d : Document) : d.crlf.text = d.text.crlf := by
  have hheader : (d.header.map Text.crlf).getD [] = Text.crlf (d.header.getD []) := by
    cases d.header <;> rfl
  show d.above.crlf ++ (d.header.map Text.crlf).getD [] ++ d.below.crlf
    = Text.crlf (d.above ++ d.header.getD [] ++ d.below)
  rw [hheader, Text.crlf_append, Text.crlf_append]

/-- The header is put in with carriage returns. -/
theorem insertHeader_crlf (hending : d.lineEnding = .lf) (h : HeaderTemplate) :
    d.crlf.insertHeader h = (d.insertHeader h).map crlf := by
  show (h.render d.style d.properties).map _ = _
  rw [insertHeader]
  cases h.render d.style d.properties with
  | error cycle => rfl
  | ok rendered =>
    have hbelow : (d.header.map Text.crlf).getD [] ++ d.below.crlf
        = Text.crlf (d.header.getD [] ++ d.below) := by
      rw [Text.crlf_append]
      cases d.header <;> rfl
    show Except.ok { d.crlf with
      header := some (Text.crlf rendered)
      below := (d.header.map Text.crlf).getD [] ++ d.below.crlf } = _
    rw [hbelow, hending]
    rfl

/-- A file is compared with a header line by line, the breaks left out. -/
theorem carries_crlf (hreturn : '\r' ∉ d.text) (h : HeaderTemplate) (strict : Bool) :
    d.crlf.carries h strict = d.carries h strict := by
  have hlines : h.firstLines d.crlf.text = h.firstLines d.text := by
    rw [text_crlf, HeaderTemplate.firstLines, Text.lines_crlf hreturn, HeaderTemplate.firstLines]
  unfold carries HeaderTemplate.isPresent HeaderTemplate.isPresentStrict
    HeaderTemplate.isPresentLenient
  rw [hlines]
  rfl

/-- **Reading a file with carriage returns.**  The parts of the document are those of the file with
line feeds alone. -/
theorem ofText_crlf (hreturn : '\r' ∉ t) (hfeed : '\n' ∈ t) :
    ofText s keywords properties t.crlf = (ofText s keywords properties t).crlf := by
  have hplain : ∀ l ∈ Line.split t, l.IsPlain := fun l => Line.isPlain_of_mem_split hreturn
  rw [HeaderScan.split_run s keywords t] at hplain
  have habove := Line.unsplit_map_crlf fun l hl => hplain l (List.mem_append_left _ hl)
  have hbelow := Line.unsplit_map_crlf fun l hl =>
    hplain l (List.mem_append_right _ (List.mem_append_right _ hl))
  have hheader : ((HeaderScan.run s keywords t).header.map (List.map Line.crlf)).map Line.unsplit
      = ((HeaderScan.run s keywords t).header.map Line.unsplit).map Text.crlf := by
    cases hrun : (HeaderScan.run s keywords t).header with
    | none => rfl
    | some header =>
      rw [hrun] at hplain
      exact congrArg some (Line.unsplit_map_crlf fun l hl =>
        hplain l (List.mem_append_right _ (List.mem_append_left _ hl)))
  unfold ofText
  dsimp only
  rw [HeaderScan.run_crlf hreturn, Text.detect_crlf hfeed]
  simp only [HeaderScan.map, habove, hbelow, hheader]
  rfl

end Document

/-! ### Actions -/

namespace Job

variable {job : Job} {action : Action} {path : Path} {d : Document} {tree tree' : FileTree} {t : Text}

/-- The same change, made with carriage returns. -/
def changeCrlf (change : Option (Document × String)) : Option (Document × String) :=
  change.map fun c => (c.1.crlf, c.2)

/-- An action on a document with carriage returns. -/
theorem act_crlf (job : Job) (action : Action) (path : Path) (hreturn : '\r' ∉ d.text)
    (hending : d.lineEnding = .lf) :
    job.act action path d.crlf
      = (job.act action path d).map fun r => (r.1, changeCrlf r.2) := by
  have hinsert : d.crlf.removeHeader.insertHeader job.header
      = (d.removeHeader.insertHeader job.header).map Document.crlf :=
    Document.insertHeader_crlf (d := d.removeHeader) hending job.header
  unfold act
  dsimp only
  rw [Document.hasHeader_crlf, Document.carries_crlf hreturn, hinsert]
  cases d.hasHeader with
  | false =>
    cases action with
    | check => rfl
    | remove => rfl
    | format => cases d.removeHeader.insertHeader job.header <;> rfl
  | true =>
    cases d.carries job.header job.strict with
    | error cycle => rfl
    | ok passes =>
      cases action with
      | check => rfl
      | remove => rfl
      | format =>
        cases passes with
        | true => rfl
        | false => cases d.removeHeader.insertHeader job.header <;> rfl

/-! ### Files -/

/-- Two results of handling a file, in `tree` with line feeds alone and in `tree'` with carriage
returns, that differ in line breaks only. -/
inductive SameButBreaks (tree tree' : FileTree) :
    Except Failure (Outcome × FileTree) → Except Failure (Outcome × FileTree) → Prop where
  | failed (f : Failure) : SameButBreaks tree tree' (.error f) (.error f)
  /-- Nothing is written. -/
  | kept (outcome : Outcome) : SameButBreaks tree tree' (.ok (outcome, tree)) (.ok (outcome, tree'))
  /-- A text is written to a path, and the same text with carriage returns to the same path. -/
  | written (outcome : Outcome) {target : Path} {text : Text} {left left' : FileTree} :
      tree.write target text = .ok left → tree'.write target text.crlf = .ok left' →
      left.readText target = .ok text → left'.readText target = .ok text.crlf →
      SameButBreaks tree tree' (.ok (outcome, left)) (.ok (outcome, left'))

/-- Saving a text fails in both trees or in none. -/
theorem sameButBreaks_save (hshape : tree.SameShape tree') (job : Job) (path : Path)
    (ending : String) (text : Text) (outcome : Outcome) :
    SameButBreaks tree tree' ((job.save tree path ending text).map (outcome, ·))
      ((job.save tree' path ending text.crlf).map (outcome, ·)) := by
  unfold save
  dsimp only
  rcases FileTree.write_of_sameShape hshape
      (if job.dryRun then path.sibling ending.toList else path) text text.crlf with
    ⟨cause, hfirst, hsecond⟩ | ⟨left, left', hfirst, hsecond⟩
  · rw [hfirst, hsecond]
    exact .failed _
  · rw [hfirst, hsecond]
    exact .written outcome hfirst hsecond (FileTree.readText_write hfirst)
      (FileTree.readText_write hsecond)

/-- What is done to a file with a text. -/
theorem handle_of_readBody (hread : tree.readBody path = .ok (.text t))
    (hknown : (job.conventions.styleOf path).isUnknown = false) :
    job.handle action tree path =
      match job.act action path (Document.ofText (job.conventions.styleOf path)
        job.conventions.keywords (job.conventions.propertiesOf path) t) with
      | .error f => .error f
      | .ok (outcome, none) => .ok (outcome, tree)
      | .ok (outcome, some (new, ending)) =>
        (job.save tree path ending new.text).map (outcome, ·) := by
  unfold handle Conventions.document?
  dsimp only
  rw [hread, hknown]
  show (job.act action path _ >>= _) = _
  cases job.act action path (Document.ofText (job.conventions.styleOf path)
      job.conventions.keywords (job.conventions.propertiesOf path) t) with
  | error f => rfl
  | ok answer =>
    obtain ⟨outcome, change⟩ := answer
    cases change with
    | none => rfl
    | some change =>
      show (job.save tree path change.2 change.1.text >>= _)
        = (job.save tree path change.2 change.1.text).map _
      cases job.save tree path change.2 change.1.text <;> rfl

/-- Handling a file of an unknown style. -/
theorem handle_of_isUnknown (hunknown : (job.conventions.styleOf path).isUnknown = true) :
    job.handle action tree path = .ok (.unknown, tree) := by
  unfold handle
  rw [hunknown]
  rfl

/-- **Line breaks make no difference.**  A file is given carriage returns and nothing else.  Then every
action fails in the same way or has the same outcome, and writes the same text with carriage returns;
and its header, in whatever style it is looked for, stands on the same lines. -/
theorem handle_crlf (job : Job) (action : Action) (path : Path) (hreturn : '\r' ∉ t)
    (hfeed : '\n' ∈ t) (hread : tree.readBody path = .ok (.text t))
    (hwrite : tree.write path t.crlf = .ok tree') :
    SameButBreaks tree tree' (job.handle action tree path) (job.handle action tree' path) ∧
      ∀ s keywords, HeaderScan.SameLines s keywords t t.crlf := by
  refine ⟨?_, HeaderScan.sameLines_crlf hreturn⟩
  cases hknown : (job.conventions.styleOf path).isUnknown with
  | true =>
    rw [handle_of_isUnknown hknown, handle_of_isUnknown hknown]
    exact .kept _
  | false =>
    have hshape := FileTree.sameShape_write hread hwrite
    rw [handle_of_readBody hread hknown, handle_of_readBody (FileTree.readBody_write hwrite) hknown,
      Document.ofText_crlf hreturn hfeed, act_crlf]
    · cases job.act action path (Document.ofText (job.conventions.styleOf path)
          job.conventions.keywords (job.conventions.propertiesOf path) t) with
      | error f => exact .failed f
      | ok answer =>
        obtain ⟨outcome, change⟩ := answer
        cases change with
        | none => exact .kept outcome
        | some change =>
          have hsave := sameButBreaks_save hshape job path change.2 change.1.text outcome
          rw [← Document.text_crlf] at hsave
          exact hsave
    · rw [Document.text_ofText]
      exact hreturn
    · exact Text.detect_of_noReturn hreturn

/-- A job for files in C, whose results are written next to them. -/
def ofHeaderInC (h : HeaderTemplate) (style : Style) : Job where
  baseDir := ⟨['/']⟩
  selection := ⟨[], [], []⟩
  repository := none
  conventions := {
    mapping := { extensions := [("c".toList, "c_style".toList)] }
    registry := ⟨[("c_style".toList, style)]⟩
    keywords := ["copyright".toList] }
  header := h
  headerFile := none
  strict := false
  dryRun := true

/-- A tree with a directory and a link to it, and one file with the given text. -/
def linkedTree (t : Text) : FileTree where
  top := .directory [("lib".toList, .link ⟨"src".toList⟩),
    ("src".toList, .directory [("a.c".toList, .file (.text t))])]

/-- A text with an old header. -/
def textInC : Text := "/*\n * Copyright Ada\n */\nint x;\n".toList

/-- A file with an old header, reached through a link and formatted in a dry run. -/
theorem handle_crlf_old_header :
    '\r' ∉ textInC ∧ '\n' ∈ textInC ∧
    (linkedTree textInC).readBody ⟨"/lib/./a.c".toList⟩ = .ok (.text textInC) ∧
    (linkedTree textInC).write ⟨"/lib/./a.c".toList⟩ textInC.crlf = .ok (linkedTree textInC.crlf) ∧
    SameButBreaks (linkedTree textInC) (linkedTree textInC.crlf)
      ((ofHeaderInC ⟨"Copyright Acme\n".toList⟩ (Style.builtin "slashstar_style")).handle .format
        (linkedTree textInC) ⟨"/lib/./a.c".toList⟩)
      ((ofHeaderInC ⟨"Copyright Acme\n".toList⟩ (Style.builtin "slashstar_style")).handle .format
        (linkedTree textInC.crlf) ⟨"/lib/./a.c".toList⟩) := by
  have hreturn : '\r' ∉ textInC := by decide
  have hfeed : '\n' ∈ textInC := by decide
  have hread : (linkedTree textInC).readBody ⟨"/lib/./a.c".toList⟩ = .ok (.text textInC) := rfl
  have hwrite : (linkedTree textInC).write ⟨"/lib/./a.c".toList⟩ textInC.crlf
      = .ok (linkedTree textInC.crlf) := rfl
  exact ⟨hreturn, hfeed, hread, hwrite, (handle_crlf _ _ _ hreturn hfeed hread hwrite).1⟩

end Job

end LicenseHeader
