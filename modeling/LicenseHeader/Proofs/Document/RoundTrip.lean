import LicenseHeader.Processing
import LicenseHeader.Proofs.Header.Offsets
import LicenseHeader.Proofs.Style.Builtin

/-!
# Putting a header in and taking it out

A header that is put into a file has to be recognised when the file is read the next time.  The
results are about the built-in styles and all files, old headers and line breaks of any kind
included.

* `format_settles`: after one formatting the header is found and compared equal, so that a check
  passes and a second formatting changes nothing;
* `removeHeader_insertHeader`: taking out a header that was put in gives the file back.
-/

namespace LicenseHeader

open HeaderTemplate

/-! ### The text of a document -/

namespace Document

variable {s : Style} {keywords : List Text} {properties : Properties}

/-- The lines above and below a place without a header. -/
theorem split_of_header_eq_none {t : Text} (hnone : (HeaderScan.run s keywords t).header = none) :
    HeaderScan.splitAbove s (Line.split t)
      = ((HeaderScan.run s keywords t).above, (HeaderScan.run s keywords t).below) := by
  obtain ⟨habove, hbelow⟩ := HeaderScan.run_of_header_eq_none hnone
  rw [habove, hbelow]

/-- A style without lines that stay on top has nothing above the header. -/
theorem above_ofText (hskip : s.skip.isNone = true) (t : Text) :
    (ofText s keywords properties t).above = [] := by
  have hcut : (HeaderScan.splitAbove s (Line.split t)).1 = [] := by
    unfold HeaderScan.splitAbove
    rw [if_pos hskip]
  show Line.unsplit (HeaderScan.run s keywords t).above = []
  rw [HeaderScan.above_run, hcut, Line.unsplit_nil]

/-- A header without references can be put into every file, between what was above and what was
below the place of a header. -/
theorem exists_insertHeader {d : Document} {h : HeaderTemplate} (hs : d.style.IsReadable)
    (hfit : h.Fits d.style keywords) :
    ∃ new, d.insertHeader h = .ok new ∧ new.text
      = d.above ++ (d.lineEnding.apply (h.decorate d.style) ++ (d.header.getD [] ++ d.below)) := by
  unfold insertHeader
  rw [render_eq_decorate hs.plain (Text.noReference_iff.mpr hfit.noReference)]
  exact ⟨_, rfl, List.append_assoc _ _ _⟩

/-! ### Reading a written header back -/

/-- A header at the top of a file is found. -/
theorem hasHeader_of_written {h : HeaderTemplate} (hs : s.IsReadable) (hskip : s.skip.isNone = true)
    (hfit : h.Fits s keywords) (e : LineEnding) (rest : Text) :
    (ofText s keywords properties (e.apply (h.decorate s) ++ rest)).hasHeader = true := by
  have hlines : Line.split (e.apply (h.decorate s) ++ rest)
      = (h.writtenLines s).map (Line.mk · e.lineBreak) ++ Line.split rest := by
    rw [decorate_eq_ofLines]
    exact Text.split_apply_ofLines (areLines_writtenLines hs.plain hfit.noReturn) e rest
  obtain ⟨words, left, hread, hwords, -⟩ :=
    HeaderScan.readHeader_written hs hfit e.lineBreak (Line.split rest)
  have hcut : HeaderScan.splitAbove s (Line.split (e.apply (h.decorate s) ++ rest))
      = ([], (h.writtenLines s).map (Line.mk · e.lineBreak) ++ Line.split rest) := by
    unfold HeaderScan.splitAbove
    rw [if_pos hskip, hlines]
  have hfound :=
    (HeaderScan.run_of_readHeader hcut hread (HeaderScan.hasKeywords_of_written hfit hwords)).2.1
  unfold hasHeader ofText
  rw [Option.isSome_map]
  exact hfound

/-- A header at the top of a file is compared equal, line by line. -/
theorem carries_of_written {h : HeaderTemplate} (hs : s.IsReadable) (hfit : h.Fits s keywords)
    (e : LineEnding) (rest : Text) :
    (ofText s keywords properties (e.apply (h.decorate s) ++ rest)).carries h true = .ok true := by
  have hwindow : (h.writtenLines s).length ≤ h.lines.length + extraLines := by
    have hframe := hs.window
    simp only [writtenLines, decoratedLines, List.length_append, List.length_map]
    omega
  have hlines : (e.apply (h.decorate s) ++ rest).lines = h.writtenLines s ++ rest.lines := by
    rw [decorate_eq_ofLines]
    exact Text.lines_apply_ofLines_append (areLines_writtenLines hs.plain hfit.noReturn) e rest
  unfold carries isPresent
  rw [text_ofText, if_pos rfl]
  exact isPresentStrict_of_lines_eq hs.plain hfit.noReturn
    (Text.noReference_iff.mpr hfit.noReference) hwindow hlines properties

end Document

/-! ### Formatting twice -/

namespace Job

variable {job : Job} {d : Document}

/-- A document that carries the header passes, and formatting leaves it alone. -/
theorem act_of_carries (hheader : d.hasHeader = true)
    (hcarries : d.carries job.header job.strict = .ok true) (path : Path) :
    job.act .check path d = .ok (.present, none) ∧ job.act .format path d = .ok (.noop, none) := by
  unfold act
  rw [hheader, hcarries]
  exact ⟨rfl, rfl⟩

/-- Formatting either leaves a document alone, because it carries the header, or puts the header in
the place of the old one. -/
theorem act_format_cases {b : Bool} (hcarries : d.carries job.header job.strict = .ok b)
    {new : Document} (hnew : d.removeHeader.insertHeader job.header = .ok new) (path : Path) :
    (d.hasHeader = true ∧ b = true ∧ job.act .format path d = .ok (.noop, none)) ∨
      ∃ outcome, job.act .format path d = .ok (outcome, some (new, ".formatted")) := by
  cases hheader : d.hasHeader with
  | false =>
    refine Or.inr ⟨.added, ?_⟩
    unfold act
    dsimp only
    rw [hheader, hnew]
    rfl
  | true =>
    cases b with
    | true => exact Or.inl ⟨rfl, rfl, (act_of_carries hheader hcarries path).2⟩
    | false =>
      refine Or.inr ⟨.replaced, ?_⟩
      unfold act
      dsimp only
      rw [hheader, hcarries, hnew]
      rfl

/-- A document that carries the header of a job, so that there is nothing left to do. -/
structure Settled (job : Job) (path : Path) (d : Document) : Prop where
  hasHeader : d.hasHeader = true
  carries : d.carries job.header true = .ok true
  check : job.act .check path d = .ok (.present, none)
  format : job.act .format path d = .ok (.noop, none)

theorem settled_of_carries (hstrict : job.strict = true) (path : Path) (hheader : d.hasHeader = true)
    (hcarries : d.carries job.header true = .ok true) : job.Settled path d := by
  obtain ⟨hcheck, hformat⟩ := act_of_carries hheader (by rw [hstrict]; exact hcarries) path
  exact ⟨hheader, hcarries, hcheck, hformat⟩

/-- **Formatting settles a file.**  Whatever the file and the header that it had, after one formatting
the header is found and compared equal: a check passes, and formatting again writes nothing. -/
theorem format_settles {s : Style} (hs : s.IsBuiltin) (hskip : s.skip.isNone = true)
    (hid : s.id ≠ Style.withoutClosing) (hstrict : job.strict = true) {keywords : List Text}
    (hfit : job.header.Fits s keywords) (properties : Properties) (path : Path) (t : Text) :
    ∃ outcome change,
      job.act .format path (Document.ofText s keywords properties t) = .ok (outcome, change) ∧
      job.Settled path
        (Document.ofText s keywords properties (change.elim t fun c => c.1.text)) := by
  have hread := Style.isReadable_of_isBuiltin hs hid
  obtain ⟨b, hb⟩ : ∃ b, (Document.ofText s keywords properties t).carries job.header job.strict
      = .ok b := by
    unfold Document.carries isPresent isPresentStrict
    rw [hstrict, if_pos rfl]
    show ∃ b, (job.header.render s properties).map _ = .ok b
    rw [render_eq_decorate hread.plain (Text.noReference_iff.mpr hfit.noReference)]
    exact ⟨_, rfl⟩
  obtain ⟨new, hnew, htext⟩ := @Document.exists_insertHeader keywords
    (Document.ofText s keywords properties t).removeHeader job.header hread hfit
  rcases act_format_cases hb hnew path with ⟨hheader, rfl, hact⟩ | ⟨outcome, hact⟩
  · -- the file carried the header before
    rw [hstrict] at hb
    exact ⟨_, none, hact, settled_of_carries hstrict path hheader hb⟩
  · -- the header stands at the top of the new file
    have htop : new.text = (LineEnding.detect t).apply (job.header.decorate s)
        ++ (Document.ofText s keywords properties t).below := by
      rw [htext]
      show (Document.ofText s keywords properties t).above ++ _ = _
      rw [Document.above_ofText hskip]
      rfl
    refine ⟨outcome, _, hact, ?_⟩
    rw [Option.elim_some, htop]
    exact settled_of_carries hstrict path (Document.hasHeader_of_written hread hskip hfit _ _)
      (Document.carries_of_written hread hfit _ _)

/-- A job of which only the header matters, compared line by line. -/
def ofHeader (h : HeaderTemplate) : Job where
  baseDir := ⟨[]⟩
  selection := ⟨[], [], []⟩
  repository := none
  conventions := { mapping := {}, registry := .empty }
  header := h
  headerFile := none
  strict := true
  dryRun := false

/-- A file with breaks of both kinds, whose old header is closed on the line that opens it. -/
theorem format_settles_old_header :
    ∃ outcome change,
      (ofHeader ⟨"Copyright Acme\n\nAll rights reserved".toList⟩).act .format ⟨"a.c".toList⟩
        (Document.ofText (Style.builtin "slashstar_style") ["copyright".toList] []
          "/* Copyright Ada */\r\nint x;\n".toList) = .ok (outcome, change) ∧
      (ofHeader ⟨"Copyright Acme\n\nAll rights reserved".toList⟩).Settled ⟨"a.c".toList⟩
        (Document.ofText (Style.builtin "slashstar_style") ["copyright".toList] []
          (change.elim "/* Copyright Ada */\r\nint x;\n".toList fun c => c.1.text)) := by
  refine format_settles (Style.isBuiltin_builtin (by decide +kernel)) (by decide +kernel)
    (by decide +kernel) rfl ?_ [] _ _
  exact {
    noReturn := by decide
    noReference := by decide
    firstLine := ⟨_, _, rfl, by decide⟩
    hasKeywords := by decide +kernel
    opens := ⟨"/*".toList, by decide +kernel, by decide +kernel⟩
    noClosing := by decide +kernel }

end Job

/-! ### Taking a header out again -/

namespace Document

variable {s : Style} {keywords : List Text} {properties : Properties} {t : Text}

/-- The lines of a file with a header put for a part of it.  If what is above is not empty it ends with a
line break, because something followed it. -/
theorem split_replace {h : HeaderTemplate} (hs : s.IsPlain) (hreturn : '\r' ∉ h.text)
    {above old below : List Line} (hlines : Line.split t = above ++ (old ++ below))
    (hbelow : above ≠ [] → old ++ below ≠ []) (e : LineEnding) :
    Line.split (Line.unsplit above ++ (e.apply (h.decorate s) ++ Line.unsplit below))
      = above ++ ((h.writtenLines s).map (Line.mk · e.lineBreak) ++ below) := by
  have hwhole : ∀ l ∈ above, l.IsWhole := by
    by_cases habove : above = []
    · simp [habove]
    · exact Line.isWhole_of_split hlines (hbelow habove)
  rw [← List.append_assoc] at hlines
  rw [Line.split_unsplit_append hwhole, decorate_eq_ofLines,
    Text.split_apply_ofLines (areLines_writtenLines hs hreturn), Line.split_unsplit_of_split hlines]

theorem split_insert {h : HeaderTemplate} (hs : s.IsPlain) (hreturn : '\r' ∉ h.text)
    {above below : List Line} (hlines : Line.split t = above ++ below)
    (hbelow : above ≠ [] → below ≠ []) (e : LineEnding) :
    Line.split (Line.unsplit above ++ (e.apply (h.decorate s) ++ Line.unsplit below))
      = above ++ ((h.writtenLines s).map (Line.mk · e.lineBreak) ++ below) := by
  have hold : Line.split t = above ++ ([] ++ below) := hlines
  exact split_replace hs hreturn hold hbelow e

/-- A header that is put in at its place is found there, from its first to its last line. -/
theorem run_insert {h : HeaderTemplate} (hs : s.IsReadable) (hends : s.EndsExactly)
    (hfit : h.Fits s keywords) (hskip : ∀ l ∈ (h.decorate s).lines, s.isSkipLine l = false)
    {above below : List Line} (hcut : HeaderScan.splitAbove s (Line.split t) = (above, below))
    (hbelow : ∀ l ∈ below.head?, l.isBlank = false) (e : LineEnding) :
    let scan := HeaderScan.run s keywords
      (Line.unsplit above ++ (e.apply (h.decorate s) ++ Line.unsplit below))
    scan.above = above ∧ scan.header.isSome = true ∧ scan.below = below := by
  have hlines := HeaderScan.eq_append_of_splitAbove hcut
  have hfollowed : above ≠ [] → below ≠ [] := by
    intro hne
    rcases HeaderScan.splitAbove_cases hcut with ⟨hnil, -⟩ | ⟨_, _, -, -, -, -, -, -, hbelow⟩
    · exact absurd hnil hne
    · exact hbelow
  have hwritten : ∀ l ∈ (h.writtenLines s).map (Line.mk · e.lineBreak),
      s.isSkipLine l.body = false := by
    intro l hl
    obtain ⟨body, hbody, rfl⟩ := List.mem_map.mp hl
    exact hskip body (by rw [hfit.lines_decorate hs]; exact hbody)
  have hne : (h.writtenLines s).map (Line.mk · e.lineBreak) ≠ [] := by
    obtain ⟨first, rest, hdecorated, -⟩ := hfit.decoratedLines_eq_cons
    simp [writtenLines, hdecorated]
  obtain ⟨words, left, hread, hkeys, hleft⟩ :=
    HeaderScan.dropSpacing_written hs hends hfit e.lineBreak hbelow above.isEmpty
  have hplace : HeaderScan.splitAbove s (Line.split
      (Line.unsplit above ++ (e.apply (h.decorate s) ++ Line.unsplit below)))
      = (above, (h.writtenLines s).map (Line.mk · e.lineBreak) ++ below) := by
    rw [split_insert hs.plain hfit.noReturn hlines hfollowed]
    rw [hlines] at hcut
    exact HeaderScan.splitAbove_insert hcut hwritten hne
  obtain ⟨habove, hheader, hrest⟩ := HeaderScan.run_of_readHeader hplace hread hkeys
  exact ⟨habove, hheader, hrest.trans hleft⟩

/-- **Taking out a header that was put in gives the file back**, whatever its line breaks, and also
if lines stay above the header. -/
theorem removeHeader_insertHeader {h : HeaderTemplate} (hs : s.IsBuiltin)
    (hfeed : s.closing.getLast? = some '\n') (hfit : h.Fits s keywords)
    (hskip : ∀ l ∈ (h.decorate s).lines, s.isSkipLine l = false)
    (hnone : (ofText s keywords properties t).header = none)
    (hbelow : ∀ l ∈ (Line.split (ofText s keywords properties t).below).head?, l.isBlank = false) :
    ∃ d, (ofText s keywords properties t).insertHeader h = .ok d ∧
      (ofText s keywords properties d.text).hasHeader = true ∧
      (ofText s keywords properties d.text).removeHeader.text = t := by
  obtain ⟨hread, hends⟩ := Style.endsExactly_of_isBuiltin hs hfeed
  obtain ⟨d, hinsert, htext⟩ := @exists_insertHeader keywords (ofText s keywords properties t) h
    hread hfit
  have hcut := split_of_header_eq_none (Option.map_eq_none_iff.mp hnone)
  have hlines := HeaderScan.eq_append_of_splitAbove hcut
  have hhead : ∀ l ∈ (HeaderScan.run s keywords t).below.head?, l.isBlank = false := by
    rw [← Line.split_unsplit_of_split hlines]
    exact hbelow
  obtain ⟨habove, hheader, hrest⟩ :=
    run_insert hread hends hfit hskip hcut hhead (LineEnding.detect t)
  rw [hnone] at htext
  refine ⟨d, hinsert, ?_, ?_⟩
  · rw [htext]
    unfold hasHeader ofText
    rw [Option.isSome_map]
    exact hheader
  · rw [htext]
    show Line.unsplit (HeaderScan.run s keywords _).above ++ []
      ++ Line.unsplit (HeaderScan.run s keywords _).below = t
    rw [List.append_nil, ← Line.unsplit_append]
    calc Line.unsplit _
        = Line.unsplit ((HeaderScan.run s keywords t).above ++ (HeaderScan.run s keywords t).below) :=
          congrArg Line.unsplit (congrArg₂ (· ++ ·) habove hrest)
      _ = t := by rw [← hlines, Line.unsplit_split]

/-- A script whose first line stays on top, with breaks of both kinds. -/
theorem removeHeader_insertHeader_script :
    ∃ d,
      (ofText (Style.builtin "script_style") ["copyright".toList] []
        "#!/bin/sh\r\necho hi\n".toList).insertHeader ⟨"Copyright Acme".toList⟩ = .ok d ∧
      (ofText (Style.builtin "script_style") ["copyright".toList] [] d.text).hasHeader = true ∧
      (ofText (Style.builtin "script_style") ["copyright".toList] [] d.text).removeHeader.text
        = "#!/bin/sh\r\necho hi\n".toList := by
  refine removeHeader_insertHeader (Style.isBuiltin_builtin (by decide +kernel)) (by decide +kernel)
    ?_ (by decide +kernel) (by decide +kernel) (by decide +kernel)
  exact {
    noReturn := by decide
    noReference := by decide
    firstLine := ⟨_, _, rfl, by decide⟩
    hasKeywords := by decide +kernel
    opens := ⟨"# Copyright Acme".toList, by decide +kernel, by decide +kernel⟩
    noClosing := by decide +kernel }

end Document

end LicenseHeader
