import LicenseHeader.Proofs.Document.RoundTrip
import LicenseHeader.Proofs.Header.Lenient

/-!
# Headers below lines that stay on top

A style may keep lines above a header, such as an interpreter line.  They are looked for in the whole
file, but the strict check looks only at the first lines of it: as many as the header has, and ten more.
So a header that is put in far down is found, but not seen to be the right one.

* `StandAt`: where some lines stand in others, the way the strict check looks for them;
* `isPresentStrict_iff`: the strict check in these terms;
* `headroom`: how many lines may be above a header so that the check reaches its end;
* `format_settles_iff`: formatting a file in a style that keeps lines on top settles it exactly if the
  check reaches the end of the header, or is content with what stands further up;
* `format_unsettled_script`: a script with its interpreter line too far down.
-/

namespace LicenseHeader

open Text

/-! ### What the strict check looks at -/

namespace HeaderTemplate

/-- Some lines stand in others from the `i`-th on: the first as the end of a line, the others as whole
lines. -/
def StandAt (ls found : List Text) (i : Nat) : Prop :=
  ∃ front start l rest back, ls = l :: rest ∧ found = front ++ (start ++ l) :: (rest ++ back) ∧
    front.length = i

/-- The lines in which the strict check looks for a header, without spaces at their ends.  An empty line
comes after them. -/
def seenLines (h : HeaderTemplate) (file : Text) : List Text :=
  (h.firstLines file ++ [[]]).map tidyLine

/-- The lines that it looks for. -/
def soughtLines (h : HeaderTemplate) (s : Style) : List Text := (h.writtenLines s).map tidyLine

/-- The number of lines that may be above a header so that the strict check sees it to its end.  A blank
line at the end of the header may be the one that comes after the seen lines. -/
def headroom (h : HeaderTemplate) (s : Style) : Nat :=
  h.lines.length + extraLines + (if (h.soughtLines s).getLast? = some [] then 1 else 0)
    - (h.writtenLines s).length

theorem isInfix_iff_standAt {ls found : List Text} (hne : ls ≠ []) (hls : ∀ l ∈ ls, '\n' ∉ l)
    (hfound : ∀ l ∈ found, '\n' ∉ l) :
    ofLines ls <:+: ofLines found ↔ ∃ i, StandAt ls found i := by
  obtain ⟨l, rest, rfl⟩ := List.exists_cons_of_ne_nil hne
  constructor
  · intro h
    obtain ⟨front, start, back, heq⟩ := exists_of_ofLines_isInfix hls hfound h
    exact ⟨front.length, front, start, l, rest, back, rfl, heq, rfl⟩
  · rintro ⟨i, front, start, l', rest', back, heq, rfl, -⟩
    obtain ⟨rfl, rfl⟩ := List.cons.inj heq
    refine ⟨ofLines front ++ start, ofLines back, ?_⟩
    simp [ofLines]

/-- Lines that stand in others end before them. -/
theorem StandAt.add_length_le {ls found : List Text} {i : Nat} (h : StandAt ls found i) :
    i + ls.length ≤ found.length := by
  obtain ⟨front, start, l, rest, back, rfl, rfl, rfl⟩ := h
  simp only [List.length_append, List.length_cons]
  omega

/-- Lines that reach to the end of others end with the same line, if this is an empty one. -/
theorem StandAt.getLast?_eq {ls found : List Text} {i : Nat} (h : StandAt ls (found ++ [[]]) i)
    (hend : i + ls.length = found.length + 1) : ls.getLast? = some [] := by
  obtain ⟨front, start, l, rest, back, rfl, heq, rfl⟩ := h
  have hback : back = [] := by
    have hlength := congrArg List.length heq
    simp only [List.length_append, List.length_cons, List.length_nil] at hlength hend
    exact List.length_eq_zero_iff.mp (by omega)
  have hlast := congrArg List.getLast? heq
  rw [hback, List.append_nil, List.getLast?_concat] at hlast
  cases rest with
  | nil =>
    rw [List.getLast?_concat] at hlast
    obtain ⟨-, rfl⟩ := List.append_eq_nil_iff.mp (Option.some.inj hlast).symm
    rfl
  | cons k rest =>
    rw [List.getLast?_append_cons, List.getLast?_cons_cons] at hlast
    rw [List.getLast?_cons_cons]
    exact hlast.symm

/-- **The strict check** finds the lines of a header among the lines that it sees. -/
theorem isPresentStrict_iff {h : HeaderTemplate} {s : Style} (hs : s.IsPlain)
    (href : h.text.NoReference) (hwritten : h.writtenLines s ≠ []) {file : Text}
    (hfile : h.firstLines file ≠ []) (properties : Properties) :
    h.isPresentStrict file s properties = .ok true ↔
      ∃ i, StandAt (h.soughtLines s) (h.seenLines file) i := by
  have hlines : ∀ l ∈ h.writtenLines s, '\n' ∉ l := fun l hl => noFeed_of_mem_writtenLines hs hl
  have hseen : ∀ l ∈ h.firstLines file ++ [[]], '\n' ∉ l := by
    intro l hl
    rcases List.mem_append.mp hl with hl | hl
    · exact noFeed_of_mem_lines (List.mem_of_mem_take hl)
    · rw [List.mem_singleton.mp hl]
      simp
  have hfound : tidy (joinWith ['\n'] (h.firstLines file) ++ ['\n', '\n'])
      = ofLines (h.seenLines file) := by
    rw [seenLines, ← tidy_ofLines hseen, ofLines_append, ← joinWith_append_feed hfile,
      List.append_assoc]
    rfl
  have hsought : h.soughtLines s ≠ [] := by simpa [soughtLines] using hwritten
  rw [isPresentStrict, render_eq_decorate hs href, hfound, decorate_eq_ofLines]
  show Except.ok ((tidy (ofLines (h.writtenLines s))).isIn _) = _ ↔ _
  rw [tidy_ofLines hlines, Except.ok.injEq, isIn_iff_isInfix]
  exact isInfix_iff_standAt hsought (noFeed_map_tidyLine hlines) (noFeed_map_tidyLine hseen)

/-! ### The room above a header -/

variable {h : HeaderTemplate} {s : Style} {file : Text} {above below : List Text}

theorem Fits.writtenLines_ne_nil {keywords : List Text} (hfit : h.Fits s keywords) :
    h.writtenLines s ≠ [] := by
  obtain ⟨first, rest, hdecorated, -⟩ := hfit.decoratedLines_eq_cons
  simp [writtenLines, hdecorated]

theorem length_writtenLines_le (hs : s.IsReadable) :
    (h.writtenLines s).length ≤ h.lines.length + extraLines := by
  have hwindow := hs.window
  simp only [writtenLines, decoratedLines, List.length_append, List.length_map]
  omega

/-- With enough room above it a header is seen to its end, if need be with the empty line that comes after
the seen lines. -/
theorem exists_seenLines_eq (hs : s.IsReadable)
    (hfile : file.lines = above ++ (h.writtenLines s ++ below)) (hroom : above.length ≤ h.headroom s) :
    ∃ back, h.seenLines file = above.map tidyLine ++ (h.soughtLines s ++ back) := by
  have hlength := length_writtenLines_le (h := h) hs
  rw [seenLines, firstLines, hfile]
  by_cases hfull : above.length + (h.writtenLines s).length ≤ h.lines.length + extraLines
  · obtain ⟨more, hmore⟩ : ∃ more, (above ++ (h.writtenLines s ++ below)).take
        (h.lines.length + extraLines) = above ++ (h.writtenLines s ++ more) := by
      rw [← List.append_assoc, List.take_append,
        List.take_of_length_le (by rw [List.length_append]; exact hfull), List.append_assoc]
      exact ⟨_, rfl⟩
    refine ⟨(more ++ [[]]).map tidyLine, ?_⟩
    rw [hmore]
    simp [soughtLines]
  · -- only the last line is cut off, and it is blank
    rw [headroom] at hroom
    split at hroom
    next hlast =>
      obtain ⟨front, hfront⟩ := List.getLast?_eq_some_iff.mp hlast
      obtain ⟨init, last, hwritten, -, hblank⟩ := List.map_eq_append_iff.mp hfront
      obtain ⟨l, rfl, hl⟩ := List.map_eq_singleton_iff.mp hblank
      have hcut : (above ++ (h.writtenLines s ++ below)).take (h.lines.length + extraLines)
          = above ++ init := by
        have hshape : above ++ (h.writtenLines s ++ below) = (above ++ init) ++ (l :: below) := by
          simp [hwritten]
        rw [hshape]
        refine List.take_left' ?_
        rw [hwritten, List.length_append, List.length_singleton] at hroom hfull hlength
        rw [List.length_append]
        omega
      refine ⟨[], ?_⟩
      rw [hcut, soughtLines, hwritten]
      simp only [List.map_append, List.map_cons, List.map_nil, List.append_assoc, List.append_nil, hl]
      rfl
    next => omega

/-- **How far the strict check sees.**  A header with some lines above it passes exactly if these are not
too many, or if its lines can also be read further up. -/
theorem exists_standAt_iff (hs : s.IsReadable) (hwritten : h.writtenLines s ≠ [])
    (hfile : file.lines = above ++ (h.writtenLines s ++ below)) :
    (∃ i, StandAt (h.soughtLines s) (h.seenLines file) i) ↔
      above.length ≤ h.headroom s ∨
        ∃ i < above.length, StandAt (h.soughtLines s) (h.seenLines file) i := by
  constructor
  · rintro ⟨i, hstand⟩
    by_cases hi : i < above.length
    · exact Or.inr ⟨i, hi, hstand⟩
    · have hlength := hstand.add_length_le
      have hsought : (h.soughtLines s).length = (h.writtenLines s).length := List.length_map _
      have hfirst : (h.firstLines file).length ≤ h.lines.length + extraLines :=
        List.length_take_le _ _
      have hend : h.seenLines file = (h.firstLines file).map tidyLine ++ [[]] := by
        rw [seenLines, List.map_append]
        rfl
      rw [hend, List.length_append, List.length_map, List.length_singleton] at hlength
      refine Or.inl ?_
      rw [headroom]
      split
      next => omega
      next hlast =>
        by_contra hfar
        refine hlast ?_
        rw [hend] at hstand
        refine hstand.getLast?_eq ?_
        rw [List.length_map]
        omega
  · rintro (hroom | ⟨i, -, hstand⟩)
    · obtain ⟨back, hseen⟩ := exists_seenLines_eq hs hfile hroom
      obtain ⟨l, rest, hsought⟩ : ∃ l rest, h.soughtLines s = l :: rest :=
        List.exists_cons_of_ne_nil (by simpa [soughtLines] using hwritten)
      refine ⟨_, above.map tidyLine, [], l, rest, back, hsought, ?_, rfl⟩
      rw [hseen, hsought]
      rfl
    · exact ⟨i, hstand⟩

end HeaderTemplate

/-! ### Formatting below lines that stay on top -/

open HeaderTemplate

/-- The built-in styles that keep lines on top are found again. -/
theorem Style.isReadable_of_skip {s : Style} (hs : s.IsBuiltin) (hskip : s.skip.isSome = true) :
    s.IsReadable := by
  refine isReadable_of_isBuiltin hs fun hid => ?_
  have hnone := @forall_isBuiltin (fun s => s.id = withoutClosing → s.skip.isSome = false) _
    (by decide +kernel) s hs hid
  rw [hnone] at hskip
  cases hskip

example : (builtinModels.filter fun e => e.2.skip.isSome).map (·.1) =
    ["javapkg_style", "script_style", "haml_style", "xml_style", "xml_per_line", "php",
      "ftl_alt"].map String.toList := by
  decide +kernel

namespace Document

variable {s : Style} {keywords : List Text} {properties : Properties} {h : HeaderTemplate}

/-- **A header that is put for an old one is found in its place**, and these are the lines of the file. -/
theorem run_replace (hs : s.IsReadable) (hfit : h.Fits s keywords)
    (hskip : ∀ l ∈ (h.decorate s).lines, s.isSkipLine l = false) (t : Text) (e : LineEnding) :
    let old := HeaderScan.run s keywords t
    let new := Line.unsplit old.above ++ (e.apply (h.decorate s) ++ Line.unsplit old.below)
    (HeaderScan.run s keywords new).above = old.above ∧
      (HeaderScan.run s keywords new).header.isSome = true ∧
      new.lines = old.above.map Line.content ++ (h.writtenLines s ++ old.below.map Line.content) := by
  intro old new
  obtain ⟨header, hcut⟩ := HeaderScan.exists_splitAbove_eq s keywords t
  have hlines := HeaderScan.eq_append_of_splitAbove hcut
  have hfollowed : old.above ≠ [] → header ++ old.below ≠ [] := by
    intro hne
    rcases HeaderScan.splitAbove_cases hcut with ⟨hnil, -⟩ | ⟨_, _, -, -, -, -, -, -, hbelow⟩
    · exact absurd hnil hne
    · exact hbelow
  have hsplit : Line.split new
      = old.above ++ ((h.writtenLines s).map (Line.mk · e.lineBreak) ++ old.below) :=
    split_replace hs.plain hfit.noReturn hlines hfollowed e
  have hwritten : ∀ l ∈ (h.writtenLines s).map (Line.mk · e.lineBreak),
      s.isSkipLine l.body = false := by
    intro l hl
    obtain ⟨body, hbody, rfl⟩ := List.mem_map.mp hl
    exact hskip body (by rw [hfit.lines_decorate hs]; exact hbody)
  have hne : (h.writtenLines s).map (Line.mk · e.lineBreak) ≠ [] := by
    simpa using hfit.writtenLines_ne_nil
  have hplace : HeaderScan.splitAbove s (Line.split new)
      = (old.above, (h.writtenLines s).map (Line.mk · e.lineBreak) ++ old.below) := by
    rw [hsplit]
    rw [hlines] at hcut
    exact HeaderScan.splitAbove_replace hcut hwritten hne
  obtain ⟨words, left, hread, hwords, -⟩ :=
    HeaderScan.readHeader_written hs hfit e.lineBreak old.below
  obtain ⟨habove, hheader, -⟩ := HeaderScan.run_of_readHeader hplace hread
    (HeaderScan.hasKeywords_of_written hfit hwords)
  refine ⟨habove, hheader, ?_⟩
  have hcontent : ∀ body : Text, Line.content ⟨body, e.lineBreak⟩ = body := by
    intro body
    cases e <;> rfl
  rw [Text.lines_eq, hsplit, List.map_append, List.map_append, List.map_map]
  congr 2
  exact (List.map_congr_left fun body _ => hcontent body).trans (List.map_id _)

/-- The strict check of a header without references gives an answer. -/
theorem exists_carries (hs : s.IsReadable) (hfit : h.Fits s keywords) (properties : Properties)
    (t : Text) : ∃ b, (ofText s keywords properties t).carries h true = .ok b := by
  have href := Text.noReference_iff.mpr hfit.noReference
  rw [carries, isPresent, if_pos rfl, isPresentStrict]
  show ∃ b, (h.render s properties).map _ = .ok b
  rw [render_eq_decorate hs.plain href]
  exact ⟨_, rfl⟩

/-- The strict check of a file that holds something. -/
theorem carries_ofText_iff (hs : s.IsReadable) (hfit : h.Fits s keywords) {t : Text}
    (ht : t.lines ≠ []) :
    (ofText s keywords properties t).carries h true = .ok true ↔
      ∃ i, StandAt (h.soughtLines s) (h.seenLines t) i := by
  have hfirst : h.firstLines t ≠ [] := by
    obtain ⟨l, rest, hlines⟩ := List.exists_cons_of_ne_nil ht
    simp [firstLines, hlines, extraLines]
  rw [carries, isPresent, if_pos rfl, text_ofText]
  exact isPresentStrict_iff hs.plain (Text.noReference_iff.mpr hfit.noReference)
    (hfit.writtenLines_ne_nil) hfirst properties

end Document

namespace Job

variable {job : Job}

theorem settled_iff_carries (hstrict : job.strict = true) (path : Path) {d : Document}
    (hheader : d.hasHeader = true) :
    job.Settled path d ↔ d.carries job.header true = .ok true :=
  ⟨Settled.carries, settled_of_carries hstrict path hheader⟩

/-- **When formatting settles a file below lines that stay on top.**  The header is put in below them and
found again.  It is compared equal, so that a check passes and formatting again writes nothing, exactly
if the file was settled before, if at most `headroom` lines are above the header, or if its lines can
also be read further up. -/
theorem format_settles_iff {s : Style} (hs : s.IsBuiltin) (hskip : s.skip.isSome = true)
    (hstrict : job.strict = true) {keywords : List Text} (hfit : job.header.Fits s keywords)
    (hlines : ∀ l ∈ (job.header.decorate s).lines, s.isSkipLine l = false)
    (properties : Properties) (path : Path) (t : Text) :
    ∃ outcome change,
      job.act .format path (Document.ofText s keywords properties t) = .ok (outcome, change) ∧
      (Document.ofText s keywords properties (change.elim t fun c => c.1.text)).hasHeader = true ∧
      (job.Settled path
          (Document.ofText s keywords properties (change.elim t fun c => c.1.text)) ↔
        job.Settled path (Document.ofText s keywords properties t) ∨
        (HeaderScan.run s keywords t).above.length ≤ job.header.headroom s ∨
        ∃ i < (HeaderScan.run s keywords t).above.length, StandAt (job.header.soughtLines s)
          (job.header.seenLines (change.elim t fun c => c.1.text)) i) := by
  have hread := Style.isReadable_of_skip hs hskip
  obtain ⟨b, hb⟩ := Document.exists_carries hread hfit properties t
  rw [← hstrict] at hb
  obtain ⟨new, hnew, htext⟩ := @Document.exists_insertHeader keywords
    (Document.ofText s keywords properties t).removeHeader job.header hread hfit
  rcases act_format_cases hb hnew path with ⟨hheader, rfl, hact⟩ | ⟨outcome, hact⟩
  · rw [hstrict] at hb
    have hsettled := settled_of_carries hstrict path hheader hb
    exact ⟨_, none, hact, hheader, iff_of_true hsettled (Or.inl hsettled)⟩
  · refine ⟨outcome, _, hact, ?_⟩
    rw [Option.elim_some]
    have hplace : new.text = Line.unsplit (HeaderScan.run s keywords t).above
        ++ ((LineEnding.detect t).apply (job.header.decorate s)
          ++ Line.unsplit (HeaderScan.run s keywords t).below) := htext
    obtain ⟨-, hfound, hfile⟩ := Document.run_replace hread hfit hlines t (LineEnding.detect t)
    rw [← hplace] at hfound hfile
    have hheader : (Document.ofText s keywords properties new.text).hasHeader = true := by
      rw [Document.hasHeader_ofText]
      exact hfound
    have hunsettled : ¬job.Settled path (Document.ofText s keywords properties t) := by
      intro hsettled
      rw [hsettled.format] at hact
      cases hact
    have hne : new.text.lines ≠ [] := by
      rw [hfile]
      simp [hfit.writtenLines_ne_nil]
    refine ⟨hheader, ?_⟩
    rw [or_iff_right hunsettled, settled_iff_carries hstrict path hheader,
      Document.carries_ofText_iff hread hfit hne, exists_standAt_iff hread hfit.writtenLines_ne_nil hfile,
      List.length_map]

-- The lines that may be above a header in the styles that keep some on top.
example : ["javapkg_style", "script_style", "haml_style", "xml_style", "xml_per_line", "php",
    "ftl_alt"].map (fun name =>
      (⟨"Copyright Acme".toList⟩ : HeaderTemplate).headroom (Style.builtin name)) =
    [7, 10, 8, 6, 9, 8, 6] := by
  decide +kernel

theorem fits_script : (⟨"Copyright Acme".toList⟩ : HeaderTemplate).Fits
    (Style.builtin "script_style") ["copyright".toList] where
  noReturn := by decide
  noReference := by decide
  firstLine := ⟨_, _, rfl, by decide⟩
  hasKeywords := by decide +kernel
  opens := ⟨"# Copyright Acme".toList, by decide +kernel, by decide +kernel⟩
  noClosing := by decide +kernel

/-- A script with its interpreter line on top and an old header that is not the right one. -/
theorem format_settles_iff_script :
    ∃ outcome change,
      (ofHeader ⟨"Copyright Acme".toList⟩).act .format ⟨"run.sh".toList⟩
        (Document.ofText (Style.builtin "script_style") ["copyright".toList] []
          "#!/bin/sh\n# Copyright Ada\n\necho hi\n".toList) = .ok (outcome, change) ∧
      (ofHeader ⟨"Copyright Acme".toList⟩).Settled ⟨"run.sh".toList⟩
        (Document.ofText (Style.builtin "script_style") ["copyright".toList] []
          (change.elim "#!/bin/sh\n# Copyright Ada\n\necho hi\n".toList fun c => c.1.text)) := by
  obtain ⟨outcome, change, hact, -, hsettled⟩ := @format_settles_iff
    (ofHeader ⟨"Copyright Acme".toList⟩) _ (Style.isBuiltin_builtin (by decide +kernel))
    (by decide +kernel) rfl _ fits_script (by decide +kernel) [] ⟨"run.sh".toList⟩
    "#!/bin/sh\n# Copyright Ada\n\necho hi\n".toList
  exact ⟨outcome, change, hact, hsettled.mpr (Or.inr (Or.inl (by decide +kernel)))⟩

/-- A script whose interpreter line is the eleventh line.  The header goes below it, the check that
follows misses it, and formatting again writes the same file once more. -/
theorem format_unsettled_script :
    let job := ofHeader ⟨"Copyright Acme".toList⟩
    let read := Document.ofText (Style.builtin "script_style") ["copyright".toList] []
    let t := "a\na\na\na\na\na\na\na\na\na\n#!/bin/sh\necho hi\n".toList
    let new := "a\na\na\na\na\na\na\na\na\na\n#!/bin/sh\n# Copyright Acme\n\necho hi\n".toList
    job.header.Fits (Style.builtin "script_style") ["copyright".toList] ∧
      (∀ l ∈ (job.header.decorate (Style.builtin "script_style")).lines,
        (Style.builtin "script_style").isSkipLine l = false) ∧
      (job.act .format ⟨"run.sh".toList⟩ (read t)).toOption.map
        (fun r => (r.1, r.2.map fun c => c.1.text)) = some (.added, some new) ∧
      (job.act .check ⟨"run.sh".toList⟩ (read new)).toOption.map (·.1) = some .missing ∧
      (job.act .format ⟨"run.sh".toList⟩ (read new)).toOption.map
        (fun r => (r.1, r.2.map fun c => c.1.text)) = some (.replaced, some new) :=
  ⟨fits_script, by decide +kernel, by decide +kernel, by decide +kernel, by decide +kernel⟩

end Job

end LicenseHeader
