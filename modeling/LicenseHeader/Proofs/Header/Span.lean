import LicenseHeader.Document
import LicenseHeader.Proofs.Style.Builtin

/-!
# Which lines a found header takes

What is found as a header is taken out of the file, so every line in it that is not part of a comment
is lost.  This file says exactly when that happens.

* `onlyComments_iff`: in a style of single lines only one line can be taken that is no comment, the
  line after the first line of the header;
* `endsAtClosing_iff`: a comment between slashes and stars ends at its closing line, unless reading
  goes past it in one of the ways that `ReadsPast` lists.

Both come with a file that loses a line of code.
-/

namespace LicenseHeader

namespace HeaderScan

variable {s : Style} {keywords : List Text} {t : Text} {header : List Line}

/-- **The lines of a found header.**  Blank lines, the first line, the second line, the lines that
`readBody` takes, and some blank lines. -/
theorem header_eq (h : (run s keywords t).header = some header) :
    ∃ blanks first gap second rest taken spacing,
      (splitAbove s (Line.split t)).2 = blanks ++ first :: (gap ++ second :: rest) ∧
      (∀ l ∈ blanks, l.isBlank = true) ∧ first.isBlank = false ∧
      s.isFirstLine first.body = true ∧ (∀ l ∈ gap, l.isBlank = true) ∧
      (s.allowsBlank = false → gap = []) ∧ (s.allowsBlank = true → second.isBlank = false) ∧
      rest = taken ++ (readBody s second rest).2 ∧ (∀ l ∈ spacing, l.isBlank = true) ∧
      header = blanks ++ first :: (gap ++ second :: (taken ++ spacing)) := by
  obtain ⟨words, left, hread, -, -, hbelow, hcut⟩ := run_header_eq_some h
  obtain ⟨blanks, first, gap, second, rest, hlines, hblanks, hink, hfirst, hgap, hnone, hsecond, -,
    hleft⟩ := readHeader_eq_some hread
  obtain ⟨taken, htaken⟩ := readBody_suffix s second rest
  obtain ⟨spacing, hspacing, hblank⟩ :=
    dropSpacing_eq s (splitAbove s (Line.split t)).1.isEmpty left
  rw [← hbelow] at hspacing
  refine ⟨blanks, first, gap, second, rest, taken, spacing, hlines, hblanks, hink, hfirst, hgap,
    hnone, hsecond, htaken.symm, hblank, ?_⟩
  have hrest : rest = taken ++ (spacing ++ (run s keywords t).below) := by
    rw [← hspacing, hleft, htaken]
  rw [hlines, hrest] at hcut
  refine List.append_cancel_right (hcut.symm.trans ?_)
  simp

/-! ### Single lines -/

/-- A line that is a comment in a style of single lines. -/
def IsCommentLine (s : Style) (l : Line) : Prop :=
  s.isFirstLine l.body = true ∨ (runStart s).isPrefixOf l.body = true

instance (s : Style) (l : Line) : Decidable (IsCommentLine s l) :=
  inferInstanceAs (Decidable (_ ∨ _))

/-- The line after the first line of a header, blank lines left out where they are allowed. -/
def secondLine (s : Style) (lines : List Line) : Option Line :=
  let after := (lines.dropWhile Line.isBlank).tail
  (if s.allowsBlank then after.dropWhile Line.isBlank else after).head?

theorem secondLine_eq {blanks gap rest : List Line} {first second : Line}
    (hblanks : ∀ l ∈ blanks, l.isBlank = true) (hink : first.isBlank = false)
    (hgap : ∀ l ∈ gap, l.isBlank = true) (hnone : s.allowsBlank = false → gap = [])
    (hsecond : s.allowsBlank = true → second.isBlank = false) :
    secondLine s (blanks ++ first :: (gap ++ second :: rest)) = some second := by
  unfold secondLine
  dsimp only
  rw [List.dropWhile_append_of_pos hblanks,
    List.dropWhile_cons_of_neg (by rw [hink]; exact Bool.false_ne_true), List.tail_cons]
  cases hallow : s.allowsBlank with
  | false =>
    rw [hnone hallow]
    rfl
  | true =>
    rw [if_pos rfl, List.dropWhile_append_of_pos hgap,
      List.dropWhile_cons_of_neg (by rw [hsecond hallow]; exact Bool.false_ne_true), List.head?_cons]

/-- After its second line a run of single lines takes only lines that start as the run does, and at
most one blank line. -/
theorem starts_of_readBody (hs : s.isBlock = false) {second : Line} {rest taken : List Line}
    (h : rest = taken ++ (readBody s second rest).2) :
    ∀ l ∈ taken, l.isBlank = false → (runStart s).isPrefixOf l.body = true := by
  have htaken : ∀ {front : List Line}, rest = front ++ (readBody s second rest).2 → taken = front :=
    fun hfront => List.append_cancel_right (h.symm.trans hfront)
  by_cases hblank : second.isBlank = true
  · have hnil : taken = [] := by
      refine htaken ?_
      unfold readBody
      rw [hs, hblank]
      rfl
    rw [hnil]
    simp
  · have hbody : (readBody s second rest).2 = afterLines (readRun s (runStart s) rest).2.2
        (readRun s (runStart s) rest).2.1 := by
      unfold readBody
      rw [hs, Bool.false_and, if_neg Bool.false_ne_true, if_neg hblank]
      rfl
    have hread := readRun_spec s rest
    generalize readRun s (runStart s) rest = r at hread hbody
    rw [hbody] at htaken
    cases hread with
    | endOfFile continues =>
      rw [htaken (List.append_nil _).symm]
      exact fun l hl _ => (continues l hl).1
    | closing continues starts closes =>
      rw [hs] at closes
      exact Bool.noConfusion closes
    | @other run left l continues starts =>
      by_cases hl : l.isBlank = true
      · -- the blank line after the run is taken with it
        have hrun : taken = run ++ [l] := htaken (by rw [afterLines, if_pos hl]; simp)
        rw [hrun]
        intro k hk hink
        rcases List.mem_append.mp hk with hk | hk
        · exact (continues k hk).1
        · rw [List.mem_singleton.mp hk, hl] at hink
          exact Bool.noConfusion hink
      · have hrun : taken = run := htaken (by rw [afterLines, if_neg hl])
        rw [hrun]
        exact fun k hk _ => (continues k hk).1

/-- **The one line that may be no comment.**  In a style of single lines every line of a header that
is not blank is a comment line, but for the second line, which is taken whatever it is.  So taking the
header out, which leaves what is above and below it, loses no code exactly if the second line is blank
or a comment. -/
theorem onlyComments_iff (hs : s.isBlock = false) (h : (run s keywords t).header = some header)
    (properties : Properties) :
    (∃ front second back, header = front ++ second :: back ∧ secondLine s header = some second ∧
      (∀ l ∈ front ++ back, l.isBlank = false → IsCommentLine s l) ∧
      ((∀ l ∈ header, l.isBlank = false → IsCommentLine s l) ↔
        second.isBlank = true ∨ IsCommentLine s second)) ∧
    Line.split t = (run s keywords t).above ++ header ++ (run s keywords t).below ∧
    (Document.ofText s keywords properties t).removeHeader.text
      = Line.unsplit (run s keywords t).above ++ Line.unsplit (run s keywords t).below := by
  refine ⟨?_, split_eq_of_run h, ?_⟩
  · obtain ⟨blanks, first, gap, second, rest, taken, spacing, -, hblanks, hink, hfirst, hgap, hnone,
      hsecond, htaken, hspacing, rfl⟩ := header_eq h
    have hothers : ∀ l ∈ (blanks ++ first :: gap) ++ (taken ++ spacing), l.isBlank = false →
        IsCommentLine s l := by
      intro l hl hlink
      have hmem : (l.isBlank = true) ∨ l = first ∨ l ∈ taken := by
        simp only [List.mem_append, List.mem_cons] at hl
        rcases hl with (hl | hl | hl) | (hl | hl)
        · exact Or.inl (hblanks l hl)
        · exact Or.inr (Or.inl hl)
        · exact Or.inl (hgap l hl)
        · exact Or.inr (Or.inr hl)
        · exact Or.inl (hspacing l hl)
      rcases hmem with hblank | rfl | hl
      · rw [hblank] at hlink
        exact Bool.noConfusion hlink
      · exact Or.inl hfirst
      · exact Or.inr (starts_of_readBody hs htaken l hl hlink)
    have hheader : blanks ++ first :: (gap ++ second :: (taken ++ spacing))
        = (blanks ++ first :: gap) ++ second :: (taken ++ spacing) := by simp
    refine ⟨blanks ++ first :: gap, second, taken ++ spacing, hheader,
      secondLine_eq hblanks hink hgap hnone hsecond, hothers, ?_, ?_⟩
    · intro hall
      cases hblank : second.isBlank with
      | true => exact Or.inl rfl
      | false => exact Or.inr (hall second (by simp) hblank)
    · intro hor l hl hlink
      rw [hheader, List.mem_append, List.mem_cons] at hl
      rcases hl with hl | rfl | hl
      · exact hothers l (List.mem_append_left _ hl) hlink
      · refine hor.resolve_left ?_
        rw [hlink]
        exact Bool.false_ne_true
      · exact hothers l (List.mem_append_right _ hl) hlink
  · show Line.unsplit _ ++ [] ++ Line.unsplit _ = _
    rw [List.append_nil]

/-- Two comment lines with a blank line before the code. -/
theorem onlyComments_two_lines :
    ∃ header,
      (run (Style.builtin "doubleslash_style") ["copyright".toList]
        "// Copyright Acme\n// All rights reserved\n\nint x;\n".toList).header = some header ∧
      ∀ l ∈ header, l.isBlank = false → IsCommentLine (Style.builtin "doubleslash_style") l := by
  let header : List Line :=
    [⟨"// Copyright Acme".toList, .lf⟩, ⟨"// All rights reserved".toList, .lf⟩, ⟨[], .lf⟩]
  have hfound : (run (Style.builtin "doubleslash_style") ["copyright".toList]
      "// Copyright Acme\n// All rights reserved\n\nint x;\n".toList).header = some header := by
    decide +kernel
  have hline : secondLine (Style.builtin "doubleslash_style") header
      = some ⟨"// All rights reserved".toList, .lf⟩ := by decide +kernel
  obtain ⟨⟨_, second, _, -, hsecond, -, hiff⟩, -⟩ :=
    onlyComments_iff (by decide +kernel) hfound []
  rw [hline] at hsecond
  rw [← Option.some.inj hsecond] at hiff
  exact ⟨header, hfound, hiff.mpr (by decide +kernel)⟩

/-- A line of code right after a header of one line is lost. -/
theorem code_line_taken :
    ∃ header,
      (run (Style.builtin "doubleslash_style") ["copyright".toList]
        "// Copyright Acme\nint x;\n".toList).header = some header ∧
      ∃ l ∈ header, l.isBlank = false ∧ ¬IsCommentLine (Style.builtin "doubleslash_style") l :=
  ⟨[⟨"// Copyright Acme".toList, .lf⟩, ⟨"int x;".toList, .lf⟩], by decide +kernel,
    ⟨"int x;".toList, .lf⟩, by decide, by decide, by decide +kernel⟩

/-! ### Comments between slashes and stars -/

/-- Lines over which a comment is read on after its first line: none closes it, the first is not
blank, and the others start as the lines of the style do. -/
structure ReadsOn (s : Style) (gap : List Line) : Prop where
  noClosing : ∀ l ∈ gap, s.isLastLine l.body = false
  ink : ∀ l ∈ gap.head?, l.isBlank = false
  starts : ∀ l ∈ gap.tail, (runStart s).isPrefixOf l.body = true

/-- What is left after a comment, given the lines after its first line. -/
inductive BlockRead (s : Style) : List Line → List Line → Prop where
  /-- A line closes the comment.  If the next line closes one too it is taken as well. -/
  | closed {gap rest : List Line} {c : Line} (reads : ReadsOn s gap)
      (closes : s.isLastLine c.body = true) : BlockRead s (gap ++ c :: rest) (dropClosing s rest)
  /-- A line that does not belong to the comment is taken, and a line that closes one after it. -/
  | broken {gap rest : List Line} {l : Line} (reads : ReadsOn s gap)
      (noClosing : s.isLastLine l.body = false) (blank : gap = [] → l.isBlank = true)
      (stops : gap ≠ [] → (runStart s).isPrefixOf l.body = false) :
      BlockRead s (gap ++ l :: rest) (dropClosing s rest)
  /-- The file ends. -/
  | unclosed {gap : List Line} (reads : ReadsOn s gap) (ne : gap ≠ []) : BlockRead s gap []

theorem readsOn_nil (s : Style) : ReadsOn s [] := ⟨by simp, by simp, by simp⟩

theorem readsOn_cons (hs : s.isBlock = true) {second : Line} {run : List Line}
    (hclose : s.isLastLine second.body = false) (hink : second.isBlank = false)
    (hrun : ∀ l ∈ run, Continues s l) : ReadsOn s (second :: run) := by
  have hopen : ∀ l ∈ run, s.isLastLine l.body = false := by
    intro l hl
    have hcontinues := (hrun l hl).2
    rw [hs, Bool.true_and] at hcontinues
    exact hcontinues
  exact {
    noClosing := by simpa using ⟨hclose, hopen⟩
    ink := by simpa using hink
    starts := fun l hl => (hrun l hl).1 }

/-- **What a comment takes after its first line.** -/
theorem readBody_block (hs : s.IsComment) (second : Line) (rest : List Line) :
    BlockRead s (second :: rest) (readBody s second rest).2 := by
  unfold readBody
  rw [hs.isBlock, Bool.true_and]
  by_cases hclose : s.isLastLine second.body = true
  · rw [if_pos hclose]
    exact .closed (readsOn_nil s) hclose
  · rw [if_neg hclose]
    rw [Bool.not_eq_true] at hclose
    by_cases hblank : second.isBlank = true
    · rw [if_pos hblank]
      exact .broken (readsOn_nil s) hclose (fun _ => hblank) (fun hne => absurd rfl hne)
    · rw [if_neg hblank]
      rw [Bool.not_eq_true] at hblank
      have hread := readRun_spec s rest
      generalize readRun s (runStart s) rest = r at hread
      show BlockRead s (second :: rest) (afterBlock s r.2.2 r.2.1)
      cases hread with
      | endOfFile continues =>
        exact .unclosed (readsOn_cons hs.isBlock hclose hblank continues) (by simp)
      | closing continues _ closes =>
        rw [hs.isBlock, Bool.true_and] at closes
        exact .closed (readsOn_cons hs.isBlock hclose hblank continues) closes
      | @other run left l continues starts =>
        have hreads := readsOn_cons hs.isBlock hclose hblank continues
        rw [afterBlock, hs.noBlanks, Bool.false_and, if_neg Bool.false_ne_true]
        by_cases hl : s.isLastLine l.body = true
        · exact .closed hreads hl
        · exact .broken hreads (Bool.not_eq_true _ ▸ hl) (fun hnil => by simp at hnil) fun _ => starts

/-- Whether the lines of a header after its closing line are blank.  The closing line is looked for
from the first line on that is not blank. -/
def EndsAtClosing (s : Style) (header : List Line) : Prop :=
  ∀ l ∈ ((header.dropWhile Line.isBlank).dropWhile fun l => !s.isLastLine l.body).tail,
    l.isBlank = true

instance (s : Style) (header : List Line) : Decidable (EndsAtClosing s header) :=
  inferInstanceAs (Decidable (∀ l : Line, l ∈ _ → l.isBlank = true))

/-- Lines after the first line of a comment of which one closes it and the next could close one. -/
def ClosedTwice (s : Style) (lines : List Line) : Prop :=
  ∃ gap c next rest, lines = gap ++ c :: next :: rest ∧ ReadsOn s gap ∧
    s.isLastLine c.body = true ∧ s.isLastLine next.body = true

/-- Lines from the first line of a comment on of which reading takes more than the comment.  A comment
that is closed on its first line goes on with the second line, if that is not blank, or with a line
after it that could close one; otherwise the comment is closed twice. -/
def ReadsPast (s : Style) : List Line → Prop
  | first :: second :: rest =>
    if s.isLastLine first.body then
      second.isBlank = false ∨ ∃ next ∈ rest.head?, s.isLastLine next.body = true
    else ClosedTwice s (second :: rest)
  | _ => False

theorem dropClosing_cases (s : Style) (rest : List Line) :
    (dropClosing s rest = rest ∧ ∀ next ∈ rest.head?, s.isLastLine next.body = false) ∨
      ∃ next, rest = next :: dropClosing s rest ∧ s.isLastLine next.body = true := by
  cases rest with
  | nil => exact Or.inl ⟨rfl, by simp⟩
  | cons next rest =>
    rw [dropClosing]
    by_cases hclose : s.isLastLine next.body = true
    · rw [if_pos hclose]
      exact Or.inr ⟨next, rfl, hclose⟩
    · rw [if_neg hclose]
      exact Or.inl ⟨rfl, by simpa using hclose⟩

/-- The first closing line after some lines that a comment is read over. -/
theorem ReadsOn.dropWhile_append {gap : List Line} (h : ReadsOn s gap) (rest : List Line) :
    (gap ++ rest).dropWhile (fun l => !s.isLastLine l.body)
      = rest.dropWhile fun l => !s.isLastLine l.body :=
  List.dropWhile_append_of_pos fun l hl => by rw [h.noClosing l hl]; rfl

theorem dropWhile_closing {c : Line} (hc : s.isLastLine c.body = true) (rest : List Line) :
    (c :: rest).dropWhile (fun l => !s.isLastLine l.body) = c :: rest :=
  List.dropWhile_cons_of_neg (by rw [hc]; exact Bool.false_ne_true)

/-- There is one first closing line, so a comment is closed twice if its next line could close one. -/
theorem closedTwice_iff {gap rest : List Line} {c : Line} (hgap : ReadsOn s gap)
    (hc : s.isLastLine c.body = true) :
    ClosedTwice s (gap ++ c :: rest) ↔ ∃ next ∈ rest.head?, s.isLastLine next.body = true := by
  constructor
  · rintro ⟨gap', c', next, rest', heq, hgap', hc', hnext⟩
    have hdrop := congrArg (List.dropWhile fun l => !s.isLastLine l.body) heq
    rw [hgap.dropWhile_append, hgap'.dropWhile_append, dropWhile_closing hc,
      dropWhile_closing hc'] at hdrop
    rw [(List.cons.inj hdrop).2]
    exact ⟨next, rfl, hnext⟩
  · rintro ⟨next, hmem, hnext⟩
    obtain ⟨rest, rfl⟩ := List.head?_eq_some_iff.mp hmem
    exact ⟨gap, c, next, rest, rfl, hgap, hc, hnext⟩

/-- A comment that is broken off before its closing line is not closed twice. -/
theorem not_closedTwice_of_broken {gap rest : List Line} {l : Line} (hgap : ReadsOn s gap)
    (hl : s.isLastLine l.body = false) (hblank : gap = [] → l.isBlank = true)
    (hstops : gap ≠ [] → (runStart s).isPrefixOf l.body = false) :
    ¬ClosedTwice s (gap ++ l :: rest) := by
  rintro ⟨gap', c, next, rest', heq, hgap', hc, -⟩
  rcases List.append_eq_append_iff.mp heq with ⟨more, rfl, hmore⟩ | ⟨more, rfl, hmore⟩
  · cases more with
    | nil =>
      -- the line would close the comment itself
      rw [(List.cons.inj hmore).1, hc] at hl
      exact Bool.noConfusion hl
    | cons k more =>
      -- the line would be one that the comment is read over
      obtain ⟨rfl, -⟩ := List.cons.inj hmore
      cases gap with
      | nil =>
        have hink := hgap'.ink l rfl
        rw [hblank rfl] at hink
        exact Bool.noConfusion hink
      | cons g gap =>
        have hstarts := hgap'.starts l (by simp)
        rw [hstops (by simp)] at hstarts
        exact Bool.noConfusion hstarts
  · cases more with
    | nil =>
      rw [← (List.cons.inj hmore).1, hc] at hl
      exact Bool.noConfusion hl
    | cons k more =>
      obtain ⟨rfl, -⟩ := List.cons.inj hmore
      have hopen := hgap.noClosing c (by simp)
      rw [hc] at hopen
      exact Bool.noConfusion hopen

theorem mem_of_mem_tail_dropWhile {p : Line → Bool} {lines : List Line} {l : Line}
    (h : l ∈ (lines.dropWhile p).tail) : l ∈ lines :=
  (List.dropWhile_suffix p).subset (List.mem_of_mem_tail h)

/-- A comment that is closed on its first line: the lines that are taken after it are blank exactly
if the second line is and no closing line follows that. -/
theorem forall_isBlank_iff (hs : s.IsComment) {second : Line} {rest taken spacing : List Line}
    (htaken : rest = taken ++ (readBody s second rest).2)
    (hspacing : ∀ l ∈ spacing, l.isBlank = true) :
    (∀ l ∈ second :: (taken ++ spacing), l.isBlank = true) ↔
      ¬(second.isBlank = false ∨ ∃ next ∈ rest.head?, s.isLastLine next.body = true) := by
  cases hblank : second.isBlank with
  | false => simp [hblank]
  | true =>
    have hopen : s.isLastLine second.body = false := by
      rw [← Bool.not_eq_true]
      intro hclose
      rw [hs.isBlank_eq_false hclose] at hblank
      exact Bool.noConfusion hblank
    have hleft : (readBody s second rest).2 = dropClosing s rest := by
      unfold readBody
      rw [hs.isBlock, hopen, hblank]
      rfl
    rw [hleft] at htaken
    rcases dropClosing_cases s rest with ⟨hkeep, hnext⟩ | ⟨next, hdrop, hnext⟩
    · have hnil : taken = [] := by
        rw [hkeep] at htaken
        exact List.self_eq_append_left.mp htaken
      constructor
      · rintro - (hno | ⟨next, hmem, hclose⟩)
        · exact Bool.noConfusion hno
        · rw [hnext next hmem] at hclose
          exact Bool.noConfusion hclose
      · intro _ l hl
        rw [hnil, List.nil_append, List.mem_cons] at hl
        rcases hl with rfl | hl
        · exact hblank
        · exact hspacing l hl
    · have hone : taken = [next] := List.append_cancel_right (htaken.symm.trans hdrop)
      have hink := hs.isBlank_eq_false hnext
      constructor
      · intro hall
        have hnextBlank := hall next (by simp [hone])
        rw [hink] at hnextBlank
        exact Bool.noConfusion hnextBlank
      · intro hno
        refine absurd (Or.inr ⟨next, ?_, hnext⟩) hno
        rw [hdrop]
        rfl

/-- A comment that goes on after its first line: what is taken after its closing line is blank exactly
if it is not closed twice. -/
theorem forall_tail_isBlank_iff (hs : s.IsComment) {lines left taken spacing : List Line}
    (hread : BlockRead s lines left) (htaken : lines = taken ++ left)
    (hspacing : ∀ l ∈ spacing, l.isBlank = true) :
    (∀ l ∈ ((taken ++ spacing).dropWhile fun l => !s.isLastLine l.body).tail, l.isBlank = true) ↔
      ¬ClosedTwice s lines := by
  have hcancel : ∀ {front : List Line}, lines = front ++ left → taken = front :=
    fun hfront => List.append_cancel_right (htaken.symm.trans hfront)
  cases hread with
  | @closed gap rest c reads closes =>
    rw [closedTwice_iff reads closes]
    rcases dropClosing_cases s rest with ⟨hkeep, hnext⟩ | ⟨next, hdrop, hnext⟩
    · have hfront : taken = gap ++ [c] := hcancel (by rw [hkeep]; simp)
      rw [hfront, List.append_assoc, reads.dropWhile_append, List.singleton_append,
        dropWhile_closing closes, List.tail_cons]
      refine iff_of_true hspacing ?_
      rintro ⟨next, hmem, hclose⟩
      rw [hnext next hmem] at hclose
      exact Bool.noConfusion hclose
    · have hfront : taken = gap ++ [c, next] := hcancel (by rw [List.append_assoc]; simp [← hdrop])
      have hink := hs.isBlank_eq_false hnext
      rw [hfront, List.append_assoc, reads.dropWhile_append, List.cons_append,
        dropWhile_closing closes, List.tail_cons]
      refine iff_of_false ?_ ?_
      · intro hall
        have hblank := hall next (by simp)
        rw [hink] at hblank
        exact Bool.noConfusion hblank
      · rw [hdrop]
        exact fun hno => hno ⟨next, rfl, hnext⟩
  | @broken gap rest l reads noClosing blank stops =>
    refine iff_of_true ?_ (not_closedTwice_of_broken reads noClosing blank stops)
    have hover : ∀ more : List Line, (gap ++ l :: more).dropWhile (fun l => !s.isLastLine l.body)
        = more.dropWhile fun l => !s.isLastLine l.body := by
      intro more
      rw [reads.dropWhile_append, List.dropWhile_cons_of_pos (by rw [noClosing]; rfl)]
    intro k hk
    rcases dropClosing_cases s rest with ⟨hkeep, -⟩ | ⟨next, hdrop, hnext⟩
    · have hfront : taken = gap ++ [l] := hcancel (by rw [hkeep]; simp)
      rw [hfront, List.append_assoc, List.singleton_append, hover] at hk
      exact hspacing k (mem_of_mem_tail_dropWhile hk)
    · have hfront : taken = gap ++ [l, next] := hcancel (by rw [List.append_assoc]; simp [← hdrop])
      rw [hfront, List.append_assoc, List.cons_append, hover, List.singleton_append,
        dropWhile_closing hnext] at hk
      exact hspacing k hk
  | unclosed reads ne =>
    refine iff_of_true ?_ ?_
    · intro k hk
      rw [hcancel (List.append_nil _).symm, reads.dropWhile_append] at hk
      exact hspacing k (mem_of_mem_tail_dropWhile hk)
    · rintro ⟨gap, c, next, rest, rfl, -, hc, -⟩
      have hopen := reads.noClosing c (by simp)
      rw [hc] at hopen
      exact Bool.noConfusion hopen

/-- **Where a comment ends.**  In the styles of comments between slashes and stars a header ends at
the line that closes it, with blank lines at most after that, exactly if reading does not go past that
line. -/
theorem endsAtClosing_iff (hs : s.IsBuiltin) (hid : s.id ∈ Style.commentNames)
    (h : (run s keywords t).header = some header) :
    Line.split t = (run s keywords t).above ++ header ++ (run s keywords t).below ∧
      (EndsAtClosing s header ↔
        ¬ReadsPast s ((splitAbove s (Line.split t)).2.dropWhile Line.isBlank)) := by
  have hcomment := Style.isComment_of_isBuiltin hs hid
  refine ⟨split_eq_of_run h, ?_⟩
  obtain ⟨blanks, first, gap, second, rest, taken, spacing, hlines, hblanks, hink, -, -, hnone, -,
    htaken, hspacing, rfl⟩ := header_eq h
  have hfirst : ∀ more : List Line, (blanks ++ first :: more).dropWhile Line.isBlank
      = first :: more := by
    intro more
    rw [List.dropWhile_append_of_pos hblanks,
      List.dropWhile_cons_of_neg (by rw [hink]; exact Bool.false_ne_true)]
  rw [hlines, hnone hcomment.noBlanks, EndsAtClosing, hfirst, hfirst, List.nil_append,
    List.nil_append, ReadsPast]
  cases hclose : s.isLastLine first.body with
  | true =>
    rw [dropWhile_closing hclose, List.tail_cons, if_pos rfl]
    exact forall_isBlank_iff hcomment htaken hspacing
  | false =>
    have hcut : second :: rest = second :: taken ++ (readBody s second rest).2 := by
      rw [List.cons_append, ← htaken]
    rw [List.dropWhile_cons_of_pos (by rw [hclose]; rfl), if_neg Bool.false_ne_true]
    exact forall_tail_isBlank_iff hcomment (readBody_block hcomment second rest) hcut hspacing

/-- A comment with a blank line before code that ends in a comment itself. -/
theorem endsAtClosing_before_blank :
    ∃ header,
      (run (Style.builtin "javadoc_style") ["copyright".toList]
        "/**\n * Copyright Acme\n */\n\nint x; /* y */\n".toList).header = some header ∧
      EndsAtClosing (Style.builtin "javadoc_style") header ∧
      ¬ReadsPast (Style.builtin "javadoc_style")
        ((splitAbove (Style.builtin "javadoc_style") (Line.split
          "/**\n * Copyright Acme\n */\n\nint x; /* y */\n".toList)).2.dropWhile Line.isBlank) := by
  have hfound : (run (Style.builtin "javadoc_style") ["copyright".toList]
      "/**\n * Copyright Acme\n */\n\nint x; /* y */\n".toList).header
        = some (["/**", " * Copyright Acme", " */", ""].map fun l => Line.mk l.toList .lf) := by
    decide +kernel
  have hends : EndsAtClosing (Style.builtin "javadoc_style")
      (["/**", " * Copyright Acme", " */", ""].map fun l => Line.mk l.toList .lf) := by
    decide +kernel
  exact ⟨_, hfound, hends, (endsAtClosing_iff (Style.isBuiltin_builtin (by decide +kernel))
    (by decide +kernel) hfound).2.mp hends⟩

/-- A line of code after a comment that is closed on its first line is lost. -/
theorem code_after_closing_taken :
    ∃ header,
      (run (Style.builtin "slashstar_style") ["copyright".toList]
        "/* Copyright */\nint x;\n".toList).header = some header ∧
      ¬EndsAtClosing (Style.builtin "slashstar_style") header :=
  ⟨["/* Copyright */", "int x;"].map fun l => Line.mk l.toList .lf, by decide +kernel,
    by decide +kernel⟩

end HeaderScan

end LicenseHeader
