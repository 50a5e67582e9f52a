import LicenseHeader.Proofs.Style.Builtin

/-!
# The lenient check and the strict check

The strict check looks for the lines of a header as they are written.  The lenient check takes the
comment syntax out of the first lines of a file, and all white space, and looks for the words of the
header; but it leaves the comment syntax in the header itself.  So a header that the strict check finds
can be lost if its own words look like comment syntax.

* `HeaderTemplate.exists_of_isPresentStrict`: a file that passes the strict check has the lines of the
  header, up to white space after them;
* `HeaderTemplate.IsClearIn`: no line of a header is taken for comment syntax;
* `HeaderTemplate.lenient_of_strict` is the result, and `HeaderTemplate.lenient_loses_address` shows
  what goes wrong without it.
-/

namespace LicenseHeader

open Text

/-! ### The lines that the strict check finds -/

namespace Text

/-- The white space between the lines of a text does not count. -/
theorem squeeze_lines (t : Text) : squeeze t.lines.flatten = t.squeeze := by
  have hlines : ∀ ls : List Line, squeeze (ls.map Line.content).flatten = squeeze (Line.unsplit ls) := by
    intro ls
    induction ls with
    | nil => rfl
    | cons l ls ih =>
      have hline : squeeze l.content = squeeze l.text := by
        obtain ⟨body, ending⟩ := l
        cases ending <;> simp [Line.content, Line.text, LineBreak.text, squeeze_append] <;> decide
      rw [List.map_cons, List.flatten_cons, Line.unsplit_cons, squeeze_append, squeeze_append, hline, ih]
  rw [lines_eq, hlines, Line.unsplit_split]

/-- Written lines that stand in other written lines: the first may be the end of a line, the others are
whole lines. -/
theorem exists_of_ofLines_isInfix {l : Text} {ls found : List Text} (hls : ∀ k ∈ l :: ls, '\n' ∉ k)
    (hfound : ∀ k ∈ found, '\n' ∉ k) (h : ofLines (l :: ls) <:+: ofLines found) :
    ∃ front start back, found = front ++ (start ++ l) :: (ls ++ back) := by
  obtain ⟨u, v, huv⟩ := h
  obtain ⟨front, start, hu⟩ : ∃ front start, splitAt '\n' u = front ++ [start] :=
    ⟨_, _, (List.dropLast_append_getLast (splitAt_ne_nil '\n' u)).symm⟩
  obtain ⟨back, last, hv⟩ : ∃ back last, splitAt '\n' v = back ++ [last] :=
    ⟨_, _, (List.dropLast_append_getLast (splitAt_ne_nil '\n' v)).symm⟩
  have hstart : u = ofLines front ++ start := by
    have hcut := flatMap_splitAt '\n' u
    rw [hu, List.flatMap_append, List.flatMap_singleton, ← List.append_assoc] at hcut
    exact (List.append_cancel_right hcut).symm
  have hwhole : ofLines found ++ [] = ofLines (front ++ (start ++ l) :: ls) ++ v := by
    rw [List.append_nil, ← huv, hstart]
    simp [ofLines]
  have hparts : ∀ k ∈ front ++ (start ++ l) :: ls, '\n' ∉ k := by
    have hcut : ∀ k ∈ front ++ [start], '\n' ∉ k := by
      rw [← hu]
      exact fun k hk => not_mem_of_mem_splitAt hk
    intro k hk hmem
    rcases List.mem_append.mp hk with hk | hk
    · exact hcut k (List.mem_append_left _ hk) hmem
    · rcases List.mem_cons.mp hk with rfl | hk
      · rcases List.mem_append.mp hmem with hmem | hmem
        · exact hcut start (by simp) hmem
        · exact hls l List.mem_cons_self hmem
      · exact hls k (List.mem_cons_of_mem l hk) hmem
  have hsplit := congrArg (splitAt '\n') hwhole
  rw [ofLines, ofLines, splitAt_flatMap hfound, splitAt_flatMap hparts, hv, ← List.append_assoc] at hsplit
  refine ⟨front, start, back, ?_⟩
  rw [(List.append_inj' hsplit rfl).1, List.append_assoc]
  rfl

theorem trimEnd_trimEnd (t : Text) : t.trimEnd.trimEnd = t.trimEnd := by
  obtain ⟨back, hback, ht⟩ := padded_trimEnd t
  conv => rhs; rw [ht, trimEnd_append, if_pos hback]

end Text

namespace HeaderTemplate

theorem padded_tidyLine (l : Text) : Padded (tidyLine l) l := by
  have hspaces : ∀ body : Text, Padded (body.reverse.dropWhile (· == ' ')).reverse body := by
    intro body
    refine ⟨(body.reverse.takeWhile (· == ' ')).reverse, ?_, ?_⟩
    · rw [isBlank, List.all_reverse, List.all_eq_true]
      intro c hc
      have hspace : c = ' ' := by simpa using List.mem_takeWhile_imp hc
      rw [hspace]
      decide
    · rw [← List.reverse_append, List.takeWhile_append_dropWhile, List.reverse_reverse]
  rw [tidyLine]
  by_cases hreturn : l.getLast? = some '\r'
  · obtain ⟨front, rfl⟩ := List.getLast?_eq_some_iff.mp hreturn
    obtain ⟨blank, hblank, hbody⟩ := hspaces front
    refine ⟨blank ++ ['\r'], ?_, ?_⟩
    · rw [isBlank_append, hblank]
      decide
    · rw [if_pos hreturn, List.dropLast_concat, ← List.append_assoc, ← hbody]
  · rw [if_neg hreturn]
    exact hspaces l

/-- A line that ends in no white space is tidy. -/
theorem tidyLine_trimEnd (t : Text) : tidyLine t.trimEnd = t.trimEnd := by
  obtain ⟨blank, hblank, ht⟩ := padded_tidyLine t.trimEnd
  have hsame : t.trimEnd = (tidyLine t.trimEnd).trimEnd := by
    conv => lhs; rw [← trimEnd_trimEnd, ht, trimEnd_append, if_pos hblank]
  have hlength := (trimEnd_isPrefix (tidyLine t.trimEnd)).length_le
  rw [← hsame] at hlength
  have htotal := congrArg List.length ht
  rw [List.length_append] at htotal
  have hnil : blank = [] := List.length_eq_zero_iff.mp (by omega)
  conv => rhs; rw [ht, hnil, List.append_nil]

theorem tidy_ofLines {ls : List Text} (h : ∀ l ∈ ls, '\n' ∉ l) :
    tidy (ofLines ls) = ofLines (ls.map tidyLine) := by
  have htidy := tidy_ofLines_append h []
  rw [List.append_nil] at htidy
  rw [htidy]
  exact List.append_nil _

theorem noFeed_of_mem_writtenLines {h : HeaderTemplate} {s : Style} (hs : s.IsPlain) {l : Text}
    (hl : l ∈ h.writtenLines s) : '\n' ∉ l := by
  intro hfeed
  rw [writtenLines, List.mem_append, List.mem_append] at hl
  rcases hl with (hl | hl) | hl
  · exact (mem_of_mem_delimiterLines hl hfeed).2 rfl
  · obtain ⟨line, hline, rfl⟩ := List.mem_map.mp hl
    rcases mem_decorateLine hfeed with hfeed | hfeed | hfeed
    · exact hs.noFeed hfeed
    · exact noFeed_of_mem_lines hline hfeed
    · exact absurd hfeed (by decide)
  · exact (mem_of_mem_delimiterLines hl hfeed).2 rfl

theorem noFeed_map_tidyLine {ls : List Text} (h : ∀ l ∈ ls, '\n' ∉ l) :
    ∀ l ∈ ls.map tidyLine, '\n' ∉ l := by
  intro k hk hfeed
  obtain ⟨l, hl, rfl⟩ := List.mem_map.mp hk
  obtain ⟨blank, -, htidy⟩ := padded_tidyLine l
  refine h l hl ?_
  rw [htidy]
  exact List.mem_append_left blank hfeed

theorem exists_of_forall₂_append {related : Text → Text → Prop} {ks ls found : List Text}
    (h : List.Forall₂ related (ks ++ ls) found) :
    ∃ front back, found = front ++ back ∧ List.Forall₂ related ks front ∧
      List.Forall₂ related ls back := by
  induction ks generalizing found with
  | nil => exact ⟨[], found, rfl, .nil, h⟩
  | cons k ks ih =>
    cases h with
    | @cons _ l _ rest hk hrest =>
      obtain ⟨front, back, rfl, hfront, hback⟩ := ih hrest
      exact ⟨l :: front, back, rfl, .cons hk hfront, hback⟩

/-- Lines that stand in a text up to white space at their ends. -/
theorem exists_of_tidy_isInfix {lines found : List Text} (hlines : ∀ l ∈ lines, '\n' ∉ l)
    (hfound : ∀ l ∈ found.map tidyLine, '\n' ∉ l) (h : ofLines lines <:+: ofLines (found.map tidyLine)) :
    ∃ u ls r, found.flatten = u ++ (ls.flatten ++ r) ∧
      List.Forall₂ Padded lines ls := by
  cases lines with
  | nil => exact ⟨found.flatten, [], [], by simp, .nil⟩
  | cons line lines =>
    obtain ⟨front, start, back, heq⟩ := exists_of_ofLines_isInfix hlines hfound h
    obtain ⟨above, rest, rfl, -, hrest⟩ := List.map_eq_append_iff.mp heq
    obtain ⟨first, others, rfl, hfirst, hothers⟩ := List.map_eq_cons_iff.mp hrest
    obtain ⟨ls, below, rfl, hls, -⟩ := List.map_eq_append_iff.mp hothers
    obtain ⟨blank, hblank, hline⟩ := padded_tidyLine first
    refine ⟨above.flatten ++ start, (line ++ blank) :: ls, below.flatten, ?_,
      .cons ⟨blank, hblank, rfl⟩ ?_⟩
    · rw [List.flatten_append, List.flatten_cons, hline, hfirst]
      simp
    · rw [← hls, List.forall₂_map_left_iff, List.forall₂_same]
      exact fun l _ => padded_tidyLine l

/-- The text in which the strict check looks for a header. -/
theorem exists_tidy_firstLines (h : HeaderTemplate) (file : Text) :
    ∃ found : List Text, found.flatten = (h.firstLines file).flatten ∧
      (∀ l ∈ found, '\n' ∉ l) ∧
      tidy (joinWith ['\n'] (h.firstLines file) ++ ['\n', '\n']) = ofLines (found.map tidyLine) := by
  have hfeeds : ∀ l ∈ h.firstLines file, '\n' ∉ l := fun l hl =>
    noFeed_of_mem_lines (List.mem_of_mem_take hl)
  by_cases hnil : h.firstLines file = []
  · refine ⟨[[], []], by rw [hnil]; rfl, by simp, ?_⟩
    rw [hnil]
    decide
  · have hlines : ∀ l ∈ h.firstLines file ++ [[]], '\n' ∉ l := by
      intro l hl
      rcases List.mem_append.mp hl with hl | hl
      · exact hfeeds l hl
      · rw [List.mem_singleton.mp hl]
        simp
    refine ⟨h.firstLines file ++ [[]], by simp, hlines, ?_⟩
    rw [← tidy_ofLines hlines, ofLines_append, ← joinWith_append_feed hnil, List.append_assoc]
    rfl

/-- **A file that passes the strict check** has the lines of the header, and then those of the
closing. -/
theorem exists_of_isPresentStrict {h : HeaderTemplate} {s : Style} (hs : s.IsPlain)
    (href : h.text.NoReference) {file : Text} {properties : Properties}
    (hstrict : h.isPresentStrict file s properties = .ok true) :
    ∃ u found closing r, (h.firstLines file).flatten = u ++ (found.flatten ++ (closing.flatten ++ r)) ∧
      s.Carry h.width h.lines found ∧
      List.Forall₂ Padded ((delimiterLines s.closing).map tidyLine) closing := by
  obtain ⟨all, hall, hfeeds, htidy⟩ := exists_tidy_firstLines h file
  have hwritten : ∀ l ∈ h.writtenLines s, '\n' ∉ l := fun l hl => noFeed_of_mem_writtenLines hs hl
  rw [isPresentStrict, render_eq_decorate hs href, htidy, decorate_eq_ofLines] at hstrict
  have hin : (tidy (ofLines (h.writtenLines s))).isIn (ofLines (all.map tidyLine)) = true :=
    Except.ok.inj hstrict
  rw [tidy_ofLines hwritten, isIn_iff_isInfix] at hin
  obtain ⟨u, ls, r, hflat, hlines⟩ :=
    exists_of_tidy_isInfix (noFeed_map_tidyLine hwritten) (noFeed_map_tidyLine hfeeds) hin
  -- the lines of the opening, of the header text and of the closing
  rw [writtenLines, List.map_append, List.map_append] at hlines
  obtain ⟨front, closing, rfl, hfront, hclosing⟩ := exists_of_forall₂_append hlines
  obtain ⟨opening, found, rfl, -, hfound⟩ := exists_of_forall₂_append hfront
  refine ⟨u ++ opening.flatten, found, closing, r, ?_, ?_, hclosing⟩
  · rw [← hall, hflat]
    simp
  · have htrimmed : (h.decoratedLines s).map tidyLine = h.decoratedLines s := by
      rw [decoratedLines, List.map_map]
      exact List.map_congr_left fun line _ => tidyLine_trimEnd _
    rw [htrimmed, decoratedLines, List.forall₂_map_left_iff] at hfound
    exact hfound

/-- The closing begins with a space if a space is to follow every line. -/
theorem startsWhite_closing {s : Style} (hs : s.IsRemovable) {closing : List Text}
    (hclosing : List.Forall₂ Padded ((delimiterLines s.closing).map tidyLine) closing)
    (hspaces : s.spacesLines = true) (hafter : s.after = []) (r : Text) :
    Style.StartsWhite (closing.flatten ++ r) := by
  have hhead : s.closing.head? = some ' ' := by
    simp only [Style.spacesLines, hafter, List.head?_nil, Bool.or_eq_true, Bool.and_eq_true,
      beq_iff_eq] at hspaces
    exact (hspaces.resolve_left (by simp)).2
  have hstarts := hs.closingStarts hhead
  cases hlines : delimiterLines s.closing with
  | nil => simp [hlines] at hstarts
  | cons line lines =>
    rw [hlines] at hstarts hclosing
    cases hclosing with
    | @cons _ l _ rest hl _ =>
      obtain ⟨blank, -, rfl⟩ := hl
      have hwhite : (tidyLine line).head?.any isWhite = true := by
        rw [beq_iff_eq.mp hstarts]
        decide
      rw [List.flatten_cons, List.append_assoc, List.append_assoc]
      exact (Style.startsWhite_of_head? hwhite).append _

/-- No line of a header is taken for the comment syntax of a style. -/
def IsClearIn (h : HeaderTemplate) (s : Style) : Prop := ∀ line ∈ h.lines, s.KeepsLine line

instance (h : HeaderTemplate) (s : Style) : Decidable (h.IsClearIn s) :=
  inferInstanceAs (Decidable (∀ line ∈ h.lines, s.KeepsLine line))

theorem noReference_of_squeeze {t : Text} (h : t.squeeze.NoReference) : t.NoReference := by
  rw [noReference_iff, ← Bool.not_eq_true, isIn_iff_isInfix] at h ⊢
  rintro ⟨front, back, rfl⟩
  refine h ⟨squeeze front, squeeze back, ?_⟩
  rw [squeeze_append, squeeze_append]
  rfl

/-- **The lenient check accepts what the strict check accepts**, in every built-in style, if no line of
the header is taken for comment syntax and no reference comes about when white space is left out. -/
theorem lenient_of_strict {h : HeaderTemplate} {s : Style} (hs : s.IsBuiltin)
    (href : h.text.squeeze.NoReference) (hclear : h.IsClearIn s) (file : Text)
    (properties : Properties) (hstrict : h.isPresent file s properties true = .ok true) :
    h.isPresent file s properties false = .ok true := by
  have hremovable := Style.isRemovable_of_isBuiltin hs
  obtain ⟨u, found, closing, r, hflat, hfound, hclosing⟩ :=
    exists_of_isPresentStrict hremovable.isPlain (noReference_of_squeeze href) hstrict
  have hin := Style.isInfix_bare_lines hremovable hfound hclear
    (fun hspaces hafter => startsWhite_closing hremovable hclosing hspaces hafter r) u
  rw [← hflat, ← bare_trim hremovable.noWhite, bare, ← Style.undecorate_eq_remove,
    lines, squeeze_lines] at hin
  show h.isPresentLenient file s properties = .ok true
  rw [isPresentLenient, properties.expand_of_noReference href]
  show Except.ok (h.text.squeeze.squeeze.isIn _) = _
  rw [squeeze_squeeze, isIn_iff_isInfix.mpr hin]

/-- The address of a licence in a header, in a style in which only stars and slashes next to them are
comment syntax.  The last line ends with a slash. -/
theorem lenient_of_strict_address :
    (Style.builtin "javadoc_style").IsBuiltin ∧
    (⟨"See\n\n  http://x.org/".toList⟩ : HeaderTemplate).text.squeeze.NoReference ∧
    (⟨"See\n\n  http://x.org/".toList⟩ : HeaderTemplate).IsClearIn (Style.builtin "javadoc_style") ∧
    (⟨"See\n\n  http://x.org/".toList⟩ : HeaderTemplate).isPresent
      "/**\n * See\n *\n *   http://x.org/ \r\n */\nint x;".toList (Style.builtin "javadoc_style") []
      false = .ok true := by
  have hbuiltin : (Style.builtin "javadoc_style").IsBuiltin :=
    Style.isBuiltin_builtin (by decide +kernel)
  have href : (⟨"See\n\n  http://x.org/".toList⟩ : HeaderTemplate).text.squeeze.NoReference := by
    rw [noReference_iff]
    decide +kernel
  have hclear : (⟨"See\n\n  http://x.org/".toList⟩ : HeaderTemplate).IsClearIn
      (Style.builtin "javadoc_style") := by
    decide +kernel
  refine ⟨hbuiltin, href, hclear, lenient_of_strict hbuiltin href hclear _ _ ?_⟩
  decide +kernel

/-- Slashes in an address are taken for comment syntax, in the file but not in the header: what the
strict check finds is lost. -/
theorem lenient_loses_address :
    (Style.builtin "doubleslash_style").IsBuiltin ∧
    (⟨"See http://x.org".toList⟩ : HeaderTemplate).text.NoReference ∧
    (⟨"See http://x.org".toList⟩ : HeaderTemplate).isPresent "// See http://x.org\n\n".toList
      (Style.builtin "doubleslash_style") [] true = .ok true ∧
    (⟨"See http://x.org".toList⟩ : HeaderTemplate).isPresent "// See http://x.org\n\n".toList
      (Style.builtin "doubleslash_style") [] false = .ok false := by
  refine ⟨Style.isBuiltin_builtin (by decide +kernel), ?_, by decide +kernel, by decide +kernel⟩
  rw [noReference_iff]
  decide +kernel

-- A line that ends with half a mark, and a reference that comes about without white space.
example :
    (⟨"foo /".toList⟩ : HeaderTemplate).isPresent "// foo /\n/ x\n".toList
      (Style.builtin "single_line_doubleslash_style") [] true = .ok true ∧
    (⟨"foo /".toList⟩ : HeaderTemplate).isPresent "// foo /\n/ x\n".toList
      (Style.builtin "single_line_doubleslash_style") [] false = .ok false ∧
    (⟨"$ \x7ba\x7d".toList⟩ : HeaderTemplate).isPresent "// $ \x7ba\x7d\n\n".toList
      (Style.builtin "doubleslash_style") [("a".toList, "b".toList)] true = .ok true ∧
    (⟨"$ \x7ba\x7d".toList⟩ : HeaderTemplate).isPresent "// $ \x7ba\x7d\n\n".toList
      (Style.builtin "doubleslash_style") [("a".toList, "b".toList)] false = .ok false := by
  decide +kernel

end HeaderTemplate

end LicenseHeader
