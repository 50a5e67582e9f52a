import LicenseHeader.Proofs.Header.Lenient

/-!
# Headers that were wrapped anew

Somebody fills the lines of a header anew, adds blank lines or moves words about with spaces.  The strict
check does not know the header any more.  The lenient check does: it puts the first lines of a file
together without breaks, takes the comment syntax out piece by piece, and then all white space.  Pieces of
comment syntax meet where lines are put together, but nothing of them stays between two words, if the
words themselves have no character in common with the comment syntax.

* `Text.words` and `Text.flatten_words`: the words of a text, and what is left without white space;
* `Style.Spares` and `Style.keepsLine_of_spares`: characters that are no comment syntax, and lines of them;
* `HeaderTemplate.isPresentLenient_iff`: what the lenient check looks for, and where;
* `HeaderTemplate.exists_firstLines_eq`: the lines that it sees of a file that starts with a header;
* `HeaderTemplate.lenient_of_rewrapped` is the result.
-/

namespace LicenseHeader

open Text

/-! ### Words -/

namespace Text

/-- The words of a text: its parts between white space. -/
def words (t : Text) : List Text := (t.splitOnP isWhite).filter fun word => !word.isEmpty

/-- The words of a text are what is left of it without white space. -/
theorem flatten_words (t : Text) : t.words.flatten = t.squeeze := by
  rw [words, List.flatten_filter_not_isEmpty]
  induction t with
  | nil => rfl
  | cons c t ih =>
    obtain ⟨word, more, hparts⟩ := List.exists_cons_of_ne_nil (List.splitOnP_ne_nil isWhite t)
    rw [hparts] at ih
    rw [List.splitOnP_cons_eq_if_modifyHead, hparts]
    cases hc : isWhite c with
    | true =>
      have hsqueeze : squeeze (c :: t) = squeeze t := by simp [squeeze, hc]
      rw [if_pos rfl, hsqueeze, ← ih]
      rfl
    | false =>
      have hsqueeze : squeeze (c :: t) = c :: squeeze t := by simp [squeeze, hc]
      rw [if_neg Bool.false_ne_true, hsqueeze, ← ih]
      rfl

end Text

/-! ### Words that are no comment syntax -/

namespace Style

/-- A character that is none of the comment syntax of a style, white space around it left out, and that
begins no reference. -/
def Spares (s : Style) (c : Char) : Prop :=
  c ≠ '$' ∧ ∀ d ∈ [s.opening, s.closing, s.before, s.after], c ∉ d.trim

instance (s : Style) (c : Char) : Decidable (s.Spares c) :=
  inferInstanceAs
    (Decidable (c ≠ '$' ∧ ∀ d ∈ [s.opening, s.closing, s.before, s.after], c ∉ d.trim))

/-- **A line without comment syntax is kept**: no mark has a character in common with it. -/
theorem keepsLine_of_spares {s : Style} (hs : s.IsRemovable) {line : Text}
    (h : ∀ c ∈ line, isWhite c = true ∨ s.Spares c) : s.KeepsLine line := by
  intro d hd
  have hapart : ∀ c ∈ d, c ∉ line := by
    intro c hc hline
    rcases h c hline with hwhite | hspared
    · exact List.any_eq_false.mp (hs.noWhite d hd) c hc hwhite
    · rw [marks, List.mem_filter, List.mem_map] at hd
      obtain ⟨⟨text, htext, rfl⟩, -⟩ := hd
      exact hspared.2 text htext hc
  constructor
  · intro hin
    have hne : d ≠ [] := by simpa using (List.mem_filter.mp hd).2
    obtain ⟨c, hc⟩ := List.exists_mem_of_ne_nil d hne
    exact hapart c hc (hin.subset hc)
  · intro _ p hp hne hstart
    obtain ⟨c, hc⟩ := List.exists_mem_of_ne_nil p hne
    have hline : c ∈ line.trimEnd := ((List.mem_tails p _).mp hp).subset hc
    exact hapart c (hstart.subset hc) ((trimEnd_isPrefix line).subset hline)

end Style

namespace HeaderTemplate

variable {h h' : HeaderTemplate} {s : Style}

/-- The words of a header are no comment syntax of a style. -/
def HasPlainWords (h : HeaderTemplate) (s : Style) : Prop :=
  ∀ word ∈ h.text.words, ∀ c ∈ word, s.Spares c

theorem HasPlainWords.spares (hplain : h.HasPlainWords s) {c : Char} (hc : c ∈ h.text.squeeze) :
    s.Spares c := by
  rw [← flatten_words] at hc
  obtain ⟨word, hword, hc⟩ := List.mem_flatten.mp hc
  exact hplain word hword c hc

/-- Without a dollar sign in its words a header has no reference, not even without white space. -/
theorem HasPlainWords.noReference (hplain : h.HasPlainWords s) : h.text.squeeze.NoReference :=
  noReference_of_no_dollar fun hdollar => (hplain.spares hdollar).1 rfl

/-- A header of the same words is kept in all its lines. -/
theorem HasPlainWords.isClearIn (hplain : h.HasPlainWords s) (hs : s.IsRemovable)
    (hwords : h'.text.squeeze = h.text.squeeze) : h'.IsClearIn s := by
  intro line hline
  refine Style.keepsLine_of_spares hs fun c hc => ?_
  cases hwhite : isWhite c with
  | true => exact Or.inl rfl
  | false =>
    right
    apply hplain.spares
    rw [← hwords, squeeze, List.mem_filter]
    exact ⟨(isInfix_of_mem_lines hline).subset hc, by simp [hwhite]⟩

/-! ### What the lenient check sees -/

/-- **The lenient check** looks for the words of a header in what is left of the first lines of a file
without comment syntax and white space. -/
theorem isPresentLenient_iff (hs : s.IsRemovable) (href : h.text.squeeze.NoReference) (file : Text)
    (properties : Properties) :
    h.isPresentLenient file s properties = .ok true ↔
      h.text.squeeze <:+: bare s.marks (h.firstLines file).flatten := by
  have hfound : squeeze (undecorate s (trim (h.firstLines file).flatten))
      = bare s.marks (h.firstLines file).flatten := by
    rw [Style.undecorate_eq_remove, ← bare_trim hs.noWhite]
    rfl
  rw [isPresentLenient, properties.expand_of_noReference href, hfound]
  show Except.ok (h.text.squeeze.squeeze.isIn _) = Except.ok true ↔ _
  rw [squeeze_squeeze, Except.ok.injEq, isIn_iff_isInfix]

/-- A file that starts with a header of few enough lines shows it whole to a check, and then some of what
follows. -/
theorem exists_firstLines_eq (hs : s.IsPlain) (hreturn : '\r' ∉ h'.text)
    (hfits : (h'.decorate s).lines.length ≤ h.lines.length + extraLines) (rest : Text) :
    ∃ more, h.firstLines (h'.decorate s ++ rest) = h'.writtenLines s ++ more := by
  have hwritten := areLines_writtenLines hs hreturn
  have hlines : (h'.decorate s ++ rest).lines = h'.writtenLines s ++ rest.lines := by
    rw [decorate_eq_ofLines]
    exact lines_apply_ofLines_append hwritten .lf rest
  rw [decorate_eq_ofLines, lines_ofLines hwritten] at hfits
  refine ⟨rest.lines.take (h.lines.length + extraLines - (h'.writtenLines s).length), ?_⟩
  rw [firstLines, hlines, List.take_append, List.take_of_length_le hfits]

/-- The written lines of a header as they stand in a file, with nothing added after them. -/
theorem carry_decoratedLines (h : HeaderTemplate) (s : Style) :
    s.Carry h.width h.lines (h.decoratedLines s) := by
  rw [Style.Carry, decoratedLines, List.forall₂_map_right_iff, List.forall₂_same]
  exact fun line _ => ⟨[], rfl, (List.append_nil _).symm⟩

/-- **The lenient check knows a header that was wrapped anew.**  A file that starts with a header of the
same words, in a built-in style, passes the check for the first header, whatever the line breaks, the blank
lines and the spaces between the words are, and whatever follows in the file.  The words have no
character of the comment syntax, and the lines fit into those that the check looks at. -/
theorem lenient_of_rewrapped (hs : s.IsBuiltin) (hwords : h'.text.words = h.text.words)
    (hreturn : '\r' ∉ h'.text) (hplain : h.HasPlainWords s)
    (hfits : (h'.decorate s).lines.length ≤ h.lines.length + 10) (rest : Text)
    (properties : Properties) :
    h.isPresent (h'.decorate s ++ rest) s properties false = .ok true := by
  have hremovable := Style.isRemovable_of_isBuiltin hs
  have hsame : h'.text.squeeze = h.text.squeeze := by
    rw [← flatten_words, ← flatten_words, hwords]
  obtain ⟨more, hfirst⟩ := exists_firstLines_eq hremovable.isPlain hreturn hfits rest
  have hclosing : List.Forall₂ Padded ((delimiterLines s.closing).map tidyLine)
      (delimiterLines s.closing) := by
    rw [List.forall₂_map_left_iff, List.forall₂_same]
    exact fun line _ => padded_tidyLine line
  have hin := Style.isInfix_bare_lines hremovable (carry_decoratedLines h' s)
    (hplain.isClearIn hremovable hsame)
    (fun hspaces hafter => startsWhite_closing hremovable hclosing hspaces hafter more.flatten)
    (delimiterLines s.opening).flatten
  have hflat : (h.firstLines (h'.decorate s ++ rest)).flatten
      = (delimiterLines s.opening).flatten ++ ((h'.decoratedLines s).flatten
        ++ ((delimiterLines s.closing).flatten ++ more.flatten)) := by
    rw [hfirst, writtenLines]
    simp only [List.flatten_append, List.append_assoc]
  rw [← hflat, lines, squeeze_lines, hsame] at hin
  exact (isPresentLenient_iff hremovable hplain.noReference _ properties).mpr hin

/-- A header in another shape, in a style that fills its lines up and has comment syntax around each of
them; more of it follows in the file. -/
theorem lenient_of_rewrapped_filled :
    (Style.builtin "xml_per_line").IsBuiltin ∧
    Text.words "Copyright\tAcme Licensed\n\n   under\nMIT".toList
      = Text.words "Copyright Acme\nLicensed under MIT".toList ∧
    '\r' ∉ "Copyright\tAcme Licensed\n\n   under\nMIT".toList ∧
    (⟨"Copyright Acme\nLicensed under MIT".toList⟩ : HeaderTemplate).HasPlainWords
      (Style.builtin "xml_per_line") ∧
    ((⟨"Copyright\tAcme Licensed\n\n   under\nMIT".toList⟩ : HeaderTemplate).decorate
      (Style.builtin "xml_per_line")).lines.length
        ≤ (⟨"Copyright Acme\nLicensed under MIT".toList⟩ : HeaderTemplate).lines.length + 10 ∧
    (⟨"Copyright Acme\nLicensed under MIT".toList⟩ : HeaderTemplate).isPresent
      ((⟨"Copyright\tAcme Licensed\n\n   under\nMIT".toList⟩ : HeaderTemplate).decorate
        (Style.builtin "xml_per_line") ++ "--><!<!---->".toList)
      (Style.builtin "xml_per_line") [("MIT".toList, "x".toList)] false = .ok true := by
  have hbuiltin : (Style.builtin "xml_per_line").IsBuiltin :=
    Style.isBuiltin_builtin (by decide +kernel)
  have hplain : (⟨"Copyright Acme\nLicensed under MIT".toList⟩ : HeaderTemplate).HasPlainWords
      (Style.builtin "xml_per_line") := by
    have hall : (Text.words "Copyright Acme\nLicensed under MIT".toList).all
        (·.all fun c => decide ((Style.builtin "xml_per_line").Spares c)) = true := by decide +kernel
    intro word hword c hc
    exact of_decide_eq_true (List.all_eq_true.mp (List.all_eq_true.mp hall word hword) c hc)
  refine ⟨hbuiltin, by decide +kernel, by decide, hplain, by decide +kernel, ?_⟩
  exact lenient_of_rewrapped hbuiltin (by decide +kernel) (by decide) hplain (by decide +kernel) _ _

example : (⟨"Copyright\tAcme Licensed\n\n   under\nMIT".toList⟩ : HeaderTemplate).decorate
    (Style.builtin "xml_per_line")
      = ("\n<!-- Copyright\tAcme Licensed -->\n<!--                         -->\n"
        ++ "<!--    under                -->\n<!-- MIT                     -->\n\n").toList := by
  decide +kernel

end HeaderTemplate

end LicenseHeader
