import LicenseHeader.Header.Template
import LicenseHeader.Proofs.Text.Lines
import Mathlib.Data.List.Chain

/-!
# What a rendered header looks like

A header is written line by line: the lines of the opening, one line for each line of the header text,
and the lines of the closing.  This file makes the list of these lines explicit and reads the two
checks that matter off it.

* `decorate_eq_ofLines`: the decorated header is the text of `writtenLines`;
* `render_eq_decorate`: rendering changes nothing if the header text has no references;
* `isPresentStrict_of_lines_eq`: a file whose first lines are the written lines passes the strict
  check, as long as they fit into the lines that it looks at.

`Style.IsPlain` is what is asked of the texts of a style.
-/

namespace LicenseHeader

open Text

/-! ### Texts without references -/

namespace Text

/-- No dollar sign has an opening brace after it, so no reference begins anywhere. -/
def NoReference (t : Text) : Prop := t.IsChain fun a b => a = '$' → b ≠ '{'

theorem noReference_iff {t : Text} : t.NoReference ↔ isIn ['$', '{'] t = false := by
  rw [NoReference, List.isChain_iff_forall_rel_of_append_cons_cons, ← Bool.not_eq_true,
    isIn_iff_isInfix]
  constructor
  · rintro h ⟨front, back, rfl⟩
    exact @h '$' '{' front back (by simp) rfl rfl
  · rintro h a b front back rfl rfl rfl
    exact h ⟨front, back, by simp⟩

theorem noReference_of_no_dollar {t : Text} (h : '$' ∉ t) : t.NoReference := by
  rw [NoReference, List.isChain_iff_forall_rel_of_append_cons_cons]
  rintro a b front back rfl rfl
  exact absurd (by simp) h

theorem NoReference.of_isInfix {s t : Text} (h : t.NoReference) (hs : s <:+: t) : s.NoReference :=
  List.IsChain.infix h hs

/-- A reference across the seam of two texts needs a brace at the start of the second. -/
theorem NoReference.append_of_head {s t : Text} (hs : s.NoReference) (ht : t.NoReference)
    (h : t.head? ≠ some '{') : (s ++ t).NoReference := by
  refine List.IsChain.append hs ht ?_
  rintro a - b hb - rfl
  exact h hb

/-- A reference across the seam of two texts needs a dollar sign at the end of the first. -/
theorem NoReference.append_of_last {s t : Text} (hs : s.NoReference) (ht : t.NoReference)
    (h : s.getLast? ≠ some '$') : (s ++ t).NoReference := by
  refine List.IsChain.append hs ht ?_
  rintro a ha b - rfl
  exact absurd ha h

theorem noReference_ofLines {ls : List Text} (h : ∀ l ∈ ls, l.NoReference) :
    (ofLines ls).NoReference := by
  induction ls with
  | nil => exact List.IsChain.nil
  | cons l ls ih =>
    have hline : (l ++ ['\n']).NoReference :=
      (h l List.mem_cons_self).append_of_head (List.IsChain.singleton _) (by simp)
    have hrest := ih fun k hk => h k (List.mem_cons_of_mem _ hk)
    exact hline.append_of_last hrest (by simp)

end Text

theorem Piece.splitFrom_of_noReference {t : Text} (h : t.NoReference) :
    Piece.splitFrom 0 t = t.map Piece.char := by
  induction t with
  | nil => rfl
  | cons c t ih =>
    have hkey : Piece.key? (c :: t) = none := by
      unfold Piece.key?
      split
      · rename_i hstart
        obtain ⟨rfl, rfl⟩ := List.cons.inj hstart
        exact absurd rfl ((List.isChain_cons_cons.mp h).1 rfl)
      · rfl
    have hrest : Text.NoReference t := h.of_isInfix (List.suffix_cons c t).isInfix
    rw [Piece.splitFrom, hkey, ih hrest]
    rfl

theorem writePieces_chars (write : Text → Except PropertyCycle Text) (t : Text) :
    writePieces write (t.map Piece.char) = .ok t := by
  induction t with
  | nil => rfl
  | cons c t ih =>
    rw [List.map_cons, writePieces, ih]
    rfl

/-- Expansion leaves a text without references as it is, whatever the properties are. -/
theorem Properties.expand_of_noReference (properties : Properties) {t : Text}
    (h : t.NoReference) : properties.expand t = .ok t := by
  rw [Properties.expand, Piece.split, Piece.splitFrom_of_noReference h, writePieces_chars]

/-! ### The lines of a decorated header -/

/-- The texts of a style can be written line by line without adding breaks or references. -/
structure Style.IsPlain (s : Style) : Prop where
  noReturn : '\r' ∉ s.opening ++ s.closing ++ s.before ++ s.after
  noDollar : '$' ∉ s.opening ++ s.closing ++ s.before ++ s.after
  noFeed : '\n' ∉ s.before ++ s.after
  noBrace : s.after.head? ≠ some '{'

instance (s : Style) : Decidable s.IsPlain :=
  decidable_of_iff
    ('\r' ∉ s.opening ++ s.closing ++ s.before ++ s.after ∧
      '$' ∉ s.opening ++ s.closing ++ s.before ++ s.after ∧
      '\n' ∉ s.before ++ s.after ∧ s.after.head? ≠ some '{')
    ⟨fun ⟨h₁, h₂, h₃, h₄⟩ => ⟨h₁, h₂, h₃, h₄⟩, fun ⟨h₁, h₂, h₃, h₄⟩ => ⟨h₁, h₂, h₃, h₄⟩⟩

namespace HeaderTemplate

/-- The lines that an opening or a closing is written as. -/
def delimiterLines (t : Text) : List Text :=
  if t = [] then [] else if t = ['\n'] then [[]] else splitAt '\n' t

/-- The lines of the header text in a style. -/
def decoratedLines (h : HeaderTemplate) (s : Style) : List Text :=
  h.lines.map (decorateLine s h.width)

/-- All lines of the header in a style. -/
def writtenLines (h : HeaderTemplate) (s : Style) : List Text :=
  delimiterLines s.opening ++ h.decoratedLines s ++ delimiterLines s.closing

theorem delimiter_eq_ofLines (t : Text) : delimiter t = ofLines (delimiterLines t) := by
  unfold delimiter delimiterLines
  split
  · rfl
  · split
    · rename_i ht
      rw [ht]
      rfl
    · exact (flatMap_splitAt '\n' t).symm

/-- **A decorated header is the text of its written lines.** -/
theorem decorate_eq_ofLines (h : HeaderTemplate) (s : Style) :
    h.decorate s = ofLines (h.writtenLines s) := by
  rw [decorate, writtenLines, ofLines_append, ofLines_append, delimiter_eq_ofLines,
    delimiter_eq_ofLines]
  congr 2
  rw [ofLines, decoratedLines, List.flatMap_map]

theorem mem_of_mem_delimiterLines {t l : Text} {c : Char} (hl : l ∈ delimiterLines t) (hc : c ∈ l) :
    c ∈ t ∧ c ≠ '\n' := by
  unfold delimiterLines at hl
  split at hl
  · simp at hl
  · split at hl
    · rw [List.mem_singleton] at hl
      rw [hl] at hc
      simp at hc
    · exact ⟨mem_of_mem_splitAt hl hc, fun e => not_mem_of_mem_splitAt hl (e ▸ hc)⟩

theorem mem_pad {width : Nat} {line : Text} {c : Char} (h : c ∈ pad width line) :
    c ∈ line ∨ c = ' ' := by
  rcases List.mem_append.mp h with h | h
  · exact Or.inl h
  · exact Or.inr (List.eq_of_mem_replicate h)

/-- A decorated line is made of the texts of the style, the line, and spaces. -/
theorem mem_decorateLine {s : Style} {width : Nat} {line : Text} {c : Char}
    (h : c ∈ decorateLine s width line) : c ∈ s.before ++ s.after ∨ c ∈ line ∨ c = ' ' := by
  have hc := (trimEnd_isPrefix _).subset h
  simp only [List.mem_append] at hc ⊢
  rcases hc with (hc | hc) | hc
  · exact Or.inl (Or.inl hc)
  · split at hc
    · exact Or.inr (mem_pad hc)
    · exact Or.inr (Or.inl hc)
  · exact Or.inl (Or.inr hc)

theorem areLines_delimiterLines {t : Text} (h : '\r' ∉ t) : AreLines (delimiterLines t) := by
  intro l hl
  refine ⟨fun hc => (mem_of_mem_delimiterLines hl hc).2 rfl, fun hc => ?_⟩
  exact h (mem_of_mem_delimiterLines hl hc).1

theorem areLines_decoratedLines {h : HeaderTemplate} {s : Style} (hs : s.IsPlain)
    (hreturn : '\r' ∉ h.text) : AreLines (h.decoratedLines s) := by
  intro l hl
  obtain ⟨line, hline, rfl⟩ := List.mem_map.mp hl
  have hsource := areLines_lines hreturn line hline
  constructor
  · intro hc
    rcases mem_decorateLine hc with hc | hc | hc
    · exact hs.noFeed hc
    · exact hsource.1 hc
    · exact absurd hc (by decide)
  · intro hc
    rcases mem_decorateLine hc with hc | hc | hc
    · refine hs.noReturn ?_
      rw [List.append_assoc]
      exact List.mem_append_right _ hc
    · exact hsource.2 hc
    · exact absurd hc (by decide)

/-- The written lines of a header can be read back. -/
theorem areLines_writtenLines {h : HeaderTemplate} {s : Style} (hs : s.IsPlain)
    (hreturn : '\r' ∉ h.text) : AreLines (h.writtenLines s) := by
  have hopen : '\r' ∉ s.opening := fun m => hs.noReturn (by simp [m])
  have hclose : '\r' ∉ s.closing := fun m => hs.noReturn (by simp [m])
  intro l hl
  rw [writtenLines, List.mem_append, List.mem_append] at hl
  rcases hl with (hl | hl) | hl
  · exact areLines_delimiterLines hopen l hl
  · exact areLines_decoratedLines hs hreturn l hl
  · exact areLines_delimiterLines hclose l hl

/-! ### Rendering without references -/

theorem noReference_pad {width : Nat} {line : Text} (h : line.NoReference) :
    (pad width line).NoReference := by
  have hspaces : NoReference (List.replicate (width - line.length) ' ') := by
    refine noReference_of_no_dollar fun hd => ?_
    exact absurd (List.eq_of_mem_replicate hd) (by decide)
  refine h.append_of_head hspaces fun hb => ?_
  exact absurd (List.eq_of_mem_replicate (List.mem_of_head? hb)) (by decide)

theorem noReference_decorateLine {s : Style} (hs : s.IsPlain) {width : Nat} {line : Text}
    (h : line.NoReference) : (decorateLine s width line).NoReference := by
  have hbefore : '$' ∉ s.before := fun m => hs.noDollar (by simp [m])
  have hafter : '$' ∉ s.after := fun m => hs.noDollar (by simp [m])
  have hline : (if s.pads then pad width line else line).NoReference := by
    split
    · exact noReference_pad h
    · exact h
  have hfront := (noReference_of_no_dollar hbefore).append_of_last hline
    fun hd => hbefore (List.mem_of_getLast? hd)
  have hwhole := hfront.append_of_head (noReference_of_no_dollar hafter) hs.noBrace
  exact hwhole.of_isInfix (trimEnd_isPrefix _).isInfix

theorem noReference_decorate {h : HeaderTemplate} {s : Style} (hs : s.IsPlain)
    (href : h.text.NoReference) : (h.decorate s).NoReference := by
  have hdelimiter : ∀ t : Text, '$' ∉ t → ∀ l ∈ delimiterLines t, l.NoReference := by
    intro t ht l hl
    exact noReference_of_no_dollar fun hd => ht (mem_of_mem_delimiterLines hl hd).1
  rw [decorate_eq_ofLines]
  refine noReference_ofLines fun l hl => ?_
  rw [writtenLines, List.mem_append, List.mem_append] at hl
  rcases hl with (hl | hl) | hl
  · exact hdelimiter s.opening (fun m => hs.noDollar (by simp [m])) l hl
  · obtain ⟨line, hline, rfl⟩ := List.mem_map.mp hl
    exact noReference_decorateLine hs (href.of_isInfix (isInfix_of_mem_lines hline))
  · exact hdelimiter s.closing (fun m => hs.noDollar (by simp [m])) l hl

/-- **Rendering a header without references.**  It is the decorated header, for all properties. -/
theorem render_eq_decorate {h : HeaderTemplate} {s : Style} (hs : s.IsPlain)
    (href : h.text.NoReference) (properties : Properties) :
    h.render s properties = .ok (h.decorate s) :=
  properties.expand_of_noReference (noReference_decorate hs href)

/-! ### The strict check -/

theorem tidyParts_append (ls : List Text) {parts : List Text} (h : parts ≠ []) :
    tidyParts (ls ++ parts) = ls.map tidyLine ++ tidyParts parts := by
  induction ls with
  | nil => rfl
  | cons l ls ih =>
    have hne : ls ++ parts ≠ [] := by simp [h]
    rw [List.cons_append, tidyParts, ih]
    · rfl
    · exact hne

theorem tidyParts_ne_nil {parts : List Text} (h : parts ≠ []) : tidyParts parts ≠ [] := by
  match parts, h with
  | [_], _ => simp [tidyParts]
  | _ :: _ :: _, _ => simp [tidyParts]

/-- Joining texts of which some are left: the first ones are written as lines. -/
theorem joinWith_append (ls : List Text) {parts : List Text} (h : parts ≠ []) :
    joinWith ['\n'] (ls ++ parts) = ofLines ls ++ joinWith ['\n'] parts := by
  induction ls with
  | nil => rfl
  | cons l ls ih =>
    cases hrest : ls ++ parts with
    | nil => exact absurd (List.append_eq_nil_iff.mp hrest).2 h
    | cons k ks =>
      rw [List.cons_append, hrest, joinWith, ← hrest, ih]
      simp [ofLines]

theorem joinWith_append_feed {ls : List Text} (h : ls ≠ []) :
    joinWith ['\n'] ls ++ ['\n'] = ofLines ls := by
  conv => lhs; rw [← List.dropLast_append_getLast h, joinWith_append _ (by simp)]
  conv => rhs; rw [← List.dropLast_append_getLast h, ofLines_append]
  simp [joinWith, ofLines]

/-- Tidying works line by line: what follows whole lines does not matter for them. -/
theorem tidy_ofLines_append {ls : List Text} (h : ∀ l ∈ ls, '\n' ∉ l) (t : Text) :
    tidy (ofLines ls ++ t) = ofLines (ls.map tidyLine) ++ tidy t := by
  rw [tidy, ofLines, splitAt_flatMap h, tidyParts_append _ (splitAt_ne_nil '\n' t),
    joinWith_append _ (tidyParts_ne_nil (splitAt_ne_nil '\n' t))]
  rfl

/-- **The strict check accepts a written header.**  It holds of every file whose first lines are
the written lines of the header, if no more of them than the extra lines stand around the text. -/
theorem isPresentStrict_of_lines_eq {h : HeaderTemplate} {s : Style} (hs : s.IsPlain)
    (hreturn : '\r' ∉ h.text) (href : h.text.NoReference)
    (hwindow : (h.writtenLines s).length ≤ h.lines.length + extraLines)
    {file : Text} {rest : List Text} (hfile : file.lines = h.writtenLines s ++ rest)
    (properties : Properties) : h.isPresentStrict file s properties = .ok true := by
  have hlines : ∀ l ∈ h.writtenLines s, '\n' ∉ l := fun l hl =>
    (areLines_writtenLines hs hreturn l hl).1
  have hexpected : tidy (h.decorate s) = ofLines ((h.writtenLines s).map tidyLine) := by
    have htidy := tidy_ofLines_append hlines []
    rw [List.append_nil] at htidy
    rw [decorate_eq_ofLines, htidy]
    exact List.append_nil _
  obtain ⟨more, hmore⟩ : ∃ more, h.firstLines file = h.writtenLines s ++ more := by
    rw [firstLines, hfile, List.take_append, List.take_of_length_le hwindow]
    exact ⟨_, rfl⟩
  have hfound : ∃ after, joinWith ['\n'] (h.firstLines file) ++ ['\n', '\n']
      = ofLines (h.writtenLines s) ++ after := by
    rw [hmore]
    by_cases hnil : h.writtenLines s ++ more = []
    · rw [hnil, (List.append_eq_nil_iff.mp hnil).1]
      exact ⟨_, rfl⟩
    · rw [show ['\n', '\n'] = ['\n'] ++ ['\n'] from rfl, ← List.append_assoc,
        joinWith_append_feed hnil, ofLines_append, List.append_assoc]
      exact ⟨_, rfl⟩
  obtain ⟨after, hafter⟩ := hfound
  have hin : (tidy (h.decorate s)).isIn
      (tidy (joinWith ['\n'] (h.firstLines file) ++ ['\n', '\n'])) = true := by
    rw [hafter, tidy_ofLines_append hlines, hexpected, isIn_iff_isInfix]
    exact List.infix_append_left
  rw [isPresentStrict, render_eq_decorate hs href]
  exact congrArg Except.ok hin

end HeaderTemplate

end LicenseHeader
