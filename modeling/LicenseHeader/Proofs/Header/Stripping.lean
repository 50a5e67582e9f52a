import Mathlib.Data.List.Forall2
import LicenseHeader.Proofs.Header.Rendering
import LicenseHeader.Proofs.Text.Removal

/-!
# Taking the comment syntax out of a header

The lenient check takes the comment syntax of a style out of the first lines of a file, which are put
together without breaks, and then all white space.  This file says what it leaves of the lines of a
header: its words, if they do not look like comment syntax themselves.

* `Style.marks`: what is taken out;
* `Style.IsRemovable`: what is needed of a style;
* `Style.KeepsLine`: a line of a header text is not taken for comment syntax;
* `Style.bare_line_of_after_nil` and `Style.bare_line_of_after`: what is left of one line;
* `Style.isInfix_bare_lines`: what is left of the lines of a header, whatever stands around them.
-/

namespace LicenseHeader

open Text

namespace Style

/-- The texts of the comment syntax of a style that the lenient check takes out. -/
def marks (s : Style) : List Text :=
  ([s.opening, s.closing, s.before, s.after].map trim).filter fun d => d ≠ []

/-- Whether a space follows every line of a header: one that stands before the text after it, or else
the one with which the next line begins. -/
def spacesLines (s : Style) : Bool :=
  s.after.head? == some ' ' || (s.before.trimEnd.head? == some ' ' && s.closing.head? == some ' ')

/-- What stands after the lines of a header can be taken out: there is nothing, or it is a mark after
a space. -/
def EndsLines (s : Style) : Prop :=
  (s.after = [] ∧ s.pads = false ∧
    (s.before.trimEnd.head?.any isWhite = true ∨ s.before.trimEnd = [] ∨
      IsBrick s.marks s.before.trimEnd)) ∨
  (s.after.head? = some ' ' ∧ s.after.trimEnd = s.after ∧ IsBrick s.marks s.after.tail)

instance (s : Style) : Decidable s.EndsLines :=
  inferInstanceAs (Decidable ((s.after = [] ∧ s.pads = false ∧
      (s.before.trimEnd.head?.any isWhite = true ∨ s.before.trimEnd = [] ∨
        IsBrick s.marks s.before.trimEnd)) ∨
    (s.after.head? = some ' ' ∧ s.after.trimEnd = s.after ∧ IsBrick s.marks s.after.tail)))

/-- The comment syntax of a style can be taken out of the lines of a header. -/
structure IsRemovable (s : Style) : Prop where
  isPlain : s.IsPlain
  noWhite : ∀ d ∈ s.marks, d.any isWhite = false
  /-- White space stands before each line of the header text. -/
  lastWhite : s.before.getLast?.any isWhite = true
  beforeGoes : bare s.marks s.before = []
  endsLines : s.EndsLines
  closingStarts : s.closing.head? = some ' ' →
    (HeaderTemplate.delimiterLines s.closing).head?.any
      (fun l => (HeaderTemplate.tidyLine l).head? == some ' ') = true

instance (s : Style) : Decidable s.IsRemovable :=
  decidable_of_iff
    (s.IsPlain ∧ (∀ d ∈ s.marks, d.any isWhite = false) ∧
      s.before.getLast?.any isWhite = true ∧ bare s.marks s.before = [] ∧ s.EndsLines ∧
      (s.closing.head? = some ' ' → (HeaderTemplate.delimiterLines s.closing).head?.any
        (fun l => (HeaderTemplate.tidyLine l).head? == some ' ') = true))
    ⟨fun ⟨h₁, h₂, h₃, h₄, h₅, h₆⟩ => ⟨h₁, h₂, h₃, h₄, h₅, h₆⟩,
      fun ⟨h₁, h₂, h₃, h₄, h₅, h₆⟩ => ⟨h₁, h₂, h₃, h₄, h₅, h₆⟩⟩

theorem remove_filter (marks : List Text) (t : Text) :
    remove (marks.filter fun d => d ≠ []) t = remove marks t := by
  induction marks generalizing t with
  | nil => rfl
  | cons d marks ih =>
    by_cases hd : d = []
    · subst hd
      exact ih t
    · rw [List.filter_cons_of_pos (by simp [hd])]
      exact ih (t.replace d [])

theorem undecorate_eq_remove (s : Style) (t : Text) :
    HeaderTemplate.undecorate s t = remove s.marks t := by
  rw [marks, remove_filter]
  rfl

/-! ### The lines of a header in a style -/

/-- A line of the header text is not taken for comment syntax.  If no space need follow it, it does not
end with the beginning of a mark either. -/
def KeepsLine (s : Style) (line : Text) : Prop :=
  ∀ d ∈ s.marks, ¬d <:+: line ∧
    (s.spacesLines = false → ∀ p ∈ line.trimEnd.tails, p ≠ [] → ¬p <+: d)

instance (s : Style) (line : Text) : Decidable (s.KeepsLine line) :=
  inferInstanceAs (Decidable (∀ d ∈ s.marks, ¬d <:+: line ∧
    (s.spacesLines = false → ∀ p ∈ line.trimEnd.tails, p ≠ [] → ¬p <+: d)))

/-- A text begins with white space. -/
def StartsWhite (t : Text) : Prop := ∃ c rest, t = c :: rest ∧ isWhite c = true

theorem startsWhite_of_head? {t : Text} (h : t.head?.any isWhite = true) : StartsWhite t := by
  cases t with
  | nil => simp at h
  | cons c rest => exact ⟨c, rest, rfl, h⟩

theorem StartsWhite.append {t : Text} (h : StartsWhite t) (r : Text) : StartsWhite (t ++ r) := by
  obtain ⟨c, rest, rfl, hc⟩ := h
  exact ⟨c, rest ++ r, rfl, hc⟩

theorem StartsWhite.blank_append {blank r : Text} (hblank : blank.isBlank = true)
    (h : StartsWhite r) : StartsWhite (blank ++ r) := by
  cases blank with
  | nil => exact h
  | cons c rest =>
    simp only [isBlank, List.all_cons, Bool.and_eq_true] at hblank
    exact ⟨c, rest ++ r, rfl, hblank.1⟩

theorem squeeze_trimEnd (line : Text) : line.trimEnd.squeeze = line.squeeze := by
  obtain ⟨back, hback, hline⟩ := padded_trimEnd line
  conv => rhs; rw [hline, squeeze_append, squeeze_of_isBlank hback, List.append_nil]

theorem squeeze_flatten_of_isBlank {lines : List Text} (h : ∀ line ∈ lines, line.isBlank = true) :
    squeeze lines.flatten = [] := by
  induction lines with
  | nil => rfl
  | cons line lines ih =>
    rw [List.flatten_cons, squeeze_append, squeeze_of_isBlank (h line List.mem_cons_self),
      ih fun k hk => h k (List.mem_cons_of_mem line hk)]
    rfl

/-- What stands before a line is whole if the line has some text. -/
theorem before_isPrefix_decorateLine (s : Style) (width : Nat) {line : Text}
    (h : line.isBlank = false) : s.before <+: HeaderTemplate.decorateLine s width line := by
  have hin : line <:+: (if s.pads then HeaderTemplate.pad width line else line) ++ s.after := by
    split
    · exact ⟨[], List.replicate (width - line.length) ' ' ++ s.after, by simp [HeaderTemplate.pad]⟩
    · exact (List.prefix_append line s.after).isInfix
  rw [HeaderTemplate.decorateLine, List.append_assoc, trimEnd_append,
    isBlank_eq_false_of_isInfix h hin]
  exact List.prefix_append _ _

/-- The lines of a header as they stand in a file: with white space after them. -/
def Carry (s : Style) (width : Nat) (lines found : List Text) : Prop :=
  List.Forall₂ (fun line l => Padded (HeaderTemplate.decorateLine s width line) l) lines found

theorem startsWhite_lines {s : Style} {width : Nat} {lines found : List Text}
    (hfound : s.Carry width lines found) (hne : lines ≠ [])
    (h : s.before.trimEnd.head?.any isWhite = true) (r : Text) : StartsWhite (found.flatten ++ r) := by
  cases hfound with
  | nil => exact absurd rfl hne
  | @cons line l lines found hline _ =>
    obtain ⟨blank, -, rfl⟩ := hline
    have hstart : s.before.trimEnd <+: HeaderTemplate.decorateLine s width line := by
      rw [HeaderTemplate.decorateLine, List.append_assoc]
      exact trimEnd_isPrefix_append _ _
    obtain ⟨rest, hrest⟩ := hstart
    rw [List.flatten_cons, List.append_assoc, List.append_assoc, ← hrest, List.append_assoc]
    exact (startsWhite_of_head? h).append _

section Lines

variable {s : Style} (hs : s.IsRemovable) {width : Nat} {line blank r : Text}
include hs

/-- White space at the start of what follows a text cuts it off. -/
theorem bare_append_of_startsWhite (u : Text) (h : StartsWhite r) :
    bare s.marks (u ++ r) = bare s.marks u ++ bare s.marks r := by
  obtain ⟨c, rest, rfl, hc⟩ := h
  have hrest := bare_blank_append hs.noWhite (w := [c]) (by simp [isBlank, hc]) rest
  rw [bare_cut hs.noWhite hc, ← hrest]
  rfl

/-- What stands before a line of the header text goes, and cuts it off. -/
theorem exists_bare_append_before (u r : Text) :
    (∃ front, bare s.marks (u ++ (s.before ++ r)) = front ++ bare s.marks r) ∧
      bare s.marks (s.before ++ r) = bare s.marks r := by
  obtain ⟨c, hlast, hc⟩ : ∃ c, s.before.getLast? = some c ∧ isWhite c = true := by
    have hwhite := hs.lastWhite
    cases hlast : s.before.getLast? with
    | none => simp [hlast] at hwhite
    | some c =>
      rw [hlast] at hwhite
      exact ⟨c, rfl, hwhite⟩
  obtain ⟨front, hfront⟩ := List.getLast?_eq_some_iff.mp hlast
  have hnil : bare s.marks front = [] := by
    have hgoes := hs.beforeGoes
    rw [hfront, bare_cut hs.noWhite hc] at hgoes
    exact (List.append_eq_nil_iff.mp hgoes).1
  constructor
  · refine ⟨bare s.marks (u ++ front), ?_⟩
    rw [hfront, List.append_assoc, ← List.append_assoc u]
    exact bare_cut hs.noWhite hc (u ++ front) r
  · rw [hfront, List.append_assoc]
    have hcut := bare_cut hs.noWhite hc front r
    rw [hnil] at hcut
    exact hcut

/-- A line of the header text stays. -/
theorem bare_text_append (hkeeps : s.KeepsLine line) (hr : s.spacesLines = true → StartsWhite r) :
    bare s.marks (line.trimEnd ++ r) = line.squeeze ++ bare s.marks r := by
  have hnot : ∀ d ∈ s.marks, ¬d <:+: line.trimEnd := by
    intro d hd hin
    exact (hkeeps d hd).1 (hin.trans (trimEnd_isPrefix line).isInfix)
  cases hspaces : s.spacesLines with
  | true =>
    rw [bare_append_of_startsWhite hs _ (hr hspaces), bare, remove_of_not_isInfix hnot, squeeze_trimEnd]
  | false =>
    have hclear : ∀ d ∈ s.marks, IsClear d line.trimEnd := by
      intro d hd p hp hne
      refine ⟨(hkeeps d hd).2 hspaces p hp hne, fun hin => hnot d hd ?_⟩
      exact hin.isInfix.trans ((List.mem_tails p _).mp hp).isInfix
    rw [bare, remove_clear_append hclear, squeeze_append, squeeze_trimEnd]
    rfl

/-- What is left of a line without anything after the text. -/
theorem bare_line_of_after_nil (hafter : s.after = []) (hpads : s.pads = false)
    (hgoes : s.before.trimEnd.head?.any isWhite = true ∨ s.before.trimEnd = [] ∨
      IsBrick s.marks s.before.trimEnd)
    (hkeeps : s.KeepsLine line) (hblank : blank.isBlank = true)
    (hr : s.spacesLines = true → StartsWhite r)
    (hr' : line.isBlank = true → s.before.trimEnd.head?.any isWhite = true → StartsWhite r) :
    bare s.marks (HeaderTemplate.decorateLine s width line ++ (blank ++ r))
      = line.squeeze ++ bare s.marks r := by
  have hline : HeaderTemplate.decorateLine s width line = trimEnd (s.before ++ line) := by
    rw [HeaderTemplate.decorateLine, hafter, hpads, List.append_nil]
    rfl
  rw [hline, trimEnd_append]
  cases hempty : line.isBlank with
  | false =>
    rw [if_neg (by simp), List.append_assoc, (exists_bare_append_before hs [] _).2,
      bare_text_append hs hkeeps fun hspaces => (hr hspaces).blank_append hblank,
      bare_blank_append hs.noWhite hblank]
  | true =>
    rw [if_pos rfl, squeeze_of_isBlank hempty, List.nil_append, ← bare_blank_append hs.noWhite hblank r]
    rcases hgoes with hwhite | hnil | hbrick
    · have hnil : bare s.marks s.before.trimEnd = [] := by
        obtain ⟨back, hback, hbefore⟩ := padded_trimEnd s.before
        have hgoes := hs.beforeGoes
        rw [hbefore, bare_append_blank hs.noWhite hback] at hgoes
        exact hgoes
      rw [bare_append_of_startsWhite hs _ ((hr' hempty hwhite).blank_append hblank), hnil]
      rfl
    · rw [hnil]
      rfl
    · rw [bare, remove_brick_append hbrick]
      rfl

/-- What is left of a line with a mark after the text. -/
theorem bare_line_of_after (hspace : s.after.head? = some ' ') (htrim : s.after.trimEnd = s.after)
    (hbrick : IsBrick s.marks s.after.tail) (hkeeps : s.KeepsLine line)
    (hblank : blank.isBlank = true) :
    bare s.marks (HeaderTemplate.decorateLine s width line ++ (blank ++ r))
      = line.squeeze ++ bare s.marks r := by
  obtain ⟨mark, hmark⟩ : ∃ mark, s.after = ' ' :: mark := by
    cases hafter : s.after with
    | nil => simp [hafter] at hspace
    | cons c mark =>
      rw [hafter] at hspace
      exact ⟨mark, by rw [Option.some.inj hspace]⟩
  have hink : s.after.isBlank = false := by
    rw [← Bool.not_eq_true, ← trimEnd_eq_nil_iff, htrim, hmark]
    simp
  obtain ⟨spaces, hspaces, htext⟩ : ∃ spaces : Text, spaces.isBlank = true ∧
      (if s.pads then HeaderTemplate.pad width line else line) = line ++ spaces := by
    split
    · refine ⟨_, ?_, rfl⟩
      rw [isBlank, List.all_eq_true]
      intro c hc
      rw [List.eq_of_mem_replicate hc]
      decide
    · exact ⟨[], rfl, (List.append_nil line).symm⟩
  have hline : HeaderTemplate.decorateLine s width line = s.before ++ (line ++ spaces ++ ' ' :: mark) := by
    rw [HeaderTemplate.decorateLine, htext, trimEnd_append, hink, htrim, hmark, List.append_assoc]
    rfl
  have hgoes : bare s.marks (mark ++ (blank ++ r)) = bare s.marks r := by
    rw [hmark, List.tail_cons] at hbrick
    rw [bare, remove_brick_append hbrick]
    exact bare_blank_append hs.noWhite hblank r
  have hkept : bare s.marks line = line.squeeze := by
    rw [bare, remove_of_not_isInfix fun d hd => (hkeeps d hd).1]
  rw [hline, List.append_assoc, (exists_bare_append_before hs [] _).2, List.append_assoc _ (' ' :: mark)]
  show bare s.marks (line ++ spaces ++ ' ' :: (mark ++ (blank ++ r))) = _
  rw [bare_cut hs.noWhite (by decide), hgoes, bare_append_blank hs.noWhite hspaces, hkept]

/-- The words of a header are left of its written lines, before whatever follows them. -/
theorem exists_bare_lines {lines found : List Text} (hfound : s.Carry width lines found)
    (hkeeps : ∀ line ∈ lines, s.KeepsLine line)
    (hr : s.spacesLines = true → s.after = [] → StartsWhite r) :
    ∃ rest, bare s.marks (found.flatten ++ r) = squeeze lines.flatten ++ rest := by
  induction hfound with
  | nil => exact ⟨bare s.marks r, rfl⟩
  | @cons line l lines found hline hlines ih =>
    obtain ⟨rest, hrest⟩ := ih fun k hk => hkeeps k (List.mem_cons_of_mem line hk)
    by_cases hblanks : ∀ k ∈ line :: lines, k.isBlank = true
    · refine ⟨bare s.marks ((l :: found).flatten ++ r), ?_⟩
      rw [squeeze_flatten_of_isBlank hblanks, List.nil_append]
    · obtain ⟨blank, hblank, rfl⟩ := hline
      have hkeep := hkeeps line List.mem_cons_self
      have hstep : bare s.marks (HeaderTemplate.decorateLine s width line
          ++ (blank ++ (found.flatten ++ r))) = line.squeeze ++ bare s.marks (found.flatten ++ r) := by
        rcases hs.endsLines with ⟨hafter, hpads, hgoes⟩ | ⟨hspace, htrim, hbrick⟩
        · refine bare_line_of_after_nil hs hafter hpads hgoes hkeep hblank (fun hspaces => ?_)
            fun hempty hwhite => ?_
          · by_cases hnil : lines = []
            · subst hnil
              cases hlines
              exact hr hspaces hafter
            · have hwhite : s.before.trimEnd.head?.any isWhite = true := by
                simp only [spacesLines, hafter, List.head?_nil, Bool.or_eq_true, Bool.and_eq_true,
                  beq_iff_eq] at hspaces
                rw [(hspaces.resolve_left (by simp)).1]
                decide
              exact startsWhite_lines hlines hnil hwhite r
          · refine startsWhite_lines hlines (fun hnil => hblanks ?_) hwhite r
            rw [hnil]
            simp [hempty]
        · exact bare_line_of_after hs hspace htrim hbrick hkeep hblank
      refine ⟨rest, ?_⟩
      rw [List.flatten_cons, List.append_assoc, List.append_assoc, hstep, hrest, List.flatten_cons,
        squeeze_append, List.append_assoc]

/-- **The words of a header are left of its written lines**, whatever stands around them. -/
theorem isInfix_bare_lines {lines found : List Text} (hfound : s.Carry width lines found)
    (hkeeps : ∀ line ∈ lines, s.KeepsLine line)
    (hr : s.spacesLines = true → s.after = [] → StartsWhite r) (u : Text) :
    squeeze lines.flatten <:+: bare s.marks (u ++ (found.flatten ++ r)) := by
  induction hfound generalizing u with
  | nil => exact List.nil_infix
  | @cons line l lines found hline hlines ih =>
    obtain ⟨rest, hrest⟩ := exists_bare_lines hs (.cons hline hlines) hkeeps hr
    by_cases hstart : s.before <+: l
    · -- the text before the first line cuts it off
      obtain ⟨text, rfl⟩ := hstart
      have hflat : ((s.before ++ text) :: found).flatten ++ r
          = s.before ++ (text ++ (found.flatten ++ r)) := by
        simp
      obtain ⟨⟨front, hfront⟩, hsame⟩ := exists_bare_append_before hs u (text ++ (found.flatten ++ r))
      rw [hflat, hsame] at hrest
      rw [hflat, hfront, hrest]
      exact ⟨front, rest, List.append_assoc _ _ _⟩
    · -- only a line without text has been cut short, and it leaves nothing
      have hempty : line.squeeze = [] := by
        obtain ⟨blank, -, rfl⟩ := hline
        cases hblank : line.isBlank with
        | true => exact squeeze_of_isBlank hblank
        | false =>
          have hbefore := before_isPrefix_decorateLine s width hblank
          exact absurd (hbefore.trans (List.prefix_append _ blank)) hstart
      have hlater := ih (fun k hk => hkeeps k (List.mem_cons_of_mem line hk)) (u ++ l)
      rw [List.flatten_cons, squeeze_append, hempty, List.nil_append, List.flatten_cons,
        List.append_assoc, ← List.append_assoc u]
      exact hlater

end Lines

end Style

end LicenseHeader
