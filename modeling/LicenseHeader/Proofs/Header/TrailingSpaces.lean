import LicenseHeader.Proofs.Header.Expansion
import LicenseHeader.Proofs.Header.Lenient
import Mathlib.Data.List.DropRight

/-!
# Spaces at the ends of lines

The strict check leaves out the spaces at the ends of the lines of a file, and whether its lines end with
line feeds or with carriage returns before them.  Otherwise it sees the first lines of the file as they
are: two files that differ in anything else are told apart by some header.

* `Text.PairsReturns`: carriage returns stand only before line feeds;
* `HeaderTemplate.seen`: the lines that the check looks at, without spaces at their ends;
* `isPresent_strict`: the check looks for the rendered header in these lines;
* `render_tallReference`: every text is what a header renders to, and the header has as many lines as
  wanted;
* `strict_ignores_spaces` is the result.
-/

namespace LicenseHeader

open Text

/-! ### Lines without spaces at their ends -/

namespace Text

/-- The text without the spaces at its end. -/
def trimSpaces (t : Text) : Text := t.rdropWhile (· == ' ')

/-- The lines of a text, without the spaces at their ends and with line feeds between them. -/
def trimmed (t : Text) : Text := joinWith ['\n'] (t.lines.map trimSpaces)

/-- Every carriage return stands before a line feed. -/
def PairsReturns (t : Text) : Prop :=
  ∀ front back, t = front ++ '\r' :: back → ∃ rest, back = '\n' :: rest

theorem pairsReturns_cons {c : Char} {t : Text} :
    PairsReturns (c :: t) ↔ (c = '\r' → t.head? = some '\n') ∧ t.PairsReturns := by
  constructor
  · intro h
    constructor
    · rintro rfl
      obtain ⟨rest, rfl⟩ := h [] t rfl
      rfl
    · intro front back ht
      exact h (c :: front) back (by rw [ht]; rfl)
  · rintro ⟨hfirst, htail⟩ front back ht
    cases front with
    | nil =>
      obtain ⟨rfl, rfl⟩ := List.cons.inj ht
      exact List.head?_eq_some_iff.mp (hfirst rfl)
    | cons d front => exact htail front back (List.cons.inj ht).2

instance decidablePairsReturns : DecidablePred PairsReturns
  | [] => isTrue fun front back h => by simp at h
  | _ :: t =>
    have := decidablePairsReturns t
    decidable_of_iff _ pairsReturns_cons.symm

theorem noReturn_prepend {c : Char} (hc : c ≠ '\r') {ls : List Line}
    (h : ∀ l ∈ ls, '\r' ∉ l.content) : ∀ l ∈ Line.prepend c ls, '\r' ∉ l.content := by
  cases ls with
  | nil =>
    rw [Line.prepend, if_neg hc, List.forall_mem_singleton]
    simpa [Line.content] using Ne.symm hc
  | cons first rest =>
    obtain ⟨hfirst, hrest⟩ := List.forall_mem_cons.mp h
    obtain ⟨body, ending⟩ := first
    have hcontent : Line.content ⟨c :: body, ending⟩ = c :: Line.content ⟨body, ending⟩ := by
      cases ending <;> rfl
    rw [Line.prepend, if_neg fun hand => hc hand.2.1, List.forall_mem_cons, hcontent]
    exact ⟨List.not_mem_cons_of_ne_of_not_mem (Ne.symm hc) hfirst, hrest⟩

/-- No line of such a text has a carriage return in it.  Induction on the text: a carriage return goes with
the line feed behind it. -/
theorem PairsReturns.noReturn {t : Text} (h : t.PairsReturns) :
    ∀ l ∈ Line.split t, '\r' ∉ l.content := by
  induction t with
  | nil => simp [Line.split]
  | cons c t ih =>
    obtain ⟨hnext, htail⟩ := pairsReturns_cons.mp h
    rw [Line.split]
    by_cases hfeed : c = '\n'
    · rw [if_pos hfeed, List.forall_mem_cons]
      exact ⟨by simp [Line.content], ih htail⟩
    · rw [if_neg hfeed]
      by_cases hreturn : c = '\r'
      · obtain ⟨rest, rfl⟩ := List.head?_eq_some_iff.mp (hnext hreturn)
        have hlines := ih htail
        rw [Line.split, if_pos rfl, List.forall_mem_cons] at hlines
        rw [Line.split, if_pos rfl, Line.prepend, if_pos ⟨rfl, hreturn, rfl⟩, List.forall_mem_cons]
        exact ⟨by simp [Line.content], hlines.2⟩
      · exact noReturn_prepend hreturn (ih htail)

theorem PairsReturns.noReturn_lines {t : Text} (h : t.PairsReturns) : ∀ l ∈ t.lines, '\r' ∉ l := by
  intro l hl
  rw [lines_eq] at hl
  obtain ⟨line, hline, rfl⟩ := List.mem_map.mp hl
  exact h.noReturn line hline

/-- Of two different texts one is not in the other, if the same follows both. -/
theorem isIn_append_ne {t u : Text} (hne : t ≠ u) (back : Text) (hin : (t ++ back).isIn (u ++ back) = true) :
    (u ++ back).isIn (t ++ back) = false := by
  rw [Bool.eq_false_iff]
  intro hback
  rw [isIn_iff_isInfix] at hin hback
  have hlength : (t ++ back).length = (u ++ back).length := Nat.le_antisymm hin.length_le hback.length_le
  exact hne (List.append_cancel_right (hin.eq_of_length hlength))

end Text

namespace HeaderTemplate

theorem tidyLine_eq_trimSpaces {l : Text} (h : '\r' ∉ l) : tidyLine l = l.trimSpaces := by
  have hlast : l.getLast? ≠ some '\r' := fun hlast => h (List.mem_of_getLast? hlast)
  rw [tidyLine, if_neg hlast]
  rfl

theorem tidy_joinWith {ls : List Text} (h : ∀ l ∈ ls, '\n' ∉ l) :
    tidy (Text.joinWith ['\n'] ls ++ ['\n', '\n']) =
      Text.joinWith ['\n'] (ls.map tidyLine) ++ ['\n', '\n'] := by
  by_cases hnil : ls = []
  · rw [hnil]
    decide
  · have hmapped : ls.map tidyLine ≠ [] := by simpa using hnil
    have hfeeds : ['\n', '\n'] = ['\n'] ++ ['\n'] := rfl
    rw [hfeeds, ← List.append_assoc, joinWith_append_feed hnil, tidy_ofLines_append h,
      ← List.append_assoc, joinWith_append_feed hmapped]
    rfl

/-- The lines of a file that the strict check looks at, without spaces at their ends and with line feeds
between them. -/
def seen (h : HeaderTemplate) (file : Text) : Text :=
  Text.joinWith ['\n'] ((file.lines.map Text.trimSpaces).take (h.lines.length + extraLines))

variable {h : HeaderTemplate} {s : Style} {properties : Properties} {file : Text}

/-- **The strict check looks for the rendered header in the seen lines.** -/
theorem isPresent_strict (hfile : file.PairsReturns) :
    h.isPresent file s properties true =
      (h.render s properties).map fun expected => (tidy expected).isIn (h.seen file ++ ['\n', '\n']) := by
  have hfeeds : ∀ l ∈ h.firstLines file, '\n' ∉ l := fun l hl =>
    noFeed_of_mem_lines (List.mem_of_mem_take hl)
  have hlines : (h.firstLines file).map tidyLine =
      (file.lines.map Text.trimSpaces).take (h.lines.length + extraLines) := by
    rw [← List.map_take]
    exact List.map_congr_left fun l hl =>
      tidyLine_eq_trimSpaces (hfile.noReturn_lines l (List.mem_of_mem_take hl))
  rw [isPresent, if_pos rfl, isPresentStrict, tidy_joinWith hfeeds, hlines]
  rfl

/-- What is seen of a file is tidy. -/
theorem tidy_trimmed (hfile : file.PairsReturns) :
    tidy (file.trimmed ++ ['\n', '\n']) = file.trimmed ++ ['\n', '\n'] := by
  have hpart : ∀ l ∈ file.lines.map trimSpaces, ∃ line ∈ file.lines, l = line.trimSpaces ∧ l <+: line := by
    intro l hl
    obtain ⟨line, hline, rfl⟩ := List.mem_map.mp hl
    exact ⟨line, hline, rfl, List.rdropWhile_prefix _ _⟩
  have hfeeds : ∀ l ∈ file.lines.map trimSpaces, '\n' ∉ l := by
    intro l hl hfeed
    obtain ⟨line, hline, -, hfront⟩ := hpart l hl
    exact noFeed_of_mem_lines hline (hfront.subset hfeed)
  have htidy : (file.lines.map trimSpaces).map tidyLine = file.lines.map trimSpaces := by
    refine (List.map_congr_left ?_).trans (List.map_id _)
    intro l hl
    obtain ⟨line, hline, htrim, hfront⟩ := hpart l hl
    have hreturn : '\r' ∉ l := fun hr => hfile.noReturn_lines line hline (hfront.subset hr)
    rw [tidyLine_eq_trimSpaces hreturn, htrim]
    exact List.rdropWhile_idempotent _ _
  rw [trimmed, tidy_joinWith hfeeds, htidy]

end HeaderTemplate

/-! ### A header that is any text -/

/-- A text stays as it is if nothing is put for the references in it, whose keys are shorter than it. -/
theorem writePieces_of_unknown {write : Text → Except PropertyCycle Text} {t : Text} {pieces : List Piece}
    (hreads : Piece.Reads t pieces)
    (hwrite : ∀ key : Text, key.length < t.length → write key = .ok (Piece.text (.reference key))) :
    writePieces write pieces = .ok t := by
  induction hreads with
  | nil => rfl
  | @reference key t pieces _ _ ih =>
    have hkey : key.length < (Piece.text (.reference key) ++ t).length := by
      simp only [Piece.text, List.length_append, List.length_cons]
      omega
    have htail : writePieces write pieces = .ok t := by
      refine ih fun other hother => hwrite other ?_
      rw [List.length_append]
      omega
    rw [writePieces, hwrite key hkey, htail]
    rfl
  | @char c t pieces _ _ ih =>
    have htail : writePieces write pieces = .ok t := by
      refine ih fun other hother => hwrite other ?_
      rw [List.length_cons]
      omega
    rw [writePieces, htail]
    rfl

namespace HeaderTemplate

variable {file other : Text}

/-- A key of line feeds. -/
def feedKey (n : Nat) : Text := List.replicate (n + 1) '\n'

/-- The lines of a reference whose key is made up of line feeds. -/
def tallLines (n : Nat) : List Text := ['$', '{'] :: (List.replicate n [] ++ [['}']])

/-- A header that is one reference.  It has as many lines as wanted, since the key of the reference has
them. -/
def tallReference (n : Nat) : HeaderTemplate := ⟨ofLines (tallLines n)⟩

theorem eq_of_mem_tallLines {n : Nat} {l : Text} (hl : l ∈ tallLines n) :
    l = ['$', '{'] ∨ l = [] ∨ l = ['}'] := by
  rw [tallLines, List.mem_cons, List.mem_append, List.mem_replicate, List.mem_singleton] at hl
  exact hl.imp_right (Or.imp_left And.right)

theorem lines_tallReference (n : Nat) : (tallReference n).lines = tallLines n := by
  apply lines_ofLines
  intro l hl
  rcases eq_of_mem_tallLines hl with rfl | rfl | rfl <;> decide

theorem text_tallReference (n : Nat) :
    (tallReference n).text = Piece.text (.reference (feedKey n)) ++ ['\n'] := by
  have hfeeds : (List.replicate n ([] : Text)).flatMap (· ++ ['\n']) = List.replicate n '\n' := by
    rw [List.flatMap_replicate]
    exact List.flatten_replicate_singleton
  rw [tallReference, ofLines, tallLines, List.flatMap_cons, List.flatMap_append, hfeeds, feedKey,
    Piece.text, List.replicate_succ]
  simp

/-- A style without comment syntax leaves the header as it is: no line of it ends in white space. -/
theorem decorate_tallReference (n : Nat) :
    (tallReference n).decorate Style.unknown = (tallReference n).text := by
  have hline : ∀ l ∈ (tallReference n).lines,
      decorateLine Style.unknown (tallReference n).width l ++ ['\n'] = l ++ ['\n'] := by
    intro l hl
    rw [lines_tallReference] at hl
    rcases eq_of_mem_tallLines hl with rfl | rfl | rfl <;> rfl
  rw [decorate, List.flatMap_congr hline, lines_tallReference]
  show [] ++ (tallReference n).text ++ [] = _
  rw [List.nil_append, List.append_nil]

/-- **Every text is what a header renders to**, a line feed at its end.  The key is longer than the value,
so the value has no reference to it. -/
theorem render_tallReference {value : Text} {n : Nat} (hn : value.length ≤ n) :
    (tallReference n).render Style.unknown [(feedKey n, value)] = .ok (value ++ ['\n']) := by
  have hbrace : '}' ∉ feedKey n := by simp [feedKey]
  have hvalue : Keyed.get? [(feedKey n, value)] (feedKey n) = some value := by simp [Keyed.get?]
  have hother : ∀ key : Text, key.length < value.length →
      Properties.writeReference [(feedKey n, value)] [feedKey n] key =
        .ok (Piece.text (.reference key)) := by
    intro key hkey
    refine Properties.writeReference_unknown ?_ _
    have hne : feedKey n ≠ key := by
      rintro rfl
      rw [feedKey, List.length_replicate] at hkey
      omega
    simp [Keyed.get?, hne]
  have hwritten : Properties.writeReference [(feedKey n, value)] [] (feedKey n) = .ok value := by
    rw [Properties.writeReference_value hvalue List.not_mem_nil]
    exact writePieces_of_unknown (Piece.reads_iff.mpr rfl) hother
  rw [render, decorate_tallReference, text_tallReference, Properties.expand,
    Piece.split_reference hbrace, writePieces, hwritten]
  rfl

/-- The header has room for all lines of a file. -/
theorem seen_tallReference {n : Nat} (hn : file.lines.length ≤ n) :
    (tallReference n).seen file = file.trimmed := by
  rw [seen, List.take_of_length_le, trimmed]
  rw [lines_tallReference, tallLines, List.length_map, List.length_cons, List.length_append,
    List.length_replicate]
  omega

/-- A file is looked for in another one, as a header that renders to it. -/
theorem isPresent_tallReference (hfile : file.PairsReturns) (hother : other.PairsReturns) {n : Nat}
    (hlength : file.trimmed.length < n) (hlines : other.lines.length ≤ n) :
    (tallReference n).isPresent other Style.unknown [(feedKey n, file.trimmed ++ ['\n'])] true =
      .ok ((file.trimmed ++ ['\n', '\n']).isIn (other.trimmed ++ ['\n', '\n'])) := by
  have hvalue : (file.trimmed ++ ['\n']).length ≤ n := by
    rw [List.length_append, List.length_singleton]
    omega
  rw [isPresent_strict hother, render_tallReference hvalue, seen_tallReference hlines,
    List.append_assoc]
  show Except.ok ((tidy (file.trimmed ++ ['\n', '\n'])).isIn _) = _
  rw [tidy_trimmed hfile]

/-! ### What the check leaves out -/

/-- **The strict check leaves out the spaces at the ends of lines, and nothing else.**  Let carriage returns
stand only before line feeds in two files.  If their lines are the same up to spaces at the ends of the
lines, then every header that can be rendered, in every style and with all properties, is present in both or
in none of them.  If the lines differ otherwise, some header is present in one of them and not in the other.
There the lines are compared joined: an empty file and a file with one blank line look the same. -/
theorem strict_ignores_spaces (hfile : file.PairsReturns) (hother : other.PairsReturns) :
    (file.lines.map trimSpaces = other.lines.map trimSpaces →
      ∀ (h : HeaderTemplate) (s : Style) (properties : Properties) (expected : Text),
        h.render s properties = .ok expected → ∃ answer,
          h.isPresent file s properties true = .ok answer ∧
          h.isPresent other s properties true = .ok answer) ∧
    (file.trimmed ≠ other.trimmed →
      ∃ (h : HeaderTemplate) (s : Style) (properties : Properties) (answer : Bool),
        h.isPresent file s properties true = .ok answer ∧
        h.isPresent other s properties true = .ok (!answer)) := by
  constructor
  · intro hlines h s properties expected hrender
    have hseen : h.seen file = h.seen other := by rw [seen, seen, hlines]
    refine ⟨(tidy expected).isIn (h.seen file ++ ['\n', '\n']), ?_, ?_⟩
    · rw [isPresent_strict hfile, hrender]
      rfl
    · rw [isPresent_strict hother, hrender, hseen]
      rfl
  · intro hne
    let n := file.trimmed.length + other.trimmed.length + file.lines.length + other.lines.length + 1
    have hself : ∀ t : Text, t.isIn t = true := fun t => isIn_iff_isInfix.mpr List.infix_rfl
    cases hin : (file.trimmed ++ ['\n', '\n']).isIn (other.trimmed ++ ['\n', '\n']) with
    | false =>
      refine ⟨tallReference n, Style.unknown, [(feedKey n, file.trimmed ++ ['\n'])], true, ?_, ?_⟩
      · rw [isPresent_tallReference hfile hfile (by omega) (by omega), hself]
      · rw [isPresent_tallReference hfile hother (by omega) (by omega), hin]
        rfl
    | true =>
      refine ⟨tallReference n, Style.unknown, [(feedKey n, other.trimmed ++ ['\n'])], false, ?_, ?_⟩
      · rw [isPresent_tallReference hother hfile (by omega) (by omega), isIn_append_ne hne _ hin]
      · rw [isPresent_tallReference hother hother (by omega) (by omega), hself]
        rfl

/-- A file with other breaks, more spaces and no break at its end, and a tab, which is not left out. -/
theorem strict_ignores_spaces_unterminated :
    (∃ answer,
      (HeaderTemplate.mk "By $\x7bwho\x7d\n\nYours".toList).isPresent
          "# By me  \r\n#\r\n# Yours   ".toList { Style.unknown with before := "# ".toList }
          [("who".toList, "me".toList)] true = .ok answer ∧
      (HeaderTemplate.mk "By $\x7bwho\x7d\n\nYours".toList).isPresent
          "# By me\n# \n# Yours\n".toList { Style.unknown with before := "# ".toList }
          [("who".toList, "me".toList)] true = .ok answer) ∧
    ∃ (h : HeaderTemplate) (s : Style) (properties : Properties) (answer : Bool),
      h.isPresent "# Yours\t".toList s properties true = .ok answer ∧
      h.isPresent "# Yours ".toList s properties true = .ok (!answer) :=
  ⟨(strict_ignores_spaces (by decide +kernel) (by decide +kernel)).1 (by decide +kernel) _ _ _
      "# By me\n#\n# Yours\n".toList (by decide +kernel),
    (strict_ignores_spaces (by decide +kernel) (by decide +kernel)).2 (by decide +kernel)⟩

end HeaderTemplate

end LicenseHeader
