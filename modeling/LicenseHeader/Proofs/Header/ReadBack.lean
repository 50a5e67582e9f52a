import LicenseHeader.Proofs.Header.Reading
import LicenseHeader.Proofs.Header.Rendering

/-!
# Reading a written header

The writer and the reader of headers know nothing of each other.  This file shows on the level of
lines that they agree: the lines that a header is written as are read as a header again, with all
lines of the header text in it, and what is left is what followed the written lines.

* `HeaderTemplate.Fits`: what is asked of a header text, for a style and some keywords;
* `Style.IsReadable`: what is asked of the texts of a style, so that a header in it is found again;
* `Style.EndsExactly`: what is asked of its closing, so that the end of a header is found as well;
* `readHeader_written` and `dropSpacing_written` are the results.
-/

namespace LicenseHeader

open HeaderTemplate Text

/-- A header text whose lines are told apart from the frame of the style around them. -/
structure HeaderTemplate.Fits (h : HeaderTemplate) (s : Style) (keywords : List Text) : Prop where
  noReturn : '\r' ∉ h.text
  noReference : isIn ['$', '{'] h.text = false
  firstLine : ∃ first rest, h.lines = first :: rest ∧ first.isBlank = false
  hasKeywords : ∀ k ∈ keywords, ∃ l ∈ h.decoratedLines s, k.isIn l.lower = true
  opens : ∃ l, (h.decorate s).lines.find? (fun l => !l.isBlank) = some l ∧ s.isFirstLine l = true
  noClosing : s.isBlock = true → ∀ l ∈ h.decoratedLines s, s.isLastLine l = false

namespace Style

/-- Whether the opening leads the reader to the header text.  One line of it is the first line of the
header, and blank lines follow only if the style allows them; or all are blank and the header is a run
of single lines, after which something follows. -/
def leadsIn (s : Style) : Bool :=
  match (delimiterLines s.opening).dropWhile isBlank with
  | [] => !s.isBlock && !s.allowsBlank && !(delimiterLines s.closing).isEmpty
  | _ :: trail => trail.all isBlank && (trail.isEmpty || s.allowsBlank)

/-- A style in which a written header is found again. -/
structure IsReadable (s : Style) : Prop where
  plain : s.IsPlain
  marked : s.isBlock = true ∨ s.before.isBlank = false
  leadsIn : s.leadsIn = true
  window : (delimiterLines s.opening).length + (delimiterLines s.closing).length ≤ extraLines

instance (s : Style) : Decidable s.IsReadable :=
  decidable_of_iff
    (s.IsPlain ∧ (s.isBlock = true ∨ s.before.isBlank = false) ∧ s.leadsIn = true ∧
      (delimiterLines s.opening).length + (delimiterLines s.closing).length ≤ extraLines)
    ⟨fun ⟨h₁, h₂, h₃, h₄⟩ => ⟨h₁, h₂, h₃, h₄⟩, fun ⟨h₁, h₂, h₃, h₄⟩ => ⟨h₁, h₂, h₃, h₄⟩⟩

/-- Whether the lines of a closing before its last one end a header.  In a block there is one of
them, which closes the block or at least does not belong to the run of lines; otherwise they are
lines of the run. -/
def endsWith (s : Style) (ends : List Text) : Bool :=
  if s.isBlock then
    match ends with
    | [k] =>
      if (HeaderScan.runStart s).isPrefixOf k then s.isLastLine k else !s.allowsBlank
    | _ => false
  else ends.all (HeaderScan.runStart s).isPrefixOf

/-- A style whose closing ends a header and has a blank line after it. -/
structure EndsExactly (s : Style) : Prop where
  ends : s.endsWith (delimiterLines s.closing).dropLast = true
  blank : (delimiterLines s.closing).getLast? = some []
  noClosing : s.isBlock = true → s.isLastLine [] = false
  feed : s.closing.getLast? = some '\n'

instance (s : Style) : Decidable s.EndsExactly :=
  decidable_of_iff
    (s.endsWith (delimiterLines s.closing).dropLast = true ∧
      (delimiterLines s.closing).getLast? = some [] ∧
      (s.isBlock = true → s.isLastLine [] = false) ∧ s.closing.getLast? = some '\n')
    ⟨fun ⟨h₁, h₂, h₃, h₄⟩ => ⟨h₁, h₂, h₃, h₄⟩, fun ⟨h₁, h₂, h₃, h₄⟩ => ⟨h₁, h₂, h₃, h₄⟩⟩

/-- The two ways in which an opening leads in. -/
theorem leadsIn_cases {s : Style} (h : s.leadsIn = true) :
    (∃ lead mark trail, delimiterLines s.opening = lead ++ mark :: trail ∧
      (∀ l ∈ lead, isBlank l = true) ∧ isBlank mark = false ∧ (∀ l ∈ trail, isBlank l = true) ∧
      (s.allowsBlank = false → trail = []))
    ∨ (∀ l ∈ delimiterLines s.opening, isBlank l = true) ∧ s.isBlock = false ∧
      s.allowsBlank = false ∧ delimiterLines s.closing ≠ [] := by
  unfold leadsIn at h
  split at h
  · rename_i hnil
    simp only [Bool.and_eq_true, Bool.not_eq_true', List.isEmpty_eq_false_iff] at h
    exact Or.inr ⟨List.dropWhile_eq_nil_iff.mp hnil, h.1.1, h.1.2, h.2⟩
  · rename_i mark trail hcons
    rw [Bool.and_eq_true, List.all_eq_true, Bool.or_eq_true, List.isEmpty_iff] at h
    have hcut : delimiterLines s.opening
        = (delimiterLines s.opening).takeWhile isBlank ++ mark :: trail := by
      rw [← hcons, List.takeWhile_append_dropWhile]
    have hink : isBlank mark = false := by
      have hhead := List.head?_dropWhile_not isBlank (delimiterLines s.opening)
      rw [hcons] at hhead
      simpa using hhead
    refine Or.inl ⟨_, mark, trail, hcut, fun l hl => List.mem_takeWhile_imp hl, hink, h.1, ?_⟩
    intro hno
    refine h.2.resolve_right ?_
    rw [hno]
    exact Bool.false_ne_true

theorem runStart_eq {s : Style} (h : s.isBlock = true ∨ s.before.isBlank = false) :
    HeaderScan.runStart s = s.before.trimEnd := by
  unfold HeaderScan.runStart
  refine if_neg ?_
  rw [Bool.and_eq_true, List.isEmpty_iff, trimEnd_eq_nil_iff, Bool.not_eq_true']
  rintro ⟨hblank, hblock⟩
  rcases h with h | h
  · rw [hblock] at h
    exact Bool.noConfusion h
  · rw [hblank] at h
    exact Bool.noConfusion h

end Style

/-! ### The lines of the header text -/

namespace HeaderTemplate

variable {h : HeaderTemplate} {s : Style} {keywords : List Text}

theorem runStart_isPrefixOf_decorateLine (hs : s.IsReadable) (width : Nat) (line : Text) :
    (HeaderScan.runStart s).isPrefixOf (decorateLine s width line) = true := by
  rw [Style.runStart_eq hs.marked, List.isPrefixOf_iff_prefix, decorateLine, List.append_assoc]
  exact trimEnd_isPrefix_append _ _

/-- Decoration never hides a line that is not blank. -/
theorem isBlank_decorateLine {width : Nat} {line : Text} (hline : line.isBlank = false) :
    (decorateLine s width line).isBlank = false := by
  rw [decorateLine, isBlank_trimEnd]
  refine isBlank_eq_false_of_isInfix hline ?_
  split
  · refine List.infix_append_of_infix_left (List.infix_append_of_infix_right ?_)
    exact List.infix_append_left
  · exact List.infix_append _ _ _

/-- The lines of a fitting header continue a run. -/
theorem Fits.continues (hfit : h.Fits s keywords) (hs : s.IsReadable) (b : LineBreak) :
    ∀ l ∈ (h.decoratedLines s).map (Line.mk · b), HeaderScan.Continues s l := by
  intro l hl
  obtain ⟨body, hbody, rfl⟩ := List.mem_map.mp hl
  obtain ⟨line, -, rfl⟩ := List.mem_map.mp hbody
  refine ⟨runStart_isPrefixOf_decorateLine hs _ line, ?_⟩
  cases hblock : s.isBlock with
  | false => rfl
  | true => exact hfit.noClosing hblock _ hbody

/-- The first line of a fitting header is not blank. -/
theorem Fits.decoratedLines_eq_cons (hfit : h.Fits s keywords) :
    ∃ first rest, h.decoratedLines s = first :: rest ∧ isBlank first = false := by
  obtain ⟨first, rest, hlines, hfirst⟩ := hfit.firstLine
  refine ⟨decorateLine s h.width first, rest.map (decorateLine s h.width), ?_,
    isBlank_decorateLine hfirst⟩
  rw [decoratedLines, hlines, List.map_cons]

theorem Fits.lines_decorate (hfit : h.Fits s keywords) (hs : s.IsReadable) :
    (h.decorate s).lines = h.writtenLines s := by
  rw [decorate_eq_ofLines]
  exact lines_ofLines (areLines_writtenLines hs.plain hfit.noReturn)

/-- The first written line that is not blank opens the header. -/
theorem Fits.isFirstLine_of_writtenLines (hfit : h.Fits s keywords) (hs : s.IsReadable)
    {lead rest : List Text} {mark : Text} (hwritten : h.writtenLines s = lead ++ mark :: rest)
    (hlead : ∀ l ∈ lead, isBlank l = true) (hmark : isBlank mark = false) :
    s.isFirstLine mark = true := by
  obtain ⟨l, hfind, hl⟩ := hfit.opens
  have hskip : lead.find? (fun l => !isBlank l) = none := by
    rw [List.find?_eq_none]
    intro k hk
    rw [hlead k hk]
    exact Bool.false_ne_true
  rw [hfit.lines_decorate hs, hwritten, List.find?_append, hskip, Option.none_or,
    List.find?_cons_of_pos (by rw [hmark]; rfl)] at hfind
  rw [Option.some.inj hfind]
  exact hl

end HeaderTemplate

/-! ### Reading the written lines -/

namespace HeaderScan

variable {s : Style}

/-- What is left after a run, given where it stopped. -/
def afterRun (s : Style) (r : List Line × Stop × List Line) : List Line :=
  if s.isBlock then afterBlock s r.2.2 r.2.1 else afterLines r.2.2 r.2.1

theorem isBlank_of_mem_map {ls : List Text} (h : ∀ l ∈ ls, Text.isBlank l = true) (b : LineBreak) :
    ∀ l ∈ ls.map (Line.mk · b), l.isBlank = true := by
  intro l hl
  obtain ⟨body, hbody, rfl⟩ := List.mem_map.mp hl
  exact h body hbody

/-- A line of a run of single lines shows its mark. -/
theorem isBlank_eq_false_of_runStart (hs : s.IsReadable) (hblock : s.isBlock = false) {body : Text}
    (h : (runStart s).isPrefixOf body = true) : Text.isBlank body = false := by
  have hmark : s.before.isBlank = false := by
    refine hs.marked.resolve_left ?_
    rw [hblock]
    exact Bool.false_ne_true
  rw [Style.runStart_eq hs.marked, List.isPrefixOf_iff_prefix] at h
  refine isBlank_eq_false_of_isInfix ?_ h.isInfix
  rw [isBlank_trimEnd]
  exact hmark

/-- A first and a second line make a header, with blank lines before each of them where these are
allowed. -/
theorem readHeader_of_marked {lead trail rest : List Line} {mark second : Line}
    (hlead : ∀ l ∈ lead, l.isBlank = true) (hmark : mark.isBlank = false)
    (hfirst : s.isFirstLine mark.body = true) (htrail : ∀ l ∈ trail, l.isBlank = true)
    (hnone : s.allowsBlank = false → trail = [])
    (hsecond : s.allowsBlank = true → second.isBlank = false) :
    readHeader s (lead ++ mark :: (trail ++ second :: rest))
      = (some (mark :: second :: (readBody s second rest).1), (readBody s second rest).2) := by
  unfold readHeader
  rw [List.dropWhile_append_of_pos hlead,
    List.dropWhile_cons_of_neg (by rw [hmark]; exact Bool.false_ne_true)]
  dsimp only
  rw [if_pos hfirst]
  cases hallow : s.allowsBlank with
  | false =>
    rw [hnone hallow]
    rfl
  | true =>
    rw [if_pos rfl, List.dropWhile_append_of_pos htrail,
      List.dropWhile_cons_of_neg (by rw [hsecond hallow]; exact Bool.false_ne_true)]

/-- After a second line that neither is blank nor closes a block, a run of lines is read. -/
theorem readBody_of_continues {second : Line} (hopen : (s.isBlock && s.isLastLine second.body) = false)
    (hink : second.isBlank = false) {front : List Line} (hfront : ∀ l ∈ front, Continues s l)
    (rest : List Line) :
    readBody s second (front ++ rest)
      = (front ++ (readRun s (runStart s) rest).1, afterRun s (readRun s (runStart s) rest)) := by
  unfold readBody
  rw [if_neg (by rw [hopen]; exact Bool.false_ne_true),
    if_neg (by rw [hink]; exact Bool.false_ne_true), readRun_append hfront]
  rfl

/-- **The written lines are read as a header.**  All lines of the header text are in it, and then the
lines of the closing are read.  For a header of one line without an opening the first line of the
closing is the second line of the header. -/
theorem readHeader_written {h : HeaderTemplate} {keywords : List Text} (hs : s.IsReadable)
    (hfit : h.Fits s keywords) (b : LineBreak) (rest : List Line) :
    ∃ words left,
      readHeader s ((h.writtenLines s).map (Line.mk · b) ++ rest) = (some words, left) ∧
      (∀ l ∈ h.decoratedLines s, Line.mk l b ∈ words) ∧
      (left = afterRun s (readRun s (runStart s)
          ((delimiterLines s.closing).map (Line.mk · b) ++ rest)) ∨
        s.isBlock = false ∧ ∃ c cs, delimiterLines s.closing = c :: cs ∧
          left = (readBody s ⟨c, b⟩ (cs.map (Line.mk · b) ++ rest)).2) := by
  obtain ⟨first, more, hdecorated, hink⟩ := hfit.decoratedLines_eq_cons
  have hcontinues := hfit.continues hs b
  rw [hdecorated, List.map_cons] at hcontinues
  have hmore : ∀ l ∈ more.map (Line.mk · b), Continues s l := fun l hl =>
    hcontinues l (List.mem_cons_of_mem _ hl)
  rcases Style.leadsIn_cases hs.leadsIn with
    ⟨lead, mark, trail, hopening, hlead, hmark, htrail, hnone⟩ | ⟨hblank, hblock, hallow, hclosing⟩
  · -- a line of the opening is the first line, the first line of the text the second
    have hwritten : h.writtenLines s
        = lead ++ mark :: (trail ++ first :: (more ++ delimiterLines s.closing)) := by
      rw [writtenLines, hopening, hdecorated]
      simp
    have hfirst := hfit.isFirstLine_of_writtenLines hs hwritten hlead hmark
    have hread : ∀ after : List Line,
        readHeader s (lead.map (Line.mk · b) ++ ⟨mark, b⟩ ::
            (trail.map (Line.mk · b) ++ ⟨first, b⟩ :: after))
          = (some (⟨mark, b⟩ :: ⟨first, b⟩ :: (readBody s ⟨first, b⟩ after).1),
              (readBody s ⟨first, b⟩ after).2) := by
      intro after
      refine readHeader_of_marked (isBlank_of_mem_map hlead b) hmark hfirst
        (isBlank_of_mem_map htrail b) (fun hno => ?_) (fun _ => hink)
      rw [hnone hno]
      rfl
    rw [hwritten]
    simp only [List.map_append, List.map_cons, List.append_assoc, List.cons_append]
    rw [hread, readBody_of_continues (hcontinues _ List.mem_cons_self).2 hink hmore]
    refine ⟨_, _, rfl, ?_, Or.inl rfl⟩
    intro l hl
    rw [hdecorated, List.mem_cons] at hl
    rcases hl with rfl | hl
    · simp
    · simp [hl]
  · -- the header begins with the first line of the text
    have hwritten : h.writtenLines s
        = delimiterLines s.opening ++ first :: (more ++ delimiterLines s.closing) := by
      rw [writtenLines, hdecorated]
      simp
    have hfirst := hfit.isFirstLine_of_writtenLines hs hwritten hblank hink
    have hread : ∀ (second : Line) (after : List Line),
        readHeader s ((delimiterLines s.opening).map (Line.mk · b) ++ ⟨first, b⟩ :: second :: after)
          = (some (⟨first, b⟩ :: second :: (readBody s second after).1),
              (readBody s second after).2) := by
      intro second after
      refine @readHeader_of_marked s _ [] after ⟨first, b⟩ second (isBlank_of_mem_map hblank b) hink
        hfirst (by simp) (fun _ => rfl) (fun hyes => ?_)
      rw [hallow] at hyes
      exact Bool.noConfusion hyes
    rw [hwritten]
    simp only [List.map_append, List.map_cons, List.append_assoc, List.cons_append]
    cases more with
    | nil =>
      obtain ⟨c, cs, hcs⟩ := List.exists_cons_of_ne_nil hclosing
      rw [hcs]
      refine ⟨_, _, hread ⟨c, b⟩ _, ?_, Or.inr ⟨hblock, c, cs, rfl, rfl⟩⟩
      intro l hl
      rw [hdecorated, List.mem_singleton] at hl
      simp [hl]
    | cons second more =>
      rw [List.map_cons] at hmore
      have hsecond := hmore _ List.mem_cons_self
      have hsink : (Line.mk second b).isBlank = false :=
        isBlank_eq_false_of_runStart hs hblock hsecond.1
      rw [List.map_cons, List.cons_append, hread,
        readBody_of_continues hsecond.2 hsink fun l hl => hmore l (List.mem_cons_of_mem _ hl)]
      refine ⟨_, _, rfl, ?_, Or.inl rfl⟩
      intro l hl
      rw [hdecorated, List.mem_cons, List.mem_cons] at hl
      rcases hl with rfl | rfl | hl
      · simp
      · simp
      · simp [hl]

/-- A keyword of a line is a keyword of the words with that line among them. -/
theorem hasKeywords_of_written {h : HeaderTemplate} {keywords : List Text}
    (hfit : h.Fits s keywords) {b : LineBreak} {words : List Line}
    (hwords : ∀ l ∈ h.decoratedLines s, Line.mk l b ∈ words) : hasKeywords keywords words = true := by
  unfold hasKeywords
  rw [List.all_eq_true]
  intro k hk
  obtain ⟨l, hl, hin⟩ := hfit.hasKeywords k hk
  obtain ⟨front, back, hcut⟩ := List.append_of_mem (hwords l hl)
  refine isIn_of_isInfix hin ?_
  rw [hcut, List.flatMap_append, List.flatMap_cons]
  exact List.infix_append' _ _ _

/-! ### Reading the closing -/

/-- Of the closing lines of a block the blank one is left; a run of single lines takes all. -/
theorem afterRun_closing (hs : s.IsReadable) {ends : List Text}
    (hends : s.endsWith ends = true) (hnone : s.isBlock = true → s.isLastLine [] = false)
    (b : LineBreak) (rest : List Line) :
    afterRun s (readRun s (runStart s) (ends.map (Line.mk · b) ++ ⟨[], b⟩ :: rest))
      = if s.isBlock then ⟨[], b⟩ :: rest else rest := by
  unfold Style.endsWith at hends
  cases hblock : s.isBlock with
  | false =>
    rw [hblock, if_neg Bool.false_ne_true, List.all_eq_true] at hends
    have hcontinues : ∀ l ∈ ends.map (Line.mk · b), Continues s l := by
      intro l hl
      obtain ⟨body, hbody, rfl⟩ := List.mem_map.mp hl
      exact ⟨hends body hbody, by rw [hblock]; rfl⟩
    have hstart : ¬(runStart s).isPrefixOf ([] : Text) = true := by
      intro hp
      have hblank := isBlank_eq_false_of_runStart hs hblock hp
      exact Bool.noConfusion hblank
    rw [readRun_append hcontinues, readRun, if_neg hstart, afterRun, hblock]
    rfl
  | true =>
    have hkeep : dropClosing s (⟨[], b⟩ :: rest) = ⟨[], b⟩ :: rest := by
      rw [dropClosing, if_neg (by rw [hnone hblock]; exact Bool.false_ne_true)]
    rw [hblock, if_pos rfl] at hends
    split at hends
    · rename_i k
      show afterRun s (readRun s (runStart s) (⟨k, b⟩ :: ⟨[], b⟩ :: rest)) = _
      rw [readRun]
      split at hends
      · rename_i hstart
        rw [if_pos hstart, hblock, hends, afterRun, hblock]
        exact hkeep
      · rename_i hstart
        rw [if_neg hstart, afterRun, hblock, if_pos rfl, afterBlock]
        rw [Bool.not_eq_true'] at hends
        rw [hends]
        exact hkeep
    · exact absurd hends Bool.false_ne_true

/-- The closing of a header of one line without an opening: its first line is the second line of the
header, and all of it is read. -/
theorem readBody_closing (hs : s.IsReadable) (hblock : s.isBlock = false) {ends cs : List Text}
    {c : Text} (hends : s.endsWith ends = true) (hcs : ends ++ [[]] = c :: cs) (b : LineBreak)
    (rest : List Line) : (readBody s ⟨c, b⟩ (cs.map (Line.mk · b) ++ rest)).2 = rest := by
  cases ends with
  | nil =>
    obtain ⟨rfl, rfl⟩ := List.cons.inj hcs
    unfold readBody
    rw [hblock]
    rfl
  | cons e ends =>
    rw [List.cons_append] at hcs
    obtain ⟨rfl, rfl⟩ := List.cons.inj hcs
    unfold Style.endsWith at hends
    rw [hblock, if_neg Bool.false_ne_true, List.all_cons, Bool.and_eq_true] at hends
    have hrest : s.endsWith ends = true := by
      unfold Style.endsWith
      rw [hblock, if_neg Bool.false_ne_true]
      exact hends.2
    have hopen : (s.isBlock && s.isLastLine (Line.mk e b).body) = false := by
      rw [hblock]
      rfl
    have hink : (Line.mk e b).isBlank = false := isBlank_eq_false_of_runStart hs hblock hends.1
    have hlines : (ends ++ [[]]).map (Line.mk · b) ++ rest
        = [] ++ (ends.map (Line.mk · b) ++ ⟨[], b⟩ :: rest) := by simp
    rw [hlines, readBody_of_continues hopen hink (by simp),
      afterRun_closing hs hrest (by rw [hblock]; exact fun h => Bool.noConfusion h), hblock]
    rfl

/-- **The end of a written header is found.**  What is left after a header in a style that ends
exactly is what followed the written lines, if that does not begin with a blank line. -/
theorem dropSpacing_written {h : HeaderTemplate} {keywords : List Text} (hs : s.IsReadable)
    (hends : s.EndsExactly) (hfit : h.Fits s keywords) (b : LineBreak) {rest : List Line}
    (hrest : ∀ l ∈ rest.head?, l.isBlank = false) (atTop : Bool) :
    ∃ words left,
      readHeader s ((h.writtenLines s).map (Line.mk · b) ++ rest) = (some words, left) ∧
      hasKeywords keywords words = true ∧ dropSpacing s atTop left = rest := by
  obtain ⟨words, left, hread, hwords, hleft⟩ := readHeader_written hs hfit b rest
  refine ⟨words, left, hread, hasKeywords_of_written hfit hwords, ?_⟩
  obtain ⟨ends, hclosing⟩ : ∃ ends, delimiterLines s.closing = ends ++ [[]] :=
    List.getLast?_eq_some_iff.mp hends.blank
  have hend : s.endsWith ends = true := by
    have hdrop := hends.ends
    rw [hclosing, List.dropLast_concat] at hdrop
    exact hdrop
  have hrun := afterRun_closing hs hend hends.noClosing b rest
  rcases hleft with rfl | ⟨hblock, c, cs, hcs, rfl⟩
  · rw [hclosing, List.map_append, List.append_assoc]
    show dropSpacing s atTop (afterRun s (readRun s (runStart s)
      (ends.map (Line.mk · b) ++ ⟨[], b⟩ :: rest))) = rest
    rw [hrun]
    split
    · exact dropSpacing_blank_cons hends.feed rfl hrest atTop
    · exact dropSpacing_of_head hrest atTop
  · rw [hclosing] at hcs
    rw [readBody_closing hs hblock hend hcs b rest]
    exact dropSpacing_of_head hrest atTop

end HeaderScan

end LicenseHeader
