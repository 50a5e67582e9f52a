import LicenseHeader.Proofs.Text.Basic
import Mathlib.Data.List.Basic

/-!
# Cutting texts into lines and writing lines

`Line.split` cuts a text at its line breaks.  Here it is shown to undo the writing of lines, whatever
text follows them, and to leave a text alone that is put together from some of its own lines.

* `Line.ofPiece`: the line that a piece is, `Line.split_eq_pieces`: the lines of a text are its pieces,
  and `Text.lines_eq`: so are the lines that are compared with a header;
* `Line.IsWhole`: the line ends with a line feed and holds nothing that would be read as a break;
* `split_unsplit_append`: whole lines in front of a text are its first lines;
* `isWhole_of_split`: of the lines of a text all but the last are whole;
* `Text.ofLines`: the text with given lines, and `split_apply_ofLines`, its lines read back after it
  was written with the line ending of a file.
-/

namespace LicenseHeader

/-! ### The pieces of a text -/

namespace Text

variable {t p : Text}

@[simp]
theorem dropEnd_concat (c : Char) (t : Text) : dropEnd c (t ++ [c]) = t := by
  simp [dropEnd]

theorem dropEnd_of_ne {c : Char} (h : t.getLast? ≠ some c) : t.dropEnd c = t := if_neg h

theorem dropEnd_append {c : Char} (h : t.getLast? = some c) : t.dropEnd c ++ [c] = t := by
  obtain ⟨front, rfl⟩ := List.getLast?_eq_some_iff.mp h
  rw [dropEnd_concat]

theorem withoutBreak_feed (p : Text) : withoutBreak (p ++ ['\n']) = p.dropEnd '\r' := by
  rw [withoutBreak, dropEnd_concat]

theorem withoutBreak_of_ne (h : p.getLast? ≠ some '\n') : p.withoutBreak = p.dropEnd '\r' := by
  rw [withoutBreak, dropEnd_of_ne h]

theorem asLine_feed (p : Text) : asLine (p ++ ['\n']) = withoutBreak (p ++ ['\n']) :=
  if_pos (by simp)

theorem asLine_of_ne (h : p.getLast? ≠ some '\n') : p.asLine = p := if_neg h

theorem getLast?_ne_feed (h : '\n' ∉ p) : p.getLast? ≠ some '\n' :=
  fun hlast => h (List.mem_of_getLast? hlast)

theorem dropEnd_cons {c d : Char} (hne : t ≠ []) : dropEnd c (d :: t) = d :: dropEnd c t := by
  obtain ⟨e, t, rfl⟩ := List.exists_cons_of_ne_nil hne
  by_cases h : (e :: t).getLast? = some c
  · rw [dropEnd, dropEnd, List.getLast?_cons_cons, if_pos h, if_pos h, List.dropLast_cons_cons]
  · rw [dropEnd, dropEnd, List.getLast?_cons_cons, if_neg h, if_neg h]

theorem pieces_feed_append (h : '\n' ∉ p) (t : Text) :
    pieces (p ++ '\n' :: t) = (p ++ ['\n']) :: pieces t := by
  induction p with
  | nil => rfl
  | cons c p ih =>
    have hc : c ≠ '\n' := fun he => h (he ▸ List.mem_cons_self)
    rw [List.cons_append, pieces, if_neg hc, ih fun hmem => h (List.mem_cons_of_mem _ hmem)]
    rfl

theorem pieces_of_noFeed (hne : p ≠ []) (h : '\n' ∉ p) : pieces p = [p] := by
  induction p with
  | nil => exact absurd rfl hne
  | cons c p ih =>
    have hc : c ≠ '\n' := fun he => h (he ▸ List.mem_cons_self)
    rw [pieces, if_neg hc]
    cases p with
    | nil => rfl
    | cons d p => rw [ih (by simp) fun hmem => h (List.mem_cons_of_mem _ hmem)]

theorem ne_nil_of_mem_pieces (h : p ∈ t.pieces) : p ≠ [] := by
  induction t generalizing p with
  | nil => cases h
  | cons c t ih =>
    rw [pieces] at h
    split at h
    · rcases List.mem_cons.mp h with rfl | h
      · exact List.cons_ne_nil _ _
      · exact ih h
    · split at h
      · rw [List.mem_singleton.mp h]
        exact List.cons_ne_nil _ _
      · rename_i q qs hpieces
        rcases List.mem_cons.mp h with rfl | h
        · exact List.cons_ne_nil _ _
        · exact ih (hpieces ▸ List.mem_cons_of_mem _ h)

/-- The first line feed of a text. -/
theorem cut_of_findIdx? {i : Nat} (h : t.findIdx? (· = '\n') = some i) :
    t = t.take i ++ '\n' :: t.drop (i + 1) ∧ '\n' ∉ t.take i := by
  obtain ⟨hi, hfeed, hbefore⟩ := List.findIdx?_eq_some_iff_getElem.mp h
  have hitem : t[i] = '\n' := of_decide_eq_true hfeed
  constructor
  · rw [← hitem, ← List.drop_eq_getElem_cons hi, List.take_append_drop]
  · intro hmem
    obtain ⟨j, hj, heq⟩ := List.mem_take_iff_getElem.mp hmem
    have hji : j < i := (Nat.lt_min.mp hj).1
    exact hbefore j hji (decide_eq_true heq)

theorem noFeed_of_findIdx? (h : t.findIdx? (· = '\n') = none) : '\n' ∉ t := by
  intro hmem
  have hall := List.findIdx?_eq_none_iff.mp h '\n' hmem
  exact absurd hall (by decide)

end Text

namespace Line

/-- The line that a piece is. -/
def ofPiece (p : Text) : Line where
  body := p.withoutBreak
  ending :=
    if p.getLast? = some '\n' then if (p.dropEnd '\n').getLast? = some '\r' then .crlf else .lf
    else if p.getLast? = some '\r' then .cr else .none

/-- The line as it is compared with a line of a header: a carriage return that no line feed follows
is a character like any other. -/
def content (l : Line) : Text :=
  match l.ending with
  | .cr => l.body ++ ['\r']
  | _ => l.body

section

variable {p : Text}

theorem ofPiece_feed (p : Text) : ofPiece (p ++ ['\n']) =
    ⟨p.dropEnd '\r', if p.getLast? = some '\r' then .crlf else .lf⟩ := by
  simp [ofPiece, Text.withoutBreak_feed]

theorem ofPiece_of_ne (h : p.getLast? ≠ some '\n') : ofPiece p =
    ⟨p.dropEnd '\r', if p.getLast? = some '\r' then .cr else .none⟩ := by
  rw [ofPiece, if_neg h, Text.withoutBreak_of_ne h]

@[simp]
theorem text_ofPiece (p : Text) : (ofPiece p).text = p := by
  by_cases hfeed : p.getLast? = some '\n'
  · obtain ⟨q, rfl⟩ := List.getLast?_eq_some_iff.mp hfeed
    rw [ofPiece_feed]
    by_cases hreturn : q.getLast? = some '\r'
    · obtain ⟨front, rfl⟩ := List.getLast?_eq_some_iff.mp hreturn
      simp [text, LineBreak.text]
    · simp [text, LineBreak.text, hreturn, Text.dropEnd_of_ne hreturn]
  · rw [ofPiece_of_ne hfeed]
    by_cases hreturn : p.getLast? = some '\r'
    · simp [text, LineBreak.text, hreturn, Text.dropEnd_append hreturn]
    · simp [text, LineBreak.text, hreturn, Text.dropEnd_of_ne hreturn]

theorem content_ofPiece (p : Text) : (ofPiece p).content = p.asLine := by
  by_cases hfeed : p.getLast? = some '\n'
  · obtain ⟨q, rfl⟩ := List.getLast?_eq_some_iff.mp hfeed
    rw [ofPiece_feed, Text.asLine_feed, Text.withoutBreak_feed]
    by_cases hreturn : q.getLast? = some '\r' <;> simp [content, hreturn]
  · rw [ofPiece_of_ne hfeed, Text.asLine_of_ne hfeed]
    by_cases hreturn : p.getLast? = some '\r'
    · simp [content, hreturn, Text.dropEnd_append hreturn]
    · simp [content, hreturn, Text.dropEnd_of_ne hreturn]

end

/-- A character other than a line feed in front of a piece. -/
theorem prepend_ofPiece {c : Char} {p : Text} (hp : p ≠ []) (ls : List Line) :
    prepend c (ofPiece p :: ls) = ofPiece (c :: p) :: ls := by
  by_cases hfeed : p.getLast? = some '\n'
  · obtain ⟨q, rfl⟩ := List.getLast?_eq_some_iff.mp hfeed
    rw [← List.cons_append, ofPiece_feed, ofPiece_feed]
    cases q with
    | nil => by_cases hreturn : c = '\r' <;> simp [prepend, Text.dropEnd, hreturn]
    | cons d q =>
      by_cases hreturn : (d :: q).getLast? = some '\r'
      · simp [prepend, Text.dropEnd_cons, hreturn]
      · have hbody : Text.dropEnd '\r' (d :: q) ≠ [] := by
          rw [Text.dropEnd_of_ne hreturn]
          exact List.cons_ne_nil _ _
        simp [prepend, Text.dropEnd_cons, hreturn, hbody]
  · have hlast : (c :: p).getLast? = p.getLast? := by
      obtain ⟨d, p, rfl⟩ := List.exists_cons_of_ne_nil hp
      exact List.getLast?_cons_cons
    rw [ofPiece_of_ne hfeed, ofPiece_of_ne (hlast ▸ hfeed), hlast, Text.dropEnd_cons hp]
    by_cases hreturn : p.getLast? = some '\r' <;> simp [prepend, hreturn]

/-- **The lines of a text are its pieces.**  Induction on the text. -/
theorem split_eq_pieces (t : Text) : split t = t.pieces.map ofPiece := by
  induction t with
  | nil => rfl
  | cons c t ih =>
    by_cases hc : c = '\n'
    · rw [split, if_pos hc, Text.pieces, if_pos hc, ih, hc]
      rfl
    · rw [split, if_neg hc, Text.pieces, if_neg hc, ih]
      cases hpieces : Text.pieces t with
      | nil =>
        by_cases hreturn : c = '\r' <;>
          simp [prepend, ofPiece, Text.withoutBreak, Text.dropEnd, hc, hreturn]
      | cons p ps =>
        have hp : p ≠ [] := Text.ne_nil_of_mem_pieces (hpieces ▸ List.mem_cons_self)
        exact prepend_ofPiece hp _

end Line

theorem Text.lines_eq (t : Text) : t.lines = (Line.split t).map Line.content := by
  rw [lines, Line.split_eq_pieces, List.map_map]
  exact List.map_congr_left fun p _ => (Line.content_ofPiece p).symm

namespace Line

/-- A line that ends with a line feed and keeps its break when text is written after it. -/
structure IsWhole (l : Line) : Prop where
  noFeed : '\n' ∉ l.body
  ending : l.ending = .crlf ∨ (l.ending = .lf ∧ l.body.getLast? ≠ some '\r')

/-! ### Whole lines are read back -/

/-- A character before a whole line, as long as it does not become part of the break. -/
theorem prepend_cons {c : Char} {l : Line} (h : IsWhole ⟨c :: l.body, l.ending⟩) (ls : List Line) :
    prepend c (l :: ls) = ⟨c :: l.body, l.ending⟩ :: ls := by
  obtain ⟨body, ending⟩ := l
  have hno : ¬(body = [] ∧ c = '\r' ∧ ending = .lf) := by
    rintro ⟨rfl, rfl, rfl⟩
    rcases h.ending with he | ⟨-, hlast⟩
    · exact LineBreak.noConfusion he
    · exact hlast rfl
  rw [prepend, if_neg hno]

theorem IsWhole.tail {c : Char} {l : Line} (h : IsWhole ⟨c :: l.body, l.ending⟩) : IsWhole l := by
  refine ⟨fun m => h.noFeed (List.mem_cons_of_mem _ m), h.ending.imp_right ?_⟩
  rintro ⟨he, hlast⟩
  refine ⟨he, fun hr => hlast ?_⟩
  show (c :: l.body).getLast? = some '\r'
  rw [List.getLast?_cons, hr]
  rfl

/-- Induction on the characters of the line: the break itself, then one character after the other. -/
theorem split_text_append {l : Line} (h : l.IsWhole) (t : Text) :
    split (l.text ++ t) = l :: split t := by
  obtain ⟨body, ending⟩ := l
  induction body with
  | nil =>
    rcases h.ending with he | ⟨he, -⟩
    · obtain rfl : ending = .crlf := he
      rfl
    · obtain rfl : ending = .lf := he
      rfl
  | cons c body ih =>
    have hc : c ≠ '\n' := fun e => h.noFeed (e ▸ List.mem_cons_self)
    have htail : IsWhole ⟨body, ending⟩ := IsWhole.tail (c := c) h
    show split (c :: (text ⟨body, ending⟩ ++ t)) = _
    rw [split, if_neg hc, ih htail, prepend_cons h]

theorem split_unsplit_append {ls : List Line} (h : ∀ l ∈ ls, l.IsWhole) (t : Text) :
    split (unsplit ls ++ t) = ls ++ split t := by
  induction ls with
  | nil => rfl
  | cons l ls ih =>
    rw [unsplit_cons, List.append_assoc, split_text_append (h l List.mem_cons_self),
      ih fun k hk => h k (List.mem_cons_of_mem _ hk)]
    rfl

/-! ### The lines of a text -/

theorem noFeed_of_mem_split {t : Text} {l : Line} (h : l ∈ split t) : '\n' ∉ l.body := by
  induction t generalizing l with
  | nil => simp [split] at h
  | cons c t ih =>
    by_cases hc : c = '\n'
    · rw [split, if_pos hc] at h
      rcases List.mem_cons.mp h with rfl | h
      · simp
      · exact ih h
    · rw [split, if_neg hc] at h
      cases hs : split t with
      | nil =>
        rw [hs, prepend, List.mem_singleton] at h
        by_cases hr : c = '\r' <;> simp [h, hr, Ne.symm hc]
      | cons k ks =>
        obtain ⟨body, ending⟩ := k
        rw [hs] at h ih
        have hbody : '\n' ∉ body := ih List.mem_cons_self
        rw [prepend] at h
        split at h
        all_goals rcases List.mem_cons.mp h with rfl | h
        · simp
        · exact ih (List.mem_cons_of_mem _ h)
        · simp [Ne.symm hc, hbody]
        · exact ih (List.mem_cons_of_mem _ h)

/-- A character other than a line feed in front of a whole line leaves it whole. -/
theorem IsWhole.prepend {c : Char} {l k : Line} {ls ks : List Line} (hl : l.IsWhole) (hc : c ≠ '\n')
    (h : prepend c (l :: ls) = k :: ks) : k.IsWhole ∧ ks = ls := by
  obtain ⟨body, ending⟩ := l
  rw [Line.prepend] at h
  split at h
  · obtain ⟨rfl, rfl⟩ := List.cons.inj h
    exact ⟨⟨by simp, Or.inl rfl⟩, rfl⟩
  · rename_i hno
    obtain ⟨rfl, rfl⟩ := List.cons.inj h
    refine ⟨⟨?_, ?_⟩, rfl⟩
    · simpa [Ne.symm hc] using hl.noFeed
    · refine hl.ending.imp_right ?_
      rintro ⟨he, hlast⟩
      refine ⟨he, fun hr => ?_⟩
      cases body with
      | nil => exact hno ⟨rfl, by simpa using hr, he⟩
      | cons b body => exact hlast (by simpa using hr)

/-- All lines of a text with another line after them are whole. -/
theorem isWhole_of_split {t : Text} {above below : List Line} (h : split t = above ++ below)
    (hbelow : below ≠ []) : ∀ l ∈ above, l.IsWhole := by
  induction t generalizing above with
  | nil =>
    rw [split] at h
    exact absurd (List.append_eq_nil_iff.mp h.symm).2 hbelow
  | cons c t ih =>
    cases above with
    | nil => simp
    | cons k ks =>
      by_cases hc : c = '\n'
      · rw [split, if_pos hc] at h
        obtain ⟨rfl, hrest⟩ := List.cons.inj h
        intro l hl
        rcases List.mem_cons.mp hl with rfl | hl
        · exact ⟨by simp, Or.inr ⟨rfl, by simp⟩⟩
        · exact ih hrest l hl
      · rw [split, if_neg hc] at h
        cases hs : split t with
        | nil =>
          -- one line is not enough for `k` and a line below
          rw [hs, prepend] at h
          exact absurd (List.append_eq_nil_iff.mp (List.cons.inj h).2.symm).2 hbelow
        | cons m ms =>
          rw [hs] at h
          have hms : ms = ks ++ below := by
            obtain ⟨body, ending⟩ := m
            rw [prepend] at h
            split at h
            all_goals exact (List.cons.inj h).2
          have hwhole := @ih (m :: ks) (by rw [hs, hms]; rfl)
          intro l hl
          rcases List.mem_cons.mp hl with rfl | hl
          · exact ((hwhole m List.mem_cons_self).prepend hc h).1
          · exact hwhole l (List.mem_cons_of_mem _ hl)

/-- The last lines of a text, written again, are cut in the same way. -/
theorem split_unsplit_of_split {t : Text} {above below : List Line}
    (h : split t = above ++ below) : split (unsplit below) = below := by
  by_cases hbelow : below = []
  · rw [hbelow]
    rfl
  · have ht : t = unsplit above ++ unsplit below := by
      rw [← unsplit_append, ← h, unsplit_split]
    have hsplit : above ++ split (unsplit below) = above ++ below := by
      rw [← split_unsplit_append (isWhole_of_split h hbelow), ← ht, h]
    exact List.append_cancel_left hsplit

theorem text_isInfix_of_mem {l : Line} {ls : List Line} (h : l ∈ ls) : l.text <:+: unsplit ls := by
  obtain ⟨front, back, rfl⟩ := List.append_of_mem h
  rw [unsplit_append, unsplit_cons]
  exact List.infix_append' _ _ _

theorem content_isPrefix_text (l : Line) : l.content <+: l.text := by
  obtain ⟨body, ending⟩ := l
  cases ending <;> simp [content, text, LineBreak.text]

end Line

/-! ### Writing lines -/

namespace LineEnding

/-- The break that a line feed of a header becomes. -/
def lineBreak : LineEnding → LineBreak
  | lf => .lf
  | crlf => .crlf

end LineEnding

namespace Text

/-- The text with the given lines, a line feed after each of them. -/
def ofLines (ls : List Text) : Text := ls.flatMap (· ++ ['\n'])

/-- Lines that can be told apart after they were written: none holds a character of a break. -/
def AreLines (ls : List Text) : Prop := ∀ l ∈ ls, '\n' ∉ l ∧ '\r' ∉ l

@[simp]
theorem ofLines_append (ks ls : List Text) : ofLines (ks ++ ls) = ofLines ks ++ ofLines ls :=
  List.flatMap_append

theorem isWhole_of_areLines {ls : List Text} (h : AreLines ls) (e : LineEnding) :
    ∀ l ∈ ls.map (Line.mk · e.lineBreak), l.IsWhole := by
  intro l hl
  obtain ⟨body, hbody, rfl⟩ := List.mem_map.mp hl
  obtain ⟨hfeed, hreturn⟩ := h body hbody
  refine ⟨hfeed, ?_⟩
  cases e with
  | lf => exact Or.inr ⟨rfl, fun hr => hreturn (List.mem_of_getLast? hr)⟩
  | crlf => exact Or.inl rfl

/-- Writing lines with the line ending of a file only changes their breaks. -/
theorem apply_ofLines {ls : List Text} (h : AreLines ls) (e : LineEnding) :
    e.apply (ofLines ls) = Line.unsplit (ls.map (Line.mk · e.lineBreak)) := by
  cases e with
  | lf =>
    show ofLines ls = _
    rw [Line.unsplit, List.flatMap_map]
    rfl
  | crlf =>
    have hbody : ∀ body ∈ ls,
        (body ++ ['\n']).flatMap (fun c => if c = '\n' then ['\r', '\n'] else [c])
          = Line.text ⟨body, .crlf⟩ := by
      intro body hb
      have hone : ∀ c ∈ body, (if c = '\n' then ['\r', '\n'] else [c]) = [c] := by
        intro c hc
        have hne : c ≠ '\n' := fun hfeed => (h body hb).1 (hfeed ▸ hc)
        exact if_neg hne
      rw [List.flatMap_append, List.flatMap_congr hone, List.flatMap_singleton']
      rfl
    show (ofLines ls).flatMap _ = _
    rw [ofLines, List.flatMap_assoc, Line.unsplit, List.flatMap_map]
    exact List.flatMap_congr hbody

/-- **Lines are read back.**  Lines written in front of a text, with either line ending, are its
first lines. -/
theorem split_apply_ofLines {ls : List Text} (h : AreLines ls) (e : LineEnding) (t : Text) :
    Line.split (e.apply (ofLines ls) ++ t) = ls.map (Line.mk · e.lineBreak) ++ Line.split t := by
  rw [apply_ofLines h, Line.split_unsplit_append (isWhole_of_areLines h e)]

theorem lines_apply_ofLines_append {ls : List Text} (h : AreLines ls) (e : LineEnding) (t : Text) :
    (e.apply (ofLines ls) ++ t).lines = ls ++ t.lines := by
  have hcontent : ∀ body : Text, Line.content ⟨body, e.lineBreak⟩ = body := by
    intro body
    cases e <;> rfl
  rw [lines_eq, lines_eq, split_apply_ofLines h, List.map_append, List.map_map]
  congr 1
  exact (List.map_congr_left fun body _ => hcontent body).trans (List.map_id ls)

theorem lines_ofLines {ls : List Text} (h : AreLines ls) : (ofLines ls).lines = ls := by
  have hlines := lines_apply_ofLines_append h .lf []
  rw [List.append_nil] at hlines
  exact hlines.trans (List.append_nil ls)

theorem isInfix_of_mem_lines {t l : Text} (h : l ∈ t.lines) : l <:+: t := by
  rw [lines_eq] at h
  obtain ⟨line, hline, rfl⟩ := List.mem_map.mp h
  have htext : line.text <:+: t := by
    conv => rhs; rw [← Line.unsplit_split t]
    exact Line.text_isInfix_of_mem hline
  exact (Line.content_isPrefix_text line).isInfix.trans htext

theorem noFeed_of_mem_lines {t l : Text} (h : l ∈ t.lines) : '\n' ∉ l := by
  rw [lines_eq] at h
  obtain ⟨line, hline, rfl⟩ := List.mem_map.mp h
  have hfeed := Line.noFeed_of_mem_split hline
  obtain ⟨body, ending⟩ := line
  cases ending <;> simpa [Line.content] using hfeed

/-- The lines of a text without carriage returns can be told apart. -/
theorem areLines_lines {t : Text} (h : '\r' ∉ t) : AreLines t.lines := by
  intro l hl
  exact ⟨noFeed_of_mem_lines hl, fun hr => h ((isInfix_of_mem_lines hl).subset hr)⟩

end Text

end LicenseHeader
