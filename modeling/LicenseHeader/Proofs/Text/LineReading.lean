import LicenseHeader.Header.Template
import LicenseHeader.Proofs.Text.Places

/-!
# Reading a text line by line

A header is looked for by a cursor that reads one line after the other, and it is compared with the
lines of the text.  Both see the text cut after each of its line feeds.  They differ in one thing only:
a carriage return at the very end of the text is left out by the cursor, and is a character of the last
line otherwise.

* `Text.IsCut`: a text is cut after each line feed, in one way only (`Text.isCut_pieces`,
  `Text.IsCut.pieces_eq`);
* `Cursor.readAll`: a cursor reads until nothing is left, and `Cursor.readAll_of_isAt`: it reads the
  lines at their places;
* `Cursor.reads_same_lines` is the result.
-/

namespace LicenseHeader

namespace Text

/-! ### Pieces of a text -/

/-- The text is cut into pieces after each of its line feeds. -/
inductive IsCut : Text → List Text → Prop where
  | nil : IsCut [] []
  /-- What stands after the last line feed, if there is something. -/
  | last {p : Text} : p ≠ [] → '\n' ∉ p → IsCut p [p]
  | feed {p t : Text} {pieces : List Text} : '\n' ∉ p → IsCut t pieces →
      IsCut (p ++ '\n' :: t) ((p ++ ['\n']) :: pieces)

variable {t p : Text} {pieces : List Text}

/-- A character in front of a text that is cut goes into the first piece, unless it is a line feed. -/
theorem exists_isCut (t : Text) : ∃ pieces, t.IsCut pieces := by
  induction t with
  | nil => exact ⟨[], .nil⟩
  | cons c t ih =>
    obtain ⟨pieces, hcut⟩ := ih
    by_cases hc : c = '\n'
    · subst hc
      exact ⟨_, .feed (p := []) (by simp) hcut⟩
    · cases hcut with
      | nil => exact ⟨_, .last (p := [c]) (by simp) (by simpa using Ne.symm hc)⟩
      | last hne hp => exact ⟨_, .last (p := c :: t) (by simp) (by simpa [Ne.symm hc] using hp)⟩
      | @feed p t pieces hp hcut =>
        exact ⟨_, .feed (p := c :: p) (by simpa [Ne.symm hc] using hp) hcut⟩

theorem IsCut.flatten_eq (h : t.IsCut pieces) : pieces.flatten = t := by
  induction h with
  | nil => rfl
  | last => simp
  | feed _ _ ih => simp [ih]

theorem IsCut.ne_nil (h : t.IsCut pieces) : ∀ p ∈ pieces, p ≠ [] := by
  induction h with
  | nil => simp
  | last hne => simpa using hne
  | feed _ _ ih => simpa using ih

/-- **The two ways to drop line breaks agree**, except for a carriage return at the end of the text. -/
theorem IsCut.map_withoutBreak (h : t.IsCut pieces) :
    (t.getLast? ≠ some '\r' ∧ pieces.map withoutBreak = pieces.map asLine) ∨
    (t.getLast? = some '\r' ∧ ∃ front last,
      pieces.map asLine = front ++ [last ++ ['\r']] ∧ pieces.map withoutBreak = front ++ [last]) := by
  induction h with
  | nil => exact Or.inl ⟨by simp, rfl⟩
  | @last p hne hp =>
    have hline : p.asLine = p := asLine_of_ne (getLast?_ne_feed hp)
    have hbare : p.withoutBreak = p.dropEnd '\r' := withoutBreak_of_ne (getLast?_ne_feed hp)
    by_cases hreturn : p.getLast? = some '\r'
    · refine Or.inr ⟨hreturn, [], p.dropEnd '\r', ?_, ?_⟩
      · simp [hline, dropEnd_append hreturn]
      · simp [hbare]
    · refine Or.inl ⟨hreturn, ?_⟩
      simp [hline, hbare, dropEnd_of_ne hreturn]
  | @feed p t pieces hp hcut ih =>
    -- the end of the text is that of the rest, and the first piece is the same in both ways
    have hlast : (p ++ '\n' :: t).getLast? = some '\r' ↔ t.getLast? = some '\r' := by
      cases ht : t.getLast? <;> simp [List.getLast?_append, List.getLast?_cons, ht]
    rw [Ne, hlast]
    rcases ih with ⟨hreturn, hmap⟩ | ⟨hreturn, front, last, hlines, hmap⟩
    · refine Or.inl ⟨hreturn, ?_⟩
      rw [List.map_cons, List.map_cons, hmap, asLine_feed]
    · refine Or.inr ⟨hreturn, (p ++ ['\n']).asLine :: front, last, ?_, ?_⟩
      · rw [List.map_cons, hlines, List.cons_append]
      · rw [List.map_cons, hmap, asLine_feed, List.cons_append]

/-- A text can be cut in one way only. -/
theorem IsCut.pieces_eq (h : t.IsCut pieces) : t.pieces = pieces := by
  induction h with
  | nil => rfl
  | last hne hp => exact pieces_of_noFeed hne hp
  | feed hp _ ih => rw [pieces_feed_append hp, ih]

theorem isCut_pieces (t : Text) : t.IsCut t.pieces := by
  obtain ⟨pieces, hcut⟩ := t.exists_isCut
  rw [hcut.pieces_eq]
  exact hcut

end Text

/-! ### Reading until nothing is left -/

/-- A line that was read. -/
structure LineReading where
  line : Text
  /-- The place where the line begins. -/
  start : Nat
  /-- The place where the next line begins. -/
  stop : Nat
  deriving DecidableEq, Repr

/-- The lines of pieces that follow each other from a place on. -/
def LineReading.along : Nat → List Text → List LineReading
  | _, [] => []
  | place, p :: pieces => ⟨p.withoutBreak, place, place + p.size⟩ :: along (place + p.size) pieces

theorem LineReading.map_line_along (place : Nat) (pieces : List Text) :
    (along place pieces).map line = pieces.map Text.withoutBreak := by
  induction pieces generalizing place with
  | nil => rfl
  | cons p pieces ih => rw [along, List.map_cons, List.map_cons, ih]

namespace Cursor

/-- Reads lines until none is left, each of which brings the cursor nearer to the end.  Reading fails
at a place that does not lie between two characters. -/
def readAll (c : Cursor) : Option (List LineReading) :=
  match _h : c.nextLine with
  | none => none
  | some (none, _) => some []
  | some (some line, next) => (readAll next).map (⟨line, c.offset, next.offset⟩ :: ·)
  termination_by c.text.size - c.offset
  decreasing_by exact lt_of_nextLine _h

variable {c : Cursor} {t : Text}

theorem readAll_of_none {next : Cursor} (h : c.nextLine = some (none, next)) : c.readAll = some [] := by
  rw [readAll]
  split <;> simp_all

theorem readAll_of_some {next : Cursor} {line : Text} (h : c.nextLine = some (some line, next)) :
    c.readAll = next.readAll.map (⟨line, c.offset, next.offset⟩ :: ·) := by
  rw [readAll]
  split <;> simp_all

/-- **A cursor reads the pieces that are left**, one after the other. -/
theorem readAll_of_isAt {pieces : List Text} (h : c.IsAt t (pieces.map Line.ofPiece)) :
    c.readAll = some (LineReading.along c.offset pieces) := by
  induction pieces generalizing c with
  | nil => exact readAll_of_none (nextLine_nil h)
  | cons p pieces ih =>
    have hsize : (Line.ofPiece p).size = p.size := by rw [Line.size, Line.text_ofPiece]
    rw [readAll_of_some (nextLine_cons h), ih h.next, hsize]
    rfl

theorem readAll_ofText (t : Text) : (ofText t).readAll = some (LineReading.along 0 t.pieces) := by
  have hstart := isAt_reset (ofText t)
  rw [show (ofText t).text = t from rfl, Line.split_eq_pieces] at hstart
  exact readAll_of_isAt hstart

/-- **A cursor and the header checks see the same lines.**  A cursor at the start of a text reads to its
end, and never fails.  The bytes from the start of each line to its stop are a piece of the text that is
not empty; the pieces follow each other, make up the text, and are cut after each line feed.  Their
lines are those of a header with this text, and those in which a header is looked for, except that a
carriage return at the very end of the text is not read.  After going back, any cursor reads its last
line again and comes to the same place. -/
theorem reads_same_lines (t : Text) :
    (∃ pieces readings,
      (∀ other, t.IsCut other ↔ other = pieces) ∧
      pieces.flatten = t ∧ (∀ p ∈ pieces, p ≠ []) ∧
      (ofText t).readAll = some readings ∧ readings = LineReading.along 0 pieces ∧
      (HeaderTemplate.mk t).lines = pieces.map Text.asLine ∧
      (∀ h : HeaderTemplate, h.firstLines t =
        (pieces.map Text.asLine).take (h.lines.length + HeaderTemplate.extraLines)) ∧
      ((t.getLast? ≠ some '\r' ∧ readings.map LineReading.line = (HeaderTemplate.mk t).lines) ∨
        (t.getLast? = some '\r' ∧ ∃ front last,
          (HeaderTemplate.mk t).lines = front ++ [last ++ ['\r']] ∧
          readings.map LineReading.line = front ++ [last]))) ∧
    ∀ (c c' : Cursor) (line : Text), c.nextLine = some (some line, c') →
      c'.rewind.nextLine = some (some line, c') := by
  refine ⟨?_, fun c c' line => nextLine_rewind⟩
  have hcut := t.isCut_pieces
  refine ⟨t.pieces, LineReading.along 0 t.pieces, ?_, hcut.flatten_eq, hcut.ne_nil, readAll_ofText t, rfl,
    rfl, fun h => rfl, ?_⟩
  · intro other
    constructor
    · exact fun hother => hother.pieces_eq.symm
    · intro hother
      rw [hother]
      exact hcut
  · rw [LineReading.map_line_along]
    exact hcut.map_withoutBreak

/-- A text of two lines that ends in a carriage return. -/
theorem reads_same_lines_final_return :
    let t : Text := "one\r\ntwo\r".toList
    let second : Cursor := { text := t, offset := 5 }
    let after : Cursor := { text := t, offset := 9, mark := 5 }
    (ofText t).readAll = some [⟨"one".toList, 0, 5⟩, ⟨"two".toList, 5, 9⟩] ∧
    (HeaderTemplate.mk t).lines = ["one".toList, "two\r".toList] ∧
    second.nextLine = some (some "two".toList, after) ∧
    after.rewind.nextLine = some (some "two".toList, after) := by
  intro t second after
  have hcut : t.IsCut ["one\r\n".toList, "two\r".toList] := by
    refine Text.IsCut.feed (p := "one\r".toList) (by decide) ?_
    exact Text.IsCut.last (by decide) (by decide)
  have hnext : second.nextLine = some (some "two".toList, after) := by
    have hplace : Text.atByte? 5 t = some ("one\r\n".toList, "two\r".toList) :=
      Text.atByte?_eq_some_iff.mpr ⟨by decide, by decide⟩
    exact nextLine_of_split (by decide) hplace
      (show Line.split "two\r".toList = ⟨"two".toList, .cr⟩ :: [] by decide)
  obtain ⟨⟨pieces, readings, hpieces, -, -, hread, rfl, hlines, -⟩, hagain⟩ := reads_same_lines t
  obtain rfl := (hpieces _).mp hcut
  exact ⟨hread, hlines, hnext, hagain second after _ hnext⟩

end Cursor

end LicenseHeader
