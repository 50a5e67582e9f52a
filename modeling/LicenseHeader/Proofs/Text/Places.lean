import LicenseHeader.Text.Cursor
import LicenseHeader.Proofs.Text.Lines

/-!
# Places in a text

Places are counted in bytes.  A place is usable only if it lies between two characters, and a cursor
that is moved by lines only comes to places where a line begins.

* `Text.atByte?_eq_some_iff`: a place lies between two characters exactly if it is the size of a
  front part of the text;
* `Text.AfterFeed` and `Line.afterFeed_of_split`: between two lines there is a line feed;
* `Cursor.IsAt`: a cursor stands before some of the last lines of its text, and `nextLine_cons`,
  `nextLine_nil` say what is read there;
* `Cursor.nextLine_rewind`: a line that was read can be read again;
* `Cursor.insert_eq_some` and `Cursor.delete_eq_some`: changes between characters succeed.
-/

namespace LicenseHeader

/-! ### Sizes -/

namespace Text

theorem size_eq_zero_iff {t : Text} : t.size = 0 ↔ t = [] := by
  cases t with
  | nil => simp
  | cons c t =>
    have hc := c.utf8Size_pos
    simp only [size_cons, List.cons_ne_nil, iff_false]
    omega

theorem size_pos_of_ne_nil {t : Text} (h : t ≠ []) : 0 < t.size :=
  Nat.pos_of_ne_zero fun hz => h (size_eq_zero_iff.mp hz)

/-! ### Cutting at a place -/

theorem atByte?_zero (t : Text) : atByte? 0 t = some ([], t) := by
  unfold atByte?
  rfl

theorem atByte?_cons {n : Nat} (hn : 0 < n) (c : Char) (t : Text) :
    atByte? n (c :: t) = if c.utf8Size ≤ n then
      (atByte? (n - c.utf8Size) t).map fun cut => (c :: cut.1, cut.2) else none := by
  obtain ⟨k, rfl⟩ := Nat.exists_eq_add_one_of_ne_zero (Nat.pos_iff_ne_zero.mp hn)
  rw [atByte?]

theorem atByte?_size_append (front back : Text) :
    atByte? front.size (front ++ back) = some (front, back) := by
  induction front with
  | nil => exact atByte?_zero back
  | cons c front ih =>
    have hc := c.utf8Size_pos
    have hn : 0 < size (c :: front) := by rw [size_cons]; omega
    rw [List.cons_append, atByte?_cons hn, size_cons, if_pos (by omega), Nat.add_sub_cancel_left, ih]
    rfl

/-- **Where a text can be cut.**  A place lies between two characters if it is the size of what is
before it. -/
theorem atByte?_eq_some_iff {n : Nat} {t front back : Text} :
    atByte? n t = some (front, back) ↔ t = front ++ back ∧ front.size = n := by
  constructor
  · intro h
    induction t generalizing n front with
    | nil =>
      cases n with
      | zero =>
        rw [atByte?_zero] at h
        obtain ⟨rfl, rfl⟩ := Prod.mk.inj (Option.some.inj h)
        exact ⟨rfl, rfl⟩
      | succ n => simp [atByte?] at h
    | cons c t ih =>
      rcases Nat.eq_zero_or_pos n with rfl | hn
      · rw [atByte?_zero] at h
        obtain ⟨rfl, rfl⟩ := Prod.mk.inj (Option.some.inj h)
        exact ⟨rfl, rfl⟩
      · rw [atByte?_cons hn] at h
        split at h
        · rename_i hle
          obtain ⟨⟨front', back'⟩, hcut, heq⟩ := Option.map_eq_some_iff.mp h
          obtain ⟨rfl, rfl⟩ := Prod.mk.inj heq
          obtain ⟨rfl, hsize⟩ := ih hcut
          refine ⟨rfl, ?_⟩
          rw [size_cons, hsize]
          omega
        · exact absurd h (by simp)
  · rintro ⟨rfl, rfl⟩
    exact atByte?_size_append front back

/-- The place `n` is right after a line feed of the text. -/
def AfterFeed (t : Text) (n : Nat) : Prop :=
  ∃ front back, t = front ++ '\n' :: back ∧ n = size (front ++ ['\n'])

end Text

/-! ### Places between lines -/

namespace Line

@[simp]
theorem totalSize_nil : totalSize [] = 0 := rfl

@[simp]
theorem totalSize_cons (l : Line) (ls : List Line) : totalSize (l :: ls) = l.size + totalSize ls := by
  simp [totalSize, size]

@[simp]
theorem totalSize_append (ks ls : List Line) :
    totalSize (ks ++ ls) = totalSize ks + totalSize ls := by
  simp [totalSize]

@[simp]
theorem totalSize_split (t : Text) : totalSize (split t) = t.size := by
  rw [totalSize, unsplit_split]

/-- No line of a text is without characters. -/
theorem text_ne_nil_of_mem_split {t : Text} {l : Line} (h : l ∈ split t) : l.text ≠ [] := by
  induction t generalizing l with
  | nil => simp [split] at h
  | cons c t ih =>
    by_cases hc : c = '\n'
    · rw [split, if_pos hc] at h
      rcases List.mem_cons.mp h with rfl | h
      · simp [text, LineBreak.text]
      · exact ih h
    · rw [split, if_neg hc] at h
      cases hs : split t with
      | nil =>
        rw [hs, prepend, List.mem_singleton] at h
        by_cases hr : c = '\r' <;> simp [h, hr, text, LineBreak.text]
      | cons k ks =>
        obtain ⟨body, ending⟩ := k
        rw [hs] at h ih
        rw [prepend] at h
        split at h
        all_goals rcases List.mem_cons.mp h with rfl | h
        · simp [text, LineBreak.text]
        · exact ih (List.mem_cons_of_mem _ h)
        · simp [text]
        · exact ih (List.mem_cons_of_mem _ h)

theorem size_pos_of_mem_split {t : Text} {l : Line} (h : l ∈ split t) : 0 < l.size :=
  Text.size_pos_of_ne_nil (text_ne_nil_of_mem_split h)

/-- The text of a line that ends with a line feed. -/
theorem IsWhole.text_eq {l : Line} (h : l.IsWhole) : ∃ front, l.text = front ++ ['\n'] := by
  obtain ⟨body, ending⟩ := l
  rcases h.ending with he | ⟨he, -⟩
  · obtain rfl : ending = .crlf := he
    exact ⟨body ++ ['\r'], by simp [text, LineBreak.text]⟩
  · obtain rfl : ending = .lf := he
    exact ⟨body, rfl⟩

/-- **Between two lines there is a line feed.** -/
theorem afterFeed_of_split {t : Text} {above below : List Line} (h : split t = above ++ below)
    (habove : above ≠ []) (hbelow : below ≠ []) : t.AfterFeed (totalSize above) := by
  obtain ⟨front, l, rfl⟩ := List.eq_nil_or_concat above |>.resolve_left habove
  rw [List.concat_eq_append] at h ⊢
  obtain ⟨start, hstart⟩ := (isWhole_of_split h hbelow l (by simp)).text_eq
  refine ⟨unsplit front ++ start, unsplit below, ?_, ?_⟩
  · rw [← unsplit_split t, h]
    simp [hstart]
  · simp [totalSize, hstart]

end Line

/-! ### Cursors between lines -/

namespace Cursor

/-- A cursor of the text `t` that stands before its last lines `rest`. -/
structure IsAt (c : Cursor) (t : Text) (rest : List Line) : Prop where
  text : c.text = t
  suffix : rest <:+ Line.split t
  offset : c.offset + Line.totalSize rest = t.size

variable {c : Cursor} {t : Text} {l : Line} {rest : List Line}

theorem isAt_reset (c : Cursor) : c.reset.IsAt c.text (Line.split c.text) :=
  ⟨rfl, List.suffix_rfl, by simp [reset, moveTo]⟩

/-- A cursor that goes back to a place where it has been. -/
theorem IsAt.moveTo {c' : Cursor} (h : c.IsAt t rest) (htext : c'.text = t) :
    (c'.moveTo c.offset).IsAt t rest :=
  ⟨htext, h.suffix, h.offset⟩

/-- What is before the cursor is the text of the lines before it. -/
theorem IsAt.atByte? (h : c.IsAt t rest) :
    ∃ front, Line.split t = front ++ rest ∧
      Text.atByte? c.offset c.text = some (Line.unsplit front, Line.unsplit rest) := by
  obtain ⟨front, hfront⟩ := h.suffix
  have htext : t = Line.unsplit front ++ Line.unsplit rest := by
    rw [← Line.unsplit_append, hfront, Line.unsplit_split]
  have hsize := h.offset
  refine ⟨front, hfront.symm, Text.atByte?_eq_some_iff.mpr ⟨h.text.trans htext, ?_⟩⟩
  rw [← Line.totalSize_split t, ← hfront, Line.totalSize_append] at hsize
  have hunsplit : (Line.unsplit front).size = Line.totalSize front := rfl
  omega

theorem nextLine_nil (h : c.IsAt t []) : c.nextLine = some (none, c) := by
  have hend : c.atEnd = true := by
    have hsize := h.offset
    rw [Line.totalSize_nil] at hsize
    simp [atEnd, h.text, ← hsize]
  rw [nextLine, if_pos hend]

theorem nextLine_of_split {front back : Text} {ls : List Line} (hend : ¬c.atEnd = true)
    (hcut : Text.atByte? c.offset c.text = some (front, back)) (hsplit : Line.split back = l :: ls) :
    c.nextLine = some (some l.body, { c with offset := c.offset + l.size, mark := c.offset }) := by
  rw [nextLine, if_neg hend, hcut]
  dsimp only
  rw [Line.split_eq_pieces] at hsplit
  cases hfirst : back.findIdx? (· = '\n') with
  | some i =>
    obtain ⟨hback, hfeed⟩ := Text.cut_of_findIdx? hfirst
    rw [hback, Text.pieces_feed_append hfeed] at hsplit
    obtain ⟨rfl, -⟩ := List.cons.inj hsplit
    rw [Line.size, Line.text_ofPiece, Line.ofPiece_feed, Text.size_append]
    rfl
  | none =>
    have hfeed := Text.noFeed_of_findIdx? hfirst
    have hne : back ≠ [] := by
      rintro rfl
      cases hsplit
    rw [Text.pieces_of_noFeed hne hfeed] at hsplit
    obtain ⟨rfl, -⟩ := List.cons.inj hsplit
    rw [Line.size, Line.text_ofPiece, Line.ofPiece_of_ne (Text.getLast?_ne_feed hfeed)]

theorem nextLine_cons (h : c.IsAt t (l :: rest)) :
    c.nextLine = some (some l.body, { c with offset := c.offset + l.size, mark := c.offset }) := by
  have hpos : 0 < l.size := Line.size_pos_of_mem_split (h.suffix.subset List.mem_cons_self)
  have hend : ¬c.atEnd = true := by
    have hsize := h.offset
    rw [Line.totalSize_cons] at hsize
    simp only [atEnd, h.text, decide_eq_true_eq]
    omega
  obtain ⟨front, hfront, hcut⟩ := h.atByte?
  exact nextLine_of_split hend hcut (Line.split_unsplit_of_split hfront)

/-- The cursor after a line was read. -/
theorem IsAt.next (h : c.IsAt t (l :: rest)) :
    ({ c with offset := c.offset + l.size, mark := c.offset } : Cursor).IsAt t rest := by
  have hsize := h.offset
  rw [Line.totalSize_cons] at hsize
  refine ⟨h.text, (List.suffix_cons l rest).trans h.suffix, ?_⟩
  show c.offset + l.size + Line.totalSize rest = t.size
  omega

/-- What a cursor that has read a line found before it. -/
theorem exists_of_nextLine {c' : Cursor} {line : Text} (h : c.nextLine = some (some line, c')) :
    ∃ front back l ls, ¬c.atEnd = true ∧ Text.atByte? c.offset c.text = some (front, back) ∧
      Line.split back = l :: ls ∧ line = l.body ∧
      c' = { c with offset := c.offset + l.size, mark := c.offset } := by
  have hend : ¬c.atEnd = true := by
    intro hend
    rw [nextLine, if_pos hend] at h
    cases h
  cases hcut : Text.atByte? c.offset c.text with
  | none =>
    rw [nextLine, if_neg hend, hcut] at h
    cases h
  | some cut =>
    obtain ⟨front, back⟩ := cut
    cases hsplit : Line.split back with
    | nil =>
      -- nothing would be left behind the cursor
      obtain ⟨htext, hsize⟩ := Text.atByte?_eq_some_iff.mp hcut
      have hback : back = [] := by rw [← Line.unsplit_split back, hsplit, Line.unsplit_nil]
      rw [hback, List.append_nil] at htext
      exact absurd (decide_eq_true (htext ▸ hsize.le)) hend
    | cons l ls =>
      rw [nextLine_of_split hend hcut hsplit] at h
      obtain ⟨hline, rfl⟩ := Prod.mk.inj (Option.some.inj h)
      exact ⟨front, back, l, ls, hend, rfl, hsplit, (Option.some.inj hline).symm, rfl⟩

/-- Reading a line brings the cursor nearer to the end, wherever it stands. -/
theorem lt_of_nextLine {c' : Cursor} {line : Text} (h : c.nextLine = some (some line, c')) :
    c'.text.size - c'.offset < c.text.size - c.offset := by
  obtain ⟨front, back, l, ls, hend, -, hsplit, -, rfl⟩ := exists_of_nextLine h
  have hpos : 0 < l.size := Line.size_pos_of_mem_split (hsplit ▸ List.mem_cons_self)
  simp only [atEnd, decide_eq_true_eq] at hend
  show c.text.size - (c.offset + l.size) < _
  omega

/-- **A line can be read again.**  After going back, the cursor reads the same line and comes to the
same place, wherever it stood before. -/
theorem nextLine_rewind {c' : Cursor} {line : Text} (h : c.nextLine = some (some line, c')) :
    c'.rewind.nextLine = some (some line, c') := by
  obtain ⟨front, back, l, ls, hend, hcut, hsplit, rfl, rfl⟩ := exists_of_nextLine h
  exact nextLine_of_split (c := { c with mark := c.offset }) hend hcut hsplit

/-! ### Changes -/

theorem insert_eq_some {before after : Text} (h : c.text = before ++ after) (new : Text) :
    c.insert before.size new = some { c with text := before ++ new ++ after } := by
  rw [insert, h, Text.atByte?_size_append]
  rfl

theorem delete_eq_some {before old after : Text} (h : c.text = before ++ (old ++ after)) :
    c.delete before.size (before.size + old.size) = some { c with text := before ++ after } := by
  have hlast : Text.atByte? (before.size + old.size) c.text = some (before ++ old, after) := by
    rw [Text.atByte?_eq_some_iff, Text.size_append, List.append_assoc]
    exact ⟨h, rfl⟩
  rw [delete, if_neg (by omega), hlast, h, Text.atByte?_size_append]

end Cursor

end LicenseHeader
