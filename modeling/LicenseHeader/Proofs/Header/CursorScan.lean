import LicenseHeader.Proofs.Header.Reading
import LicenseHeader.Proofs.Text.Places

/-!
# Looking for a header with a cursor

`HeaderScan.run` has all lines of a file in front of it.  Here the same search is done over the bytes
of the file: a cursor goes on line by line, turns back where it has read too far, and keeps the places
of the header in bytes.  Every reading of a line could fail, at a place that is not between two
characters, and no number of lines is given beforehand.

* `LineReader` and its steps, `LineReader.skipWhile` and `LineReader.readRun` among them, which end
  because the cursor comes nearer to the end of the file;
* `HeaderPlaces.scan`: the whole search;
* `LineReader.Reads`: the reader shows the first of some lines of the file, and the cursor stands
  after it;
* `HeaderPlaces.scan_eq_run`: the search never fails, and finds what `HeaderScan.run` finds.
-/

namespace LicenseHeader

/-- A cursor with the line that was read last, nothing at the end of the text. -/
structure LineReader where
  cursor : Cursor
  line : Option Text

namespace LineReader

/-- Reads the next line. -/
def next (r : LineReader) : Option LineReader :=
  r.cursor.nextLine.map fun (line, cursor) => ⟨cursor, line⟩

/-- Goes back to the start of the line. -/
def rewind (r : LineReader) : LineReader := { r with cursor := r.cursor.rewind }

/-- Goes to a place. -/
def moveTo (r : LineReader) (place : Nat) : LineReader := { r with cursor := r.cursor.moveTo place }

/-- Reads on as long as the line is of a kind, and keeps the place after the last such line. -/
def skipWhile (p : Text → Bool) (place : Nat) (r : LineReader) : Option (Nat × LineReader) :=
  match r.line with
  | none => some (place, r)
  | some l =>
    if p l then
      match _h : r.cursor.nextLine with
      | none => none
      | some (none, cursor) => some (r.cursor.offset, ⟨cursor, none⟩)
      | some (some l', cursor) => skipWhile p r.cursor.offset ⟨cursor, some l'⟩
    else some (place, r)
  termination_by r.cursor.text.size - r.cursor.offset
  decreasing_by exact Cursor.lt_of_nextLine _h

/-- Reads on over blank lines. -/
def skipBlanks (r : LineReader) : Option LineReader := (r.skipWhile Text.isBlank 0).map (·.2)

/-- Reads on over the lines of a run and adds their words in lower case.  Tells whether the last line
closes a block. -/
def readRun (s : Style) (words : Text) (r : LineReader) : Option (Text × Bool × LineReader) :=
  match _h : r.cursor.nextLine with
  | none => none
  | some (none, cursor) => some (words, false, ⟨cursor, none⟩)
  | some (some l, cursor) =>
    if (HeaderScan.runStart s).isPrefixOf l then
      if s.isBlock && s.isLastLine l then some (words ++ l.lower, true, ⟨cursor, some l⟩)
      else readRun s (words ++ l.lower) ⟨cursor, some l⟩
    else some (words, false, ⟨cursor, some l⟩)
  termination_by r.cursor.text.size - r.cursor.offset
  decreasing_by exact Cursor.lt_of_nextLine _h

/-- Reads the lines of a header after its second line, and tells whether the header ends there. -/
def readWords (s : Style) (words second : Text) (r : LineReader) :
    Option (Text × Bool × LineReader) :=
  if s.isBlock && s.isLastLine second || second.isBlank then some (words, true, r)
  else do
    let (words, closed, r) ← r.readRun s words
    return (words, closed || r.line.all Text.isBlank, r)

/-- Leaves a line that does not belong to the run.  In a block with blank lines, the next line that is
not blank is left instead. -/
def stepBack (s : Style) (ended : Bool) (r : LineReader) : Option LineReader :=
  if s.isBlock && s.allowsBlank && !ended then do
    let next ← r.next
    let last ← next.skipBlanks
    return if last.line.isSome then last.rewind else last
  else if !s.isBlock && !ended then some r.rewind
  else some r

/-- Reads a line that closes the header. -/
def readClosing (s : Style) (r : LineReader) : Option LineReader :=
  if s.isBlock then
    if r.line.isSome then do
      let closing ← r.next
      return if closing.line.any s.isLastLine then closing else closing.moveTo r.cursor.offset
    else some r
  else do
    let (_, last) ← r.skipWhile (fun l => !s.isLastLine l && (s.allowsBlank || !l.isBlank) &&
      (HeaderScan.runStart s).isPrefixOf l) 0
    return if last.line.isNone then last.moveTo r.cursor.offset else last

/-- Reads a header after its second line, and gives its words. -/
def readBody (s : Style) (words second : Text) (r : LineReader) : Option (Text × LineReader) := do
  let (words, ended, r) ← r.readWords s words second
  let r ← r.stepBack s ended
  let r ← r.readClosing s
  return (words, r)

/-- Reads the second line of a header, blank lines left out where they are allowed. -/
def readSecond (s : Style) (r : LineReader) : Option LineReader := do
  let next ← r.next
  if s.allowsBlank then next.skipBlanks else return next

/-- Reads a header and tells whether there is one that has all keywords. -/
def readHeader (s : Style) (keywords : List Text) (r : LineReader) : Option (Bool × LineReader) := do
  let r ← r.skipBlanks
  match r.line with
  | none => return (false, r)
  | some first =>
    if s.isFirstLine first then
      let r ← r.readSecond s
      match r.line with
      | none => return (false, r)
      | some second =>
        let (words, r) ← r.readBody s (first.lower ++ second.lower) second
        return (keywords.all (·.isIn words), r)
    else return (false, r)

/-- Reads on over the lines that stay above a header, and gives the place below them. -/
def skipAbove (s : Style) (r : LineReader) : Option (Nat × LineReader) :=
  if s.skip.isNone then some (0, r)
  else do
    let (place, r) ← r.skipWhile (fun l => !s.isSkipLine l) 0
    let (place, r) ← r.skipWhile s.isSkipLine place
    if r.line.isNone then
      let r ← next ⟨r.cursor.reset, none⟩
      return (0, r)
    else return (place, r)

/-- Reads the blank lines after a header that belong to it, and gives the place after them. -/
def skipSpacing (s : Style) (atTop : Bool) (r : LineReader) : Option (Nat × LineReader) := do
  let next ← r.next
  let (place, last) ← next.skipWhile (fun l => atTop && l.isBlank) r.cursor.offset
  return if s.closing.getLast? = some '\n' ∧ last.line.any Text.isBlank then
    (last.cursor.offset, last) else (place, last)

end LineReader

/-- Where a header is, in bytes. -/
structure HeaderPlaces where
  /-- The place where the header begins or would go. -/
  start : Nat
  /-- The place where it ends, if there is one. -/
  stop : Option Nat
  /-- Whether there is a header. -/
  existing : Bool

namespace HeaderPlaces

/-- Looks for the header of a file, with a cursor that stands anywhere in it. -/
def scan (s : Style) (keywords : List Text) (c : Cursor) : Option (HeaderPlaces × Cursor) := do
  let r ← LineReader.next ⟨c.reset, none⟩
  let (start, r) ← r.skipAbove s
  let (existing, r) ← r.readHeader s keywords
  if existing then
    let (stop, r) ← r.skipSpacing s (start = 0)
    return (⟨start, some stop, true⟩, r.cursor)
  else return (⟨start, none, false⟩, r.cursor)

end HeaderPlaces

/-! ### What the steps read -/

namespace LineReader

/-- The reader shows the first of the last lines `lines` of a text, and its cursor stands after that
line.  From there it can go back. -/
structure Reads (r : LineReader) (t : Text) (lines : List Line) : Prop where
  line : r.line = lines.head?.map Line.body
  isAt : r.cursor.IsAt t lines.tail
  back : lines ≠ [] → r.cursor.rewind.IsAt t lines

variable {s : Style} {r : LineReader} {t : Text} {lines : List Line}

theorem next_eq_some (h : r.cursor.IsAt t lines) : ∃ r', r.next = some r' ∧ r'.Reads t lines := by
  cases lines with
  | nil =>
    refine ⟨⟨r.cursor, none⟩, ?_, rfl, h, fun hne => absurd rfl hne⟩
    rw [next, Cursor.nextLine_nil h]
    rfl
  | cons l rest =>
    refine ⟨⟨_, some l.body⟩, ?_, rfl, h.next, fun _ => ⟨h.text, h.suffix, h.offset⟩⟩
    rw [next, Cursor.nextLine_cons h]
    rfl

theorem skipWhile_of_neg {p : Text → Bool} (h : ∀ l, r.line = some l → ¬p l = true) (place : Nat) :
    r.skipWhile p place = some (place, r) := by
  rw [skipWhile]
  split
  · rfl
  · rename_i l hline
    rw [if_neg (h l hline)]

/-- One more line of the kind. -/
theorem skipWhile_of_pos {p : Text → Bool} {l : Text} {r' : LineReader} (hline : r.line = some l)
    (hp : p l = true) (hnext : r.next = some r') (place : Nat) :
    r.skipWhile p place = r'.skipWhile p r.cursor.offset := by
  obtain ⟨⟨line, cursor⟩, hcursor, rfl⟩ := Option.map_eq_some_iff.mp hnext
  rw [skipWhile, hline]
  dsimp only
  rw [if_pos hp]
  cases line with
  | none =>
    rw [skipWhile_of_neg (by simp)]
    split <;> simp_all
  | some line => split <;> simp_all

/-- **Reading on over lines of a kind.**  A place before the first line is moved to the line where the
reading stops. -/
theorem skipWhile_eq_some (h : r.Reads t lines) (p : Text → Bool) (place : Nat) :
    ∃ place' r', r.skipWhile p place = some (place', r') ∧
      r'.Reads t (lines.dropWhile fun l => p l.body) ∧
      (place + Line.totalSize lines = t.size →
        place' + Line.totalSize (lines.dropWhile fun l => p l.body) = t.size) := by
  induction lines generalizing r place with
  | nil => exact ⟨place, r, skipWhile_of_neg (by simp [h.line]) place, h, id⟩
  | cons l rest ih =>
    have hline : r.line = some l.body := h.line
    by_cases hp : p l.body = true
    · have hdrop : (l :: rest).dropWhile (fun l => p l.body) = rest.dropWhile fun l => p l.body :=
        List.dropWhile_cons_of_pos hp
      obtain ⟨r', hnext, hreads⟩ := next_eq_some h.isAt
      obtain ⟨place', r'', hskip, hreads', hplace⟩ := ih hreads r.cursor.offset
      rw [hdrop]
      exact ⟨place', r'', (skipWhile_of_pos hline hp hnext place).trans hskip, hreads',
        fun _ => hplace h.isAt.offset⟩
    · have hdrop : (l :: rest).dropWhile (fun l => p l.body) = l :: rest :=
        List.dropWhile_cons_of_neg hp
      rw [hdrop]
      refine ⟨place, r, skipWhile_of_neg ?_ place, h, id⟩
      intro k hk
      rw [hline] at hk
      rwa [← Option.some.inj hk]

theorem skipBlanks_eq_some (h : r.Reads t lines) :
    ∃ r', r.skipBlanks = some r' ∧ r'.Reads t (lines.dropWhile Line.isBlank) := by
  obtain ⟨_, r', hskip, hreads, -⟩ := skipWhile_eq_some h Text.isBlank 0
  exact ⟨r', by rw [skipBlanks, hskip]; rfl, hreads⟩

/-- The reader after a run, given where the run stops and what is left. -/
def EndsRun (r : LineReader) (t : Text) (closed : Bool) : HeaderScan.Stop → List Line → Prop
  | .endOfFile, left => closed = false ∧ left = [] ∧ r.Reads t []
  | .closing, left => closed = true ∧ ∃ c, r.Reads t (c :: left)
  | .other l, left => closed = false ∧ r.Reads t (l :: left)

theorem readRun_of_nextLine {line : Option Text} {cursor : Cursor}
    (h : r.cursor.nextLine = some (line, cursor)) (words : Text) :
    r.readRun s words =
      match line with
      | none => some (words, false, ⟨cursor, none⟩)
      | some l =>
        if (HeaderScan.runStart s).isPrefixOf l then
          if s.isBlock && s.isLastLine l then some (words ++ l.lower, true, ⟨cursor, some l⟩)
          else readRun s (words ++ l.lower) ⟨cursor, some l⟩
        else some (words, false, ⟨cursor, some l⟩) := by
  rw [readRun]
  cases line with
  | none => split <;> simp_all
  | some l => split <;> simp_all

/-- **Reading a run.**  Induction on the lines that are left. -/
theorem readRun_eq_some (h : r.cursor.IsAt t lines) (words : Text) :
    ∃ closed r', r.readRun s words = some (words ++ (HeaderScan.readRun s (HeaderScan.runStart s)
        lines).1.flatMap (fun l => l.body.lower), closed, r') ∧
      r'.EndsRun t closed (HeaderScan.readRun s (HeaderScan.runStart s) lines).2.1
        (HeaderScan.readRun s (HeaderScan.runStart s) lines).2.2 := by
  induction lines generalizing r words with
  | nil =>
    refine ⟨false, ⟨r.cursor, none⟩, ?_, rfl, rfl, rfl, h, fun hne => absurd rfl hne⟩
    rw [readRun_of_nextLine (Cursor.nextLine_nil h)]
    simp [HeaderScan.readRun]
  | cons l rest ih =>
    have hreads : ∀ {cursor : Cursor},
        cursor = { r.cursor with offset := r.cursor.offset + l.size, mark := r.cursor.offset } →
        (LineReader.mk cursor (some l.body)).Reads t (l :: rest) := by
      rintro _ rfl
      exact ⟨rfl, h.next, fun _ => ⟨h.text, h.suffix, h.offset⟩⟩
    rw [readRun_of_nextLine (Cursor.nextLine_cons h), HeaderScan.readRun]
    dsimp only
    by_cases hstart : (HeaderScan.runStart s).isPrefixOf l.body = true
    · rw [if_pos hstart, if_pos hstart]
      by_cases hclose : (s.isBlock && s.isLastLine l.body) = true
      · rw [if_pos hclose, if_pos hclose]
        exact ⟨true, _, by simp, rfl, l, hreads rfl⟩
      · rw [if_neg hclose, if_neg hclose]
        obtain ⟨closed, r', hrun, hends⟩ := ih (hreads rfl).isAt (words ++ l.body.lower)
        refine ⟨closed, r', ?_, hends⟩
        rw [hrun]
        simp
    · rw [if_neg hstart, if_neg hstart]
      exact ⟨false, _, by simp, rfl, hreads rfl⟩

/-! ### The end of a header -/

theorem readClosing_block (hs : s.isBlock = true) (hline : r.line.isSome = true)
    (h : r.cursor.IsAt t lines) :
    ∃ r', r.readClosing s = some r' ∧ r'.cursor.IsAt t (HeaderScan.dropClosing s lines) := by
  obtain ⟨r', hnext, hreads⟩ := next_eq_some h
  rw [readClosing, if_pos hs, if_pos hline, hnext]
  refine ⟨_, rfl, ?_⟩
  cases lines with
  | nil =>
    rw [hreads.line]
    exact h.moveTo hreads.isAt.text
  | cons l rest =>
    rw [hreads.line, HeaderScan.dropClosing]
    by_cases hclose : s.isLastLine l.body = true
    · rw [if_pos hclose]
      simpa [hclose] using hreads.isAt
    · rw [if_neg hclose]
      simpa [hclose, moveTo] using h.moveTo hreads.isAt.text

/-- At the end of the file there is no closing line. -/
theorem readClosing_atEnd (hline : r.line = none) (h : r.cursor.IsAt t lines) :
    ∃ r', r.readClosing s = some r' ∧ r'.cursor.IsAt t lines := by
  rw [readClosing]
  split
  · rw [hline]
    exact ⟨r, rfl, h⟩
  · rw [skipWhile_of_neg (by simp [hline])]
    refine ⟨_, rfl, ?_⟩
    rw [hline]
    exact h.moveTo h.text

/-- A line that does not belong to the run, or is blank, closes a run of single lines. -/
theorem readClosing_lines (hs : s.isBlock = false) {l : Text} (hline : r.line = some l)
    (hl : (HeaderScan.runStart s).isPrefixOf l = false ∨
      s.allowsBlank = false ∧ Text.isBlank l = true) : r.readClosing s = some r := by
  rw [readClosing, if_neg (by rw [hs]; exact Bool.false_ne_true), skipWhile_of_neg]
  · simp [hline]
  · intro k hk
    rw [hline] at hk
    obtain rfl := Option.some.inj hk
    rcases hl with hl | ⟨hallow, hblank⟩
    · simp [hl]
    · simp [hallow, hblank]

theorem stepBack_of_ended (r : LineReader) : r.stepBack s true = some r := by
  simp [stepBack]

/-- In a block a line that is no part of the run is taken, and the blank lines after it if blank lines
are allowed. -/
theorem closeBlock_other (hs : s.isBlock = true) {l : Line} (h : r.Reads t (l :: lines)) :
    ∃ r₁ r₂, r.stepBack s l.isBlank = some r₁ ∧ r₁.readClosing s = some r₂ ∧
      r₂.cursor.IsAt t (HeaderScan.afterBlock s lines (.other l)) := by
  rw [HeaderScan.afterBlock]
  by_cases hskip : (s.allowsBlank && !l.isBlank) = true
  · rw [if_pos hskip, stepBack, hs, Bool.true_and, if_pos hskip]
    obtain ⟨r₁, hnext, hreads⟩ := next_eq_some h.isAt
    obtain ⟨r₂, hblanks, hreads₂⟩ := skipBlanks_eq_some hreads
    rw [List.tail_cons] at hreads₂
    simp only [Option.bind_eq_bind, hnext, Option.bind_some, hblanks, Option.pure_def]
    cases hlines : lines.dropWhile Line.isBlank with
    | nil =>
      rw [hlines] at hreads₂
      obtain ⟨r₃, hclosing, hat⟩ := readClosing_atEnd (s := s) hreads₂.line hreads₂.isAt
      refine ⟨r₂, r₃, ?_, hclosing, hat⟩
      rw [hreads₂.line]
      rfl
    | cons k rest =>
      rw [hlines] at hreads₂
      have hline : r₂.line = some k.body := hreads₂.line
      obtain ⟨r₃, hclosing, hat⟩ := readClosing_block (r := r₂.rewind) hs (by simp [rewind, hline])
        (hreads₂.back (by simp))
      refine ⟨r₂.rewind, r₃, ?_, hclosing, hat⟩
      rw [hline]
      rfl
  · rw [if_neg hskip, stepBack, hs, Bool.true_and, if_neg hskip]
    obtain ⟨r₂, hclosing, hat⟩ := readClosing_block hs (by simp [h.line]) h.isAt
    exact ⟨r, r₂, rfl, hclosing, hat⟩

/-- A run of single lines ends before a line that is no part of it, or with a blank line. -/
theorem closeLines_other (hs : s.isBlock = false) {l : Line} (h : r.Reads t (l :: lines))
    (hl : (HeaderScan.runStart s).isPrefixOf l.body = false) :
    ∃ r₁ r₂, r.stepBack s l.isBlank = some r₁ ∧ r₁.readClosing s = some r₂ ∧
      r₂.cursor.IsAt t (HeaderScan.afterLines lines (.other l)) := by
  have hline : r.line = some l.body := h.line
  rw [HeaderScan.afterLines, stepBack, hs]
  by_cases hblank : l.isBlank = true
  · rw [if_pos hblank, hblank]
    exact ⟨r, r, rfl, readClosing_lines hs hline (Or.inl hl), h.isAt⟩
  · rw [if_neg hblank]
    rw [Bool.not_eq_true] at hblank
    rw [hblank]
    exact ⟨r.rewind, r.rewind, rfl, readClosing_lines hs hline (Or.inl hl), h.back (by simp)⟩

/-- After a run: the reader steps back and reads a closing line as the place where the run stops asks
for. -/
theorem close_of_endsRun {ls run left : List Line} {stop : HeaderScan.Stop} {closed : Bool}
    (hread : HeaderScan.RunRead s ls (run, stop, left)) (hends : r.EndsRun t closed stop left) :
    ∃ r₁ r₂, r.stepBack s (closed || r.line.all Text.isBlank) = some r₁ ∧
      r₁.readClosing s = some r₂ ∧ r₂.cursor.IsAt t
        (if s.isBlock then HeaderScan.afterBlock s left stop else HeaderScan.afterLines left stop) := by
  cases hread with
  | endOfFile continues =>
    obtain ⟨rfl, -, hreads⟩ := hends
    obtain ⟨r₂, hclosing, hat⟩ := readClosing_atEnd (s := s) hreads.line hreads.isAt
    have hended : (false || r.line.all Text.isBlank) = true := by simp [hreads.line]
    rw [hended, stepBack_of_ended]
    refine ⟨r, r₂, rfl, hclosing, ?_⟩
    split
    all_goals exact hat
  | closing continues starts closes =>
    obtain ⟨rfl, c, hreads⟩ := hends
    have hs := (Bool.and_eq_true_iff.mp closes).1
    obtain ⟨r₂, hclosing, hat⟩ := readClosing_block hs (by simp [hreads.line]) hreads.isAt
    rw [Bool.true_or, stepBack_of_ended, if_pos hs]
    exact ⟨r, r₂, rfl, hclosing, hat⟩
  | @other _ _ l continues starts =>
    obtain ⟨rfl, hreads⟩ := hends
    have hended : (false || r.line.all Text.isBlank) = l.isBlank := by
      simp [hreads.line, Line.isBlank]
    rw [hended]
    cases hs : s.isBlock with
    | true => exact closeBlock_other hs hreads
    | false => exact closeLines_other hs hreads starts

/-- **Reading the rest of a header.**  The words and the place are those of the lines. -/
theorem readBody_eq_some {second : Line} (h : r.Reads t (second :: lines))
    (hsecond : s.allowsBlank = true → second.isBlank = false) (words : Text) :
    ∃ r', r.readBody s words second.body = some (words ++ (HeaderScan.readBody s second
        lines).1.flatMap (fun l => l.body.lower), r') ∧
      r'.cursor.IsAt t (HeaderScan.readBody s second lines).2 := by
  have hsome : r.line.isSome = true := by simp [h.line]
  unfold readBody readWords HeaderScan.readBody
  by_cases hclose : (s.isBlock && s.isLastLine second.body) = true
  · obtain ⟨r', hclosing, hat⟩ := readClosing_block (Bool.and_eq_true_iff.mp hclose).1 hsome h.isAt
    rw [if_pos hclose, hclose, Bool.true_or, if_pos rfl]
    simp only [Option.bind_eq_bind, Option.bind_some, stepBack_of_ended, hclosing]
    exact ⟨r', by simp, hat⟩
  · rw [if_neg hclose]
    rw [Bool.not_eq_true] at hclose
    by_cases hblank : second.isBlank = true
    · have hnone : s.allowsBlank = false := by
        rw [← Bool.not_eq_true]
        intro hallow
        rw [hsecond hallow] at hblank
        exact Bool.noConfusion hblank
      have hbody : Text.isBlank second.body = true := hblank
      rw [if_pos hblank, hclose, hbody, Bool.false_or, if_pos rfl]
      simp only [Option.bind_eq_bind, Option.bind_some, stepBack_of_ended]
      cases hs : s.isBlock with
      | true =>
        obtain ⟨r', hclosing, hat⟩ := readClosing_block hs hsome h.isAt
        rw [hclosing]
        exact ⟨r', by simp, hat⟩
      | false =>
        rw [readClosing_lines hs h.line (Or.inr ⟨hnone, hblank⟩)]
        exact ⟨r, by simp, h.isAt⟩
    · have hbody : ¬Text.isBlank second.body = true := hblank
      rw [if_neg hblank, hclose, Bool.false_or, if_neg hbody]
      obtain ⟨closed, r', hrun, hends⟩ := readRun_eq_some (s := s) h.isAt words
      have hread := HeaderScan.readRun_spec s lines
      rw [List.tail_cons] at hrun hends
      obtain ⟨r₁, r₂, hstep, hclosing, hat⟩ := close_of_endsRun hread hends
      rw [hrun]
      simp only [Option.bind_eq_bind, Option.bind_some, Option.pure_def, hstep, hclosing]
      exact ⟨r₂, rfl, hat⟩

/-! ### The whole search -/

/-- The lines of a header from its second line on. -/
theorem readSecond_eq_some (h : r.cursor.IsAt t lines) :
    ∃ r', r.readSecond s = some r' ∧
      r'.Reads t (if s.allowsBlank then lines.dropWhile Line.isBlank else lines) := by
  obtain ⟨r₁, hnext, hreads⟩ := next_eq_some h
  unfold readSecond
  simp only [Option.bind_eq_bind, hnext, Option.bind_some]
  split
  · exact skipBlanks_eq_some hreads
  · exact ⟨r₁, rfl, hreads⟩

/-- **Reading a header.**  The reader tells what the lines tell, and stands where they end. -/
theorem readHeader_eq_some (h : r.Reads t lines) (keywords : List Text) :
    ∃ r', r.readHeader s keywords
        = some ((HeaderScan.readHeader s lines).1.any (HeaderScan.hasKeywords keywords), r') ∧
      r'.cursor.IsAt t (HeaderScan.readHeader s lines).2 := by
  obtain ⟨r₁, hblanks, hreads⟩ := skipBlanks_eq_some h
  unfold readHeader HeaderScan.readHeader
  simp only [Option.bind_eq_bind, hblanks, Option.bind_some, Option.pure_def]
  cases hlines : lines.dropWhile Line.isBlank with
  | nil =>
    rw [hlines] at hreads
    rw [hreads.line]
    exact ⟨r₁, rfl, hreads.isAt⟩
  | cons first rest =>
    rw [hlines] at hreads
    rw [hreads.line]
    simp only [List.head?_cons, Option.map_some]
    by_cases hfirst : s.isFirstLine first.body = true
    · rw [if_pos hfirst, if_pos hfirst]
      obtain ⟨r₂, hsecond, hreads₂⟩ := readSecond_eq_some (s := s) hreads.isAt
      rw [List.tail_cons] at hreads₂
      simp only [hsecond, Option.bind_some]
      cases hrest : (if s.allowsBlank then rest.dropWhile Line.isBlank else rest) with
      | nil =>
        rw [hrest] at hreads₂
        rw [hreads₂.line]
        exact ⟨r₂, rfl, hreads₂.isAt⟩
      | cons second more =>
        rw [hrest] at hreads₂
        have hink : s.allowsBlank = true → second.isBlank = false := by
          intro hallow
          rw [if_pos hallow] at hrest
          have hhead := List.head?_dropWhile_not Line.isBlank rest
          rw [hrest] at hhead
          simpa using hhead
        obtain ⟨r₃, hbody, hat⟩ :=
          readBody_eq_some hreads₂ hink (first.body.lower ++ second.body.lower)
        rw [hreads₂.line]
        simp only [List.head?_cons, Option.map_some, hbody, Option.bind_some]
        refine ⟨r₃, ?_, hat⟩
        simp [HeaderScan.hasKeywords]
    · rw [if_neg hfirst, if_neg hfirst]
      exact ⟨r₁, rfl, hreads.isAt⟩

/-- **Setting lines aside.**  The place is that of the line that the reader shows. -/
theorem skipAbove_eq_some (h : r.Reads t (Line.split t)) :
    ∃ r', r.skipAbove s
        = some (Line.totalSize (HeaderScan.splitAbove s (Line.split t)).1, r') ∧
      r'.Reads t (HeaderScan.splitAbove s (Line.split t)).2 := by
  unfold skipAbove HeaderScan.splitAbove
  by_cases hnone : s.skip.isNone = true
  · rw [if_pos hnone, if_pos hnone]
    exact ⟨r, rfl, h⟩
  · rw [if_neg hnone, if_neg hnone]
    obtain ⟨place₁, r₁, hothers, hreads₁, hplace₁⟩ :=
      skipWhile_eq_some h (fun l => !s.isSkipLine l) 0
    obtain ⟨place₂, r₂, htops, hreads₂, hplace₂⟩ := skipWhile_eq_some hreads₁ s.isSkipLine place₁
    have hplace := hplace₂ (hplace₁ (by simp))
    simp only [Option.bind_eq_bind, hothers, htops, Option.bind_some, Option.pure_def]
    have hsuffix : ((Line.split t).dropWhile fun l => !s.isSkipLine l.body).dropWhile
        (fun l => s.isSkipLine l.body) <:+ Line.split t :=
      (List.dropWhile_suffix _).trans (List.dropWhile_suffix _)
    generalize ((Line.split t).dropWhile fun l => !s.isSkipLine l.body).dropWhile
      (fun l => s.isSkipLine l.body) = rest at hreads₂ hplace hsuffix ⊢
    cases rest with
    | nil =>
      -- nothing is left below, so the header goes to the top
      have hstart : r₂.cursor.reset.IsAt t (Line.split t) := by
        have hreset := Cursor.isAt_reset r₂.cursor
        rwa [hreads₂.isAt.text] at hreset
      obtain ⟨r₃, hnext, hreads₃⟩ := next_eq_some (r := ⟨r₂.cursor.reset, none⟩) hstart
      rw [hreads₂.line, hnext]
      exact ⟨r₃, rfl, hreads₃⟩
    | cons l rest =>
      rw [hreads₂.line]
      refine ⟨r₂, ?_, hreads₂⟩
      have hcut := List.suffix_iff_eq_append.mp hsuffix
      have hsize := congrArg Line.totalSize hcut
      rw [Line.totalSize_append, Line.totalSize_split] at hsize
      have hstart : place₂ = Line.totalSize ((Line.split t).take
          ((Line.split t).length - (l :: rest).length)) := by omega
      rw [hstart]
      rfl

/-- **The end of a header.**  The place is that of the line below the spacing. -/
theorem skipSpacing_eq_some (h : r.cursor.IsAt t lines) (atTop : Bool) :
    ∃ place r', r.skipSpacing s atTop = some (place, r') ∧
      place + Line.totalSize (HeaderScan.dropSpacing s atTop lines) = t.size ∧
      r'.cursor.IsAt t ((if atTop then HeaderScan.dropSpacing s atTop lines else lines).drop 1) := by
  obtain ⟨r₁, hnext, hreads⟩ := next_eq_some h
  obtain ⟨place, r₂, hskip, hreads₂, hplace⟩ :=
    skipWhile_eq_some hreads (fun l => atTop && l.isBlank) r.cursor.offset
  have hstop := hplace h.offset
  unfold skipSpacing HeaderScan.dropSpacing
  simp only [Option.bind_eq_bind, hnext, hskip, Option.bind_some, Option.pure_def]
  cases atTop with
  | true =>
    have hdrop : (lines.dropWhile fun l => true && l.body.isBlank) = lines.dropWhile Line.isBlank :=
      rfl
    rw [hdrop] at hreads₂ hstop
    -- the line where the reader stops is not blank
    have hink : r₂.line.any Text.isBlank = false := by
      rw [hreads₂.line]
      have hhead := List.head?_dropWhile_not Line.isBlank lines
      cases hlines : lines.dropWhile Line.isBlank with
      | nil => rfl
      | cons l rest =>
        rw [hlines] at hhead
        simpa [Line.isBlank] using hhead
    rw [hink, if_neg (by simp), if_pos rfl, List.drop_one]
    exact ⟨place, r₂, rfl, hstop, hreads₂.isAt⟩
  | false =>
    have hdrop : (lines.dropWhile fun l => false && l.body.isBlank) = lines := by
      simp [List.dropWhile_eq_self_iff]
    rw [hdrop] at hreads₂ hstop
    rw [if_neg Bool.false_ne_true, if_neg Bool.false_ne_true, List.drop_one]
    by_cases hfeed : s.closing.getLast? = some '\n'
    · rw [if_pos hfeed]
      cases lines with
      | nil =>
        rw [hreads₂.line]
        exact ⟨place, r₂, by simp, hstop, hreads₂.isAt⟩
      | cons l rest =>
        rw [hreads₂.line]
        by_cases hblank : l.isBlank = true
        · have hbody : Text.isBlank l.body = true := hblank
          refine ⟨r₂.cursor.offset, r₂, by simp [hfeed, hbody], ?_, hreads₂.isAt⟩
          dsimp only
          rw [if_pos hblank]
          exact hreads₂.isAt.offset
        · have hbody : Text.isBlank l.body = false := Bool.not_eq_true _ ▸ hblank
          refine ⟨place, r₂, by simp [hbody], ?_, hreads₂.isAt⟩
          dsimp only
          rw [if_neg hblank]
          exact hstop
    · rw [if_neg hfeed]
      exact ⟨place, r₂, by simp [hfeed], hstop, hreads₂.isAt⟩

end LineReader

namespace HeaderPlaces

/-- What `HeaderScan.run` finds, in bytes. -/
def ofScan (scan : HeaderScan) : HeaderPlaces :=
  ⟨scan.beginsAt, scan.endsAt?, scan.header.isSome⟩

/-- Lines of a text have no size only if there are none. -/
theorem totalSize_eq_zero_iff {t : Text} {above below : List Line}
    (h : Line.split t = above ++ below) : Line.totalSize above = 0 ↔ above = [] := by
  cases above with
  | nil => simp
  | cons l above =>
    have hpos : 0 < l.size := Line.size_pos_of_mem_split (t := t) (by simp [h])
    simp only [Line.totalSize_cons, List.cons_ne_nil, iff_false]
    omega

/-- The place where a found header ends, given how much is below it. -/
theorem eq_of_spacing {s : Style} {t : Text} {above lines words rest : List Line} {atTop : Bool}
    {stop : Nat} (hcut : Line.split t = above ++ lines)
    (hread : HeaderScan.readHeader s lines = (some words, rest))
    (hstop : stop + Line.totalSize (HeaderScan.dropSpacing s atTop rest) = t.size) :
    stop = Line.totalSize above + Line.totalSize
      (lines.take (lines.length - (HeaderScan.dropSpacing s atTop rest).length)) := by
  obtain ⟨spacing, hspacing, -⟩ := HeaderScan.dropSpacing_eq s atTop rest
  have hsuffix : HeaderScan.dropSpacing s atTop rest <:+ lines :=
    (show _ <:+ rest from ⟨spacing, hspacing.symm⟩).trans (HeaderScan.readHeader_suffix hread)
  have hlines := congrArg Line.totalSize (List.suffix_iff_eq_append.mp hsuffix)
  have htotal := congrArg Line.totalSize hcut
  rw [Line.totalSize_append] at hlines
  rw [Line.totalSize_split, Line.totalSize_append] at htotal
  omega

/-- **The search with a cursor never fails.**  Wherever the cursor stands before, the places are those
of the lines that `HeaderScan.run` finds, and the cursor is left where that stops reading. -/
theorem scan_eq_run (s : Style) (keywords : List Text) (c : Cursor) :
    ∃ c', scan s keywords c = some (ofScan (HeaderScan.run s keywords c.text), c') ∧
      c'.IsAt c.text (HeaderScan.run s keywords c.text).unread := by
  obtain ⟨above, lines, hsplit⟩ : ∃ above lines,
      HeaderScan.splitAbove s (Line.split c.text) = (above, lines) := ⟨_, _, rfl⟩
  have hcut := HeaderScan.eq_append_of_splitAbove hsplit
  obtain ⟨r₁, hnext, hreads₁⟩ := LineReader.next_eq_some (r := ⟨c.reset, none⟩) c.isAt_reset
  obtain ⟨r₂, habove, hreads₂⟩ := LineReader.skipAbove_eq_some (s := s) hreads₁
  obtain ⟨r₃, hheader, hat⟩ := LineReader.readHeader_eq_some (s := s) hreads₂ keywords
  rw [hsplit] at habove hheader hat
  unfold scan HeaderScan.run
  rw [hsplit]
  simp only [Option.bind_eq_bind, hnext, habove, hheader, Option.bind_some, Option.pure_def]
  rcases hread : HeaderScan.readHeader s lines with ⟨_ | words, rest⟩
  · rw [hread] at hat
    exact ⟨r₃.cursor, rfl, hat⟩
  · rw [hread] at hat
    dsimp only [Option.any_some] at hat ⊢
    by_cases hkeys : HeaderScan.hasKeywords keywords words = true
    · obtain ⟨stop, r₄, hspacing, hstop, hat₄⟩ :=
        LineReader.skipSpacing_eq_some (s := s) hat above.isEmpty
      have htop : decide (Line.totalSize above = 0) = above.isEmpty := by
        rw [Bool.eq_iff_iff, decide_eq_true_eq, List.isEmpty_iff, totalSize_eq_zero_iff hcut]
      rw [if_pos hkeys, if_pos hkeys, htop, hspacing]
      refine ⟨r₄.cursor, ?_, ?_⟩
      · rw [Option.bind_some, eq_of_spacing hcut hread hstop]
        rfl
      · dsimp only
        split
        · rename_i hempty
          rw [if_pos hempty] at hat₄
          exact hat₄
        · rename_i hempty
          rw [if_neg hempty] at hat₄
          exact hat₄
    · rw [if_neg hkeys, if_neg hkeys]
      exact ⟨r₃.cursor, rfl, hat⟩

end HeaderPlaces

end LicenseHeader
