import LicenseHeader.Proofs.Header.Offsets
import LicenseHeader.Proofs.Text.LineBreaks

/-!
# Finding a header, whatever the line breaks

The header of a file is looked for in the bodies of its lines.  So the search goes the same way in
two texts whose lines have the same bodies: every step commutes with a change of line breaks, and a
carriage return before every line feed moves the header to no other line.

* `HeaderScan.run_map`: the search in a text with the same bodies of lines;
* `HeaderScan.run_crlf`: the search in a text with carriage returns;
* `HeaderScan.SameLines` and `sameLines_crlf`: the two headers stand on the same lines.
-/

namespace LicenseHeader

namespace HeaderScan

/-- Changes each line of a result. -/
def map (f : Line → Line) (scan : HeaderScan) : HeaderScan :=
  ⟨scan.above.map f, scan.header.map (List.map f), scan.below.map f, scan.unread.map f⟩

/-- Changes the line before which a run ends. -/
def Stop.map (f : Line → Line) : Stop → Stop
  | endOfFile => endOfFile
  | closing => closing
  | other l => other (f l)

section Bodies

variable {f : Line → Line} (hf : ∀ l, (f l).body = l.body)
include hf

theorem isBlank_map (l : Line) : (f l).isBlank = l.isBlank := by
  rw [Line.isBlank, hf, Line.isBlank]

theorem dropWhile_isBlank_map (ls : List Line) :
    (ls.map f).dropWhile Line.isBlank = (ls.dropWhile Line.isBlank).map f := by
  rw [List.dropWhile_map, show Line.isBlank ∘ f = Line.isBlank from funext (isBlank_map hf)]

theorem splitAbove_map (s : Style) (ls : List Line) :
    splitAbove s (ls.map f)
      = ((splitAbove s ls).1.map f, (splitAbove s ls).2.map f) := by
  have hskip : (fun l : Line => s.isSkipLine l.body) ∘ f = fun l => s.isSkipLine l.body := by
    funext l
    rw [Function.comp_apply, hf]
  have hno : (fun l : Line => !s.isSkipLine l.body) ∘ f = fun l => !s.isSkipLine l.body := by
    funext l
    rw [Function.comp_apply, hf]
  unfold splitAbove
  dsimp only
  rw [List.dropWhile_map, hno, List.dropWhile_map, hskip, List.isEmpty_map]
  split
  · rfl
  · split
    · rfl
    · rw [List.length_map, List.length_map, List.map_take]

theorem readRun_map (s : Style) (before : Text) (ls : List Line) :
    readRun s before (ls.map f)
      = ((readRun s before ls).1.map f, (readRun s before ls).2.1.map f,
          (readRun s before ls).2.2.map f) := by
  induction ls with
  | nil => rfl
  | cons l ls ih =>
    rw [List.map_cons, readRun, readRun, hf]
    split
    · split
      · rfl
      · rw [ih]
        rfl
    · rfl

theorem dropClosing_map (s : Style) (ls : List Line) :
    dropClosing s (ls.map f) = (dropClosing s ls).map f := by
  cases ls with
  | nil => rfl
  | cons l ls =>
    rw [List.map_cons, dropClosing, dropClosing, hf]
    split
    all_goals rfl

theorem afterBlock_map (s : Style) (rest : List Line) (stop : Stop) :
    afterBlock s (rest.map f) (stop.map f) = (afterBlock s rest stop).map f := by
  cases stop with
  | endOfFile => rfl
  | closing => exact dropClosing_map hf s rest
  | other l =>
    rw [Stop.map, afterBlock, afterBlock, isBlank_map hf, dropWhile_isBlank_map hf]
    split
    all_goals exact dropClosing_map hf s _

theorem afterLines_map (rest : List Line) (stop : Stop) :
    afterLines (rest.map f) (stop.map f) = (afterLines rest stop).map f := by
  cases stop with
  | endOfFile => rfl
  | closing => rfl
  | other l =>
    rw [Stop.map, afterLines, afterLines, isBlank_map hf]
    split
    all_goals rfl

theorem readBody_map (s : Style) (second : Line) (rest : List Line) :
    readBody s (f second) (rest.map f)
      = ((readBody s second rest).1.map f, (readBody s second rest).2.map f) := by
  unfold readBody
  rw [hf, isBlank_map hf, dropClosing_map hf, readRun_map hf]
  split
  · rfl
  · split
    · split
      all_goals rfl
    · dsimp only
      rw [afterBlock_map hf, afterLines_map hf]
      split
      all_goals rfl

theorem readHeader_map (s : Style) (ls : List Line) :
    readHeader s (ls.map f)
      = ((readHeader s ls).1.map (List.map f), (readHeader s ls).2.map f) := by
  unfold readHeader
  rw [dropWhile_isBlank_map hf]
  cases ls.dropWhile Line.isBlank with
  | nil => rfl
  | cons first rest =>
    have hrest : (if s.allowsBlank then (rest.map f).dropWhile Line.isBlank else rest.map f)
        = (if s.allowsBlank then rest.dropWhile Line.isBlank else rest).map f := by
      rw [dropWhile_isBlank_map hf]
      split
      all_goals rfl
    rw [List.map_cons]
    dsimp only
    rw [hf, hrest]
    split
    · cases (if s.allowsBlank then rest.dropWhile Line.isBlank else rest) with
      | nil => rfl
      | cons second rest =>
        rw [List.map_cons]
        dsimp only
        rw [readBody_map hf]
        rfl
    · rfl

theorem hasKeywords_map (keywords : List Text) (ls : List Line) :
    hasKeywords keywords (ls.map f) = hasKeywords keywords ls := by
  unfold hasKeywords
  rw [List.flatMap_map]
  simp only [hf]

theorem dropSpacing_map (s : Style) (atTop : Bool) (rest : List Line) :
    dropSpacing s atTop (rest.map f) = (dropSpacing s atTop rest).map f := by
  unfold dropSpacing
  split
  · exact dropWhile_isBlank_map hf rest
  · split
    · cases rest with
      | nil => rfl
      | cons l rest =>
        rw [List.map_cons]
        dsimp only
        rw [isBlank_map hf]
        split
        all_goals rfl
    · rfl

/-- **Only the bodies of the lines count.**  In a text whose lines have the same bodies the same lines
are above, of and below a header. -/
theorem run_map {t u : Text} (hsplit : Line.split u = (Line.split t).map f) (s : Style)
    (keywords : List Text) : run s keywords u = (run s keywords t).map f := by
  unfold run
  rw [hsplit, splitAbove_map hf]
  obtain ⟨above, ls⟩ := splitAbove s (Line.split t)
  dsimp only
  rw [readHeader_map hf]
  obtain ⟨words, rest⟩ := readHeader s ls
  cases words with
  | none => rfl
  | some words =>
    dsimp only [Option.map_some]
    rw [hasKeywords_map hf]
    split
    · rw [List.isEmpty_map, dropSpacing_map hf, List.length_map, List.length_map, ← List.map_take,
        ← List.map_drop, ← List.map_drop]
      simp only [map, Option.map_some]
      congr 1
      split
      all_goals rfl
    · rfl

end Bodies

/-! ### The lines of a header -/

variable {t : Text}

/-- The place where a line of a text begins, in bytes; lines are counted from zero. -/
def lineStart (t : Text) (k : Nat) : Nat := Line.totalSize ((Line.split t).take k)

theorem beginsAt_run (s : Style) (keywords : List Text) (t : Text) :
    (run s keywords t).beginsAt = lineStart t (run s keywords t).above.length := by
  rw [lineStart, split_run s keywords t, List.take_left]
  rfl

theorem endsAt?_run (s : Style) (keywords : List Text) (t : Text) :
    (run s keywords t).endsAt?
      = ((run s keywords t).header.map ((run s keywords t).above.length + ·.length)).map
          (lineStart t) := by
  rw [endsAt?, Option.map_map]
  cases hheader : (run s keywords t).header with
  | none => rfl
  | some header =>
    have hcut := split_eq_of_run hheader
    have htake : (Line.split t).take ((run s keywords t).above.length + header.length)
        = (run s keywords t).above ++ header := by
      rw [hcut, ← List.length_append, List.take_left]
    show some _ = some (Line.totalSize ((Line.split t).take _))
    rw [htake, Line.totalSize_append]
    rfl

/-- The header of two texts, or the place of one, is on the same lines. -/
def SameLines (s : Style) (keywords : List Text) (t u : Text) : Prop :=
  ∃ (first : Nat) (last : Option Nat),
    (run s keywords t).beginsAt = lineStart t first ∧
    (run s keywords u).beginsAt = lineStart u first ∧
    (run s keywords t).endsAt? = last.map (lineStart t) ∧
    (run s keywords u).endsAt? = last.map (lineStart u)

theorem run_crlf (h : '\r' ∉ t) (s : Style) (keywords : List Text) :
    run s keywords t.crlf = (run s keywords t).map Line.crlf :=
  run_map Line.body_crlf (Line.split_crlf h) s keywords

theorem sameLines_crlf (h : '\r' ∉ t) (s : Style) (keywords : List Text) :
    SameLines s keywords t t.crlf := by
  refine ⟨_, _, beginsAt_run s keywords t, ?_, endsAt?_run s keywords t, ?_⟩
  · rw [beginsAt_run, run_crlf h, map, List.length_map]
  · rw [endsAt?_run, run_crlf h, map, List.length_map]
    cases (run s keywords t).header with
    | none => rfl
    | some header =>
      show some (lineStart _ (_ + (header.map Line.crlf).length)) = _
      rw [List.length_map]
      rfl

end HeaderScan

end LicenseHeader
