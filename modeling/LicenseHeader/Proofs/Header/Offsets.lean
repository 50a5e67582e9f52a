import LicenseHeader.Document
import LicenseHeader.Proofs.Header.CursorScan
import Mathlib.Logic.Function.Iterate

/-!
# The places of a header

Headers are taken out and put in at places counted in bytes.  A wrong place would split a character
or a line.  For every file, style and list of keywords the places are safe:

* `HeaderPlaces.AreSafe`: they are where lines begin or the file ends, and a header is not empty;
* `HeaderScan.split_run`: what is above, of and below a header are the lines of the file;
* `exists_count_iterate`: what gets smaller with each step is done only so many times;
* `HeaderPlaces.scan_safe` is the result.
-/

namespace LicenseHeader

namespace HeaderScan

variable {s : Style} {keywords : List Text} {t : Text} {header : List Line}

/-! ### Above, of and below a header -/

theorem above_run (s : Style) (keywords : List Text) (t : Text) :
    (run s keywords t).above = (splitAbove s (Line.split t)).1 := by
  cases hheader : (run s keywords t).header with
  | none => exact (run_of_header_eq_none hheader).1
  | some header =>
    obtain ⟨_, _, -, -, habove, -⟩ := run_header_eq_some hheader
    exact habove

/-- The lines from the place of a header on. -/
theorem splitAbove_run (s : Style) (keywords : List Text) (t : Text) :
    (splitAbove s (Line.split t)).2
      = (run s keywords t).header.getD [] ++ (run s keywords t).below := by
  cases hheader : (run s keywords t).header with
  | none => exact (run_of_header_eq_none hheader).2.symm
  | some header =>
    obtain ⟨_, _, -, -, -, -, hcut⟩ := run_header_eq_some hheader
    exact hcut

/-- **Nothing is lost**, whether there is a header or not. -/
theorem split_run (s : Style) (keywords : List Text) (t : Text) :
    Line.split t = (run s keywords t).above
      ++ ((run s keywords t).header.getD [] ++ (run s keywords t).below) := by
  rw [above_run, ← splitAbove_run]
  exact eq_append_of_splitAbove rfl

/-- Lines stay above a header only if something follows them. -/
theorem ne_nil_of_above (h : (run s keywords t).above ≠ []) :
    (run s keywords t).header.getD [] ++ (run s keywords t).below ≠ [] := by
  obtain ⟨above, lines, hsplit⟩ : ∃ above lines,
      splitAbove s (Line.split t) = (above, lines) := ⟨_, _, rfl⟩
  rw [above_run, hsplit] at h
  rw [← splitAbove_run, hsplit]
  rcases splitAbove_cases hsplit with ⟨hnil, -⟩ | ⟨_, _, -, -, -, -, -, -, hbelow⟩
  · exact absurd hnil h
  · exact hbelow

/-- A found header has lines, its first line at least. -/
theorem header_ne_nil (h : (run s keywords t).header = some header) : header ≠ [] := by
  obtain ⟨words, left, hread, -, -, hbelow, hcut⟩ := run_header_eq_some h
  obtain ⟨blanks, first, gap, second, rest, hlines, -, -, -, -, -, -, -, hleft⟩ :=
    readHeader_eq_some hread
  obtain ⟨spacing, hspacing, -⟩ :=
    dropSpacing_eq s (splitAbove s (Line.split t)).1.isEmpty left
  rintro rfl
  -- all lines would be below, but the first line of the header is not
  have hrest := (readBody_suffix s second rest).length_le
  have hbelowLen := congrArg List.length hspacing
  have hcutLen := congrArg List.length hcut
  rw [← hbelow, hleft, List.length_append] at hbelowLen
  rw [hlines] at hcutLen
  simp only [List.length_append, List.length_cons, List.length_nil] at hcutLen
  omega

/-- The lines of a file without its header. -/
theorem split_without (h : (run s keywords t).header = some header) :
    Line.split (Line.unsplit (run s keywords t).above ++ Line.unsplit (run s keywords t).below)
      = (run s keywords t).above ++ (run s keywords t).below := by
  have hcut := split_eq_of_run h
  have hrest : header ++ (run s keywords t).below ≠ [] := by
    simp [header_ne_nil h]
  rw [Line.split_unsplit_append (Line.isWhole_of_split (by rw [hcut, List.append_assoc]) hrest),
    Line.split_unsplit_of_split hcut]

end HeaderScan

/-! ### Taking headers out again and again -/

/-- A step that makes things of one kind smaller, and leaves all others as they are, meets the kind
only so many times. -/
theorem exists_count_iterate {α : Type} {step : α → α} {kind : α → Prop} {size : α → Nat}
    (hless : ∀ a, kind a → size (step a) < size a) (hkeep : ∀ a, ¬kind a → step a = a) (a : α) :
    ∃ n ≤ size a, ∀ m, kind (step^[m] a) ↔ m < n := by
  induction hsize : size a using Nat.strong_induction_on generalizing a with
  | _ k ih =>
    by_cases ha : kind a
    · have hlt : size (step a) < k := hsize ▸ hless a ha
      obtain ⟨n, hn, hcount⟩ := ih _ hlt (step a) rfl
      refine ⟨n + 1, by omega, fun m => ?_⟩
      cases m with
      | zero => simpa using ha
      | succ m =>
        rw [Function.iterate_succ_apply, hcount]
        omega
    · refine ⟨0, Nat.zero_le k, fun m => ?_⟩
      rw [Function.iterate_fixed (hkeep a ha)]
      simpa using ha

namespace Document

/-- The text of a file after its header was taken out. -/
def withoutHeader (s : Style) (keywords : List Text) (properties : Properties) (t : Text) : Text :=
  (ofText s keywords properties t).removeHeader.text

variable {s : Style} {keywords : List Text} {properties : Properties} {t : Text}

theorem withoutHeader_eq : withoutHeader s keywords properties t
    = Line.unsplit (HeaderScan.run s keywords t).above
      ++ Line.unsplit (HeaderScan.run s keywords t).below := by
  show Line.unsplit _ ++ [] ++ Line.unsplit _ = _
  rw [List.append_nil]

theorem hasHeader_ofText : (ofText s keywords properties t).hasHeader
    = (HeaderScan.run s keywords t).header.isSome := by
  unfold hasHeader ofText
  rw [Option.isSome_map]

/-- Nothing of a file is lost in its document. -/
theorem text_ofText (s : Style) (keywords : List Text) (properties : Properties) (t : Text) :
    (ofText s keywords properties t).text = t := by
  have hheader : ((HeaderScan.run s keywords t).header.map Line.unsplit).getD []
      = Line.unsplit ((HeaderScan.run s keywords t).header.getD []) := by
    cases (HeaderScan.run s keywords t).header <;> rfl
  show Line.unsplit _ ++ (Option.map Line.unsplit _).getD [] ++ Line.unsplit _ = t
  rw [hheader, List.append_assoc, ← Line.unsplit_append, ← Line.unsplit_append,
    ← HeaderScan.split_run, Line.unsplit_split]

/-- Taking a header out leaves fewer lines. -/
theorem length_split_withoutHeader (h : (ofText s keywords properties t).hasHeader = true) :
    (Line.split (withoutHeader s keywords properties t)).length < (Line.split t).length := by
  rw [hasHeader_ofText] at h
  obtain ⟨header, hheader⟩ := Option.isSome_iff_exists.mp h
  have hpos := List.length_pos_iff.mpr (HeaderScan.header_ne_nil hheader)
  rw [withoutHeader_eq, HeaderScan.split_without hheader, HeaderScan.split_eq_of_run hheader]
  simp only [List.length_append]
  omega

theorem withoutHeader_of_hasHeader (h : ¬(ofText s keywords properties t).hasHeader = true) :
    withoutHeader s keywords properties t = t := by
  rw [hasHeader_ofText, Bool.not_eq_true, Option.isSome_eq_false_iff, Option.isNone_iff_eq_none] at h
  have hcut := HeaderScan.split_run s keywords t
  rw [h, Option.getD_none, List.nil_append] at hcut
  rw [withoutHeader_eq, ← Line.unsplit_append, ← hcut, Line.unsplit_split]

/-- A file has headers to take out at most as many times as it has lines. -/
theorem exists_count_withoutHeader (s : Style) (keywords : List Text) (properties : Properties)
    (t : Text) :
    ∃ n ≤ (Line.split t).length, ∀ m,
      (ofText s keywords properties ((withoutHeader s keywords properties)^[m] t)).hasHeader = true
        ↔ m < n :=
  @exists_count_iterate Text (withoutHeader s keywords properties)
    (fun t => (ofText s keywords properties t).hasHeader = true) (fun t => (Line.split t).length)
    (fun _ h => length_split_withoutHeader h) (fun _ h => withoutHeader_of_hasHeader h) t

end Document

/-! ### Safe places -/

namespace HeaderPlaces

/-- Places at which a text can be cut without splitting a character or a line.  A header has at least
one byte. -/
structure AreSafe (places : HeaderPlaces) (t : Text) : Prop where
  start_le : places.start ≤ t.size
  start_line : places.start = 0 ∨ t.AfterFeed places.start
  existing_iff : places.existing = true ↔ places.stop.isSome = true
  start_lt : ∀ stop, places.stop = some stop → places.start < stop
  stop_le : ∀ stop, places.stop = some stop → stop ≤ t.size
  stop_line : ∀ stop, places.stop = some stop → stop = t.size ∨ t.AfterFeed stop

variable {s : Style} {keywords : List Text} {t : Text}

theorem stop_ofScan {stop : Nat} (h : (ofScan (HeaderScan.run s keywords t)).stop = some stop) :
    ∃ header, (HeaderScan.run s keywords t).header = some header ∧
      stop = Line.totalSize ((HeaderScan.run s keywords t).above ++ header) := by
  obtain ⟨header, hheader, hstop⟩ := Option.map_eq_some_iff.mp h
  refine ⟨header, hheader, ?_⟩
  rw [Line.totalSize_append, ← hstop]
  rfl

/-- The places of a found header are safe. -/
theorem areSafe_ofScan (s : Style) (keywords : List Text) (t : Text) :
    (ofScan (HeaderScan.run s keywords t)).AreSafe t := by
  have hcut := HeaderScan.split_run s keywords t
  have hsize := congrArg Line.totalSize hcut
  rw [Line.totalSize_split, Line.totalSize_append] at hsize
  have hstart : (ofScan (HeaderScan.run s keywords t)).start
      = Line.totalSize (HeaderScan.run s keywords t).above := rfl
  refine { start_le := by omega, start_line := ?_, existing_iff := ?_, start_lt := ?_,
           stop_le := ?_, stop_line := ?_ }
  · rw [hstart]
    by_cases habove : (HeaderScan.run s keywords t).above = []
    · rw [habove]
      exact Or.inl rfl
    · exact Or.inr (Line.afterFeed_of_split hcut habove (HeaderScan.ne_nil_of_above habove))
  · show _ ↔ ((HeaderScan.run s keywords t).header.map _).isSome = true
    rw [Option.isSome_map]
    rfl
  all_goals
    intro stop hstop
    obtain ⟨header, hheader, rfl⟩ := stop_ofScan hstop
    have hne := HeaderScan.header_ne_nil hheader
    have hlines := HeaderScan.split_eq_of_run hheader
    have htotal := congrArg Line.totalSize hlines
    rw [Line.totalSize_split, Line.totalSize_append] at htotal
  · obtain ⟨l, header, rfl⟩ := List.exists_cons_of_ne_nil hne
    have hpos : 0 < l.size := Line.size_pos_of_mem_split (t := t) (by simp [hlines])
    rw [hstart, Line.totalSize_append, Line.totalSize_cons]
    omega
  · omega
  · by_cases hbelow : (HeaderScan.run s keywords t).below = []
    · left
      rw [hbelow, Line.totalSize_nil] at htotal
      omega
    · exact Or.inr (Line.afterFeed_of_split hlines (by simp [hne]) hbelow)

/-- A text can be cut at the sum of the sizes of its first lines. -/
theorem atByte?_totalSize {above below : List Line} (h : Line.split t = above ++ below) :
    Text.atByte? (Line.totalSize above) t = some (Line.unsplit above, Line.unsplit below) := by
  rw [Text.atByte?_eq_some_iff, ← Line.unsplit_append, ← h, Line.unsplit_split]
  exact ⟨rfl, rfl⟩

/-- **The places of a header are safe.**  The search over the bytes of a file ends without a failure,
for every style and all keywords.  Both places are boundaries of lines, so that taking the header out
removes some whole lines and nothing else; and a file has headers to take out only so many times, at
most one for each of its lines. -/
theorem scan_safe (s : Style) (keywords : List Text) (properties : Properties) (c : Cursor) :
    ∃ places c', scan s keywords c = some (places, c') ∧
      places = ofScan (HeaderScan.run s keywords c.text) ∧ places.AreSafe c.text ∧
      (∃ cut, Text.atByte? places.start c.text = some cut) ∧
      (∀ stop, places.stop = some stop →
        (∃ cut, Text.atByte? stop c.text = some cut) ∧
        ∃ above header below, Line.split c.text = above ++ header ++ below ∧ header ≠ [] ∧
          places.start = Line.totalSize above ∧ stop = Line.totalSize (above ++ header) ∧
          c'.delete places.start stop
            = some { c' with text := Document.withoutHeader s keywords properties c.text } ∧
          Document.withoutHeader s keywords properties c.text
            = Line.unsplit above ++ Line.unsplit below) ∧
      ∃ n ≤ (Line.split c.text).length, ∀ m,
        (Document.ofText s keywords properties
          ((Document.withoutHeader s keywords properties)^[m] c.text)).hasHeader = true ↔ m < n := by
  obtain ⟨c', hscan, hat⟩ := scan_eq_run s keywords c
  have hcut := HeaderScan.split_run s keywords c.text
  refine ⟨_, c', hscan, rfl, areSafe_ofScan s keywords c.text, ⟨_, atByte?_totalSize hcut⟩, ?_,
    Document.exists_count_withoutHeader s keywords properties c.text⟩
  intro stop hstop
  obtain ⟨header, hheader, rfl⟩ := stop_ofScan hstop
  have hlines := HeaderScan.split_eq_of_run hheader
  have htext : c'.text = Line.unsplit (HeaderScan.run s keywords c.text).above
      ++ (Line.unsplit header ++ Line.unsplit (HeaderScan.run s keywords c.text).below) := by
    rw [hat.text, ← Line.unsplit_append, ← Line.unsplit_append, ← List.append_assoc, ← hlines,
      Line.unsplit_split]
  refine ⟨⟨_, atByte?_totalSize hlines⟩, _, header, _, hlines, HeaderScan.header_ne_nil hheader, rfl,
    rfl, ?_, Document.withoutHeader_eq⟩
  rw [Line.totalSize_append, Document.withoutHeader_eq]
  exact Cursor.delete_eq_some htext

end HeaderPlaces

end LicenseHeader
