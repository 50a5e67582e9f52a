import LicenseHeader.Header.Scan
import LicenseHeader.Proofs.Text.Lines

/-!
# How a header is read

`HeaderScan.run` cuts the lines of a file into what stays above a header, the header, and what is
below it.  This file says once what each reading step takes, so that everything about the span of a
header follows from these descriptions and not from the steps.

* `RunRead` and `readRun_spec`: a run takes lines that continue it, up to the end of the file, a
  closing line, or a line that does not belong to it;
* `readHeader_eq_some`: a header is a first line, a second line, and what `readBody` takes;
* `run_header_eq_some`: the lines of a found header, and that they are cut out of the file in one
  piece;
* `splitAbove_replace`: lines put in at the place of the header do not move that place.
-/

namespace LicenseHeader

namespace HeaderScan

/-! ### Runs of lines -/

/-- A line over which a run goes on: it starts as the lines of a run do and closes no block. -/
def Continues (s : Style) (l : Line) : Prop :=
  (runStart s).isPrefixOf l.body = true ∧ (s.isBlock && s.isLastLine l.body) = false

/-- What a run takes from some lines, where it stops, and what is left. -/
inductive RunRead (s : Style) : List Line → List Line × Stop × List Line → Prop where
  | endOfFile {run : List Line} (continues : ∀ l ∈ run, Continues s l) :
      RunRead s run (run, .endOfFile, [])
  | closing {run left : List Line} {c : Line} (continues : ∀ l ∈ run, Continues s l)
      (starts : (runStart s).isPrefixOf c.body = true)
      (closes : (s.isBlock && s.isLastLine c.body) = true) :
      RunRead s (run ++ c :: left) (run ++ [c], .closing, left)
  | other {run left : List Line} {l : Line} (continues : ∀ l ∈ run, Continues s l)
      (starts : (runStart s).isPrefixOf l.body = false) :
      RunRead s (run ++ l :: left) (run, .other l, left)

/-- One more line in front of a run that continues it. -/
theorem RunRead.cons {s : Style} {l : Line} (hl : Continues s l) {ls run left : List Line}
    {stop : Stop} (h : RunRead s ls (run, stop, left)) :
    RunRead s (l :: ls) (l :: run, stop, left) := by
  have hmem : ∀ {front : List Line}, (∀ k ∈ front, Continues s k) →
      ∀ k ∈ l :: front, Continues s k := by
    intro front hfront k hk
    rcases List.mem_cons.mp hk with rfl | hk
    · exact hl
    · exact hfront k hk
  cases h with
  | endOfFile continues => exact .endOfFile (hmem continues)
  | closing continues starts closes => exact .closing (hmem continues) starts closes
  | other continues starts => exact .other (hmem continues) starts

/-- **What a run reads.**  Induction on the lines: each is taken, closes the run or stops it. -/
theorem readRun_spec (s : Style) (ls : List Line) : RunRead s ls (readRun s (runStart s) ls) := by
  induction ls with
  | nil => exact .endOfFile (by simp)
  | cons l ls ih =>
    rw [readRun]
    by_cases hstart : (runStart s).isPrefixOf l.body = true
    · rw [if_pos hstart]
      by_cases hclose : (s.isBlock && s.isLastLine l.body) = true
      · rw [if_pos hclose]
        show RunRead s ([] ++ l :: ls) ([] ++ [l], .closing, ls)
        exact .closing (by simp) hstart hclose
      · rw [if_neg hclose]
        exact RunRead.cons ⟨hstart, Bool.not_eq_true _ ▸ hclose⟩ ih
    · rw [if_neg hstart]
      show RunRead s ([] ++ l :: ls) ([], .other l, ls)
      exact .other (by simp) (Bool.not_eq_true _ ▸ hstart)

/-- A run goes on over the lines that continue it, whatever follows them. -/
theorem readRun_append {s : Style} {front : List Line} (h : ∀ l ∈ front, Continues s l)
    (rest : List Line) :
    readRun s (runStart s) (front ++ rest)
      = (front ++ (readRun s (runStart s) rest).1, (readRun s (runStart s) rest).2) := by
  induction front with
  | nil => rfl
  | cons l front ih =>
    obtain ⟨hstart, hclose⟩ := h l List.mem_cons_self
    rw [List.cons_append, readRun, if_pos hstart, if_neg (by rw [hclose]; exact Bool.false_ne_true),
      ih fun k hk => h k (List.mem_cons_of_mem _ hk)]
    rfl

/-! ### What is left is the end of the lines -/

theorem dropClosing_suffix (s : Style) (ls : List Line) : dropClosing s ls <:+ ls := by
  cases ls with
  | nil => exact List.suffix_rfl
  | cons l ls =>
    rw [dropClosing]
    split
    · exact List.suffix_cons l ls
    · exact List.suffix_rfl

theorem afterBlock_suffix (s : Style) (left : List Line) (stop : Stop) :
    afterBlock s left stop <:+ left := by
  cases stop with
  | endOfFile => exact List.suffix_rfl
  | closing => exact dropClosing_suffix s left
  | other l =>
    rw [afterBlock]
    split
    · exact (dropClosing_suffix s _).trans (List.dropWhile_suffix _)
    · exact dropClosing_suffix s left

theorem readBody_suffix (s : Style) (second : Line) (rest : List Line) :
    (readBody s second rest).2 <:+ rest := by
  unfold readBody
  split
  · exact dropClosing_suffix s rest
  · split
    · show (if s.isBlock then dropClosing s rest else rest) <:+ rest
      split
      · exact dropClosing_suffix s rest
      · exact List.suffix_rfl
    · have hread := readRun_spec s rest
      generalize readRun s (runStart s) rest = r at hread ⊢
      show (if s.isBlock then afterBlock s r.2.2 r.2.1 else afterLines r.2.2 r.2.1) <:+ rest
      cases hread with
      | endOfFile =>
        split
        · exact List.nil_suffix
        · exact List.nil_suffix
      | @closing run left c =>
        have hleft : left <:+ run ++ c :: left :=
          (List.suffix_cons c left).trans (List.suffix_append run _)
        split
        · exact (afterBlock_suffix s left _).trans hleft
        · exact hleft
      | @other run left l =>
        have hother : l :: left <:+ run ++ l :: left := List.suffix_append run _
        have hleft : left <:+ run ++ l :: left := (List.suffix_cons l left).trans hother
        split
        · exact (afterBlock_suffix s left _).trans hleft
        · rw [afterLines]
          split
          · exact hleft
          · exact hother

/-- The spacing after a header is some of the blank lines that follow it. -/
theorem dropSpacing_eq (s : Style) (atTop : Bool) (rest : List Line) :
    ∃ spacing, rest = spacing ++ dropSpacing s atTop rest ∧ ∀ l ∈ spacing, l.isBlank = true := by
  unfold dropSpacing
  split
  · exact ⟨rest.takeWhile Line.isBlank, List.takeWhile_append_dropWhile.symm,
      fun l hl => List.mem_takeWhile_imp hl⟩
  · split
    · cases rest with
      | nil => exact ⟨[], rfl, by simp⟩
      | cons l left =>
        by_cases hl : l.isBlank = true
        · exact ⟨[l], by simp [hl], by simpa using hl⟩
        · exact ⟨[], by simp [hl], by simp⟩
    · exact ⟨[], rfl, by simp⟩

/-- Lines that start with one that is not blank have no spacing in front. -/
theorem dropSpacing_of_head {s : Style} {rest : List Line}
    (h : ∀ l ∈ rest.head?, l.isBlank = false) (atTop : Bool) : dropSpacing s atTop rest = rest := by
  cases rest with
  | nil => cases atTop <;> simp [dropSpacing]
  | cons l left =>
    have hl : l.isBlank = false := h l rfl
    simp [dropSpacing, hl]

/-- One blank line is spacing if the style ends with a blank line. -/
theorem dropSpacing_blank_cons {s : Style} (hs : s.closing.getLast? = some '\n') {l : Line}
    (hl : l.isBlank = true) {rest : List Line} (h : ∀ l ∈ rest.head?, l.isBlank = false)
    (atTop : Bool) : dropSpacing s atTop (l :: rest) = rest := by
  cases atTop with
  | false => simp [dropSpacing, hs, hl]
  | true =>
    have hrest : rest.dropWhile Line.isBlank = rest := dropSpacing_of_head (s := s) h true
    show (l :: rest).dropWhile Line.isBlank = rest
    rw [List.dropWhile_cons_of_pos hl, hrest]

/-! ### The lines of a header -/

/-- **What a header consists of.**  The first line that is not blank is the first line of the header,
the line after it is the second (with blank lines left out if the style allows them), and the rest is
read by `readBody`. -/
theorem readHeader_eq_some {s : Style} {lines words left : List Line}
    (h : readHeader s lines = (some words, left)) :
    ∃ blanks first gap second rest,
      lines = blanks ++ first :: (gap ++ second :: rest) ∧
      (∀ l ∈ blanks, l.isBlank = true) ∧ first.isBlank = false ∧
      s.isFirstLine first.body = true ∧ (∀ l ∈ gap, l.isBlank = true) ∧
      (s.allowsBlank = false → gap = []) ∧ (s.allowsBlank = true → second.isBlank = false) ∧
      words = first :: second :: (readBody s second rest).1 ∧
      left = (readBody s second rest).2 := by
  unfold readHeader at h
  split at h
  · simp at h
  · rename_i first after hfirst
    have hlines : lines = lines.takeWhile Line.isBlank ++ first :: after := by
      rw [← hfirst, List.takeWhile_append_dropWhile]
    have hink : first.isBlank = false := by
      have hhead := List.head?_dropWhile_not Line.isBlank lines
      rw [hfirst] at hhead
      simpa using hhead
    split at h
    · rename_i hmark
      by_cases hblank : s.allowsBlank = true
      · rw [if_pos hblank] at h
        split at h
        · simp at h
        · rename_i second rest hsecond
          have hafter : after = after.takeWhile Line.isBlank ++ second :: rest := by
            rw [← hsecond, List.takeWhile_append_dropWhile]
          have hsink : second.isBlank = false := by
            have hhead := List.head?_dropWhile_not Line.isBlank after
            rw [hsecond] at hhead
            simpa using hhead
          obtain ⟨hw, hl⟩ := Prod.mk.inj h
          refine ⟨lines.takeWhile Line.isBlank, first, after.takeWhile Line.isBlank, second, rest,
            by rw [← hafter]; exact hlines, fun l hl => List.mem_takeWhile_imp hl, hink, hmark,
            fun l hl => List.mem_takeWhile_imp hl, fun hno => ?_, fun _ => hsink,
            (Option.some.inj hw).symm, hl.symm⟩
          rw [hblank] at hno
          exact Bool.noConfusion hno
      · rw [if_neg hblank] at h
        split at h
        · simp at h
        · rename_i second rest
          obtain ⟨hw, hl⟩ := Prod.mk.inj h
          exact ⟨lines.takeWhile Line.isBlank, first, [], second, rest, hlines,
            fun l hl => List.mem_takeWhile_imp hl, hink, hmark, by simp, fun _ => rfl,
            fun hyes => absurd hyes hblank, (Option.some.inj hw).symm, hl.symm⟩
    · simp at h

/-! ### The place of the header -/

/-- The lines above a header end with the first run of lines that stay on top; without one, or with
nothing below it, there are none. -/
theorem splitAbove_cases {s : Style} {lines above below : List Line}
    (h : splitAbove s lines = (above, below)) :
    (above = [] ∧ below = lines ∧ (s.skip.isNone = true ∨
      (lines.dropWhile fun l => !s.isSkipLine l.body).dropWhile (fun l => s.isSkipLine l.body) = []))
    ∨ ∃ others tops, above = others ++ tops ∧ lines = above ++ below ∧ s.skip.isNone = false ∧
      (∀ l ∈ others, s.isSkipLine l.body = false) ∧ tops ≠ [] ∧
      (∀ l ∈ tops, s.isSkipLine l.body = true) ∧ below ≠ [] := by
  unfold splitAbove at h
  split at h
  · rename_i hnone
    obtain ⟨rfl, rfl⟩ := Prod.mk.inj h
    exact Or.inl ⟨rfl, rfl, Or.inl hnone⟩
  · rename_i hsome
    dsimp only at h
    split at h
    · rename_i hempty
      obtain ⟨rfl, rfl⟩ := Prod.mk.inj h
      exact Or.inl ⟨rfl, rfl, Or.inr (List.isEmpty_iff.mp hempty)⟩
    · rename_i hne
      obtain ⟨habove, rfl⟩ := Prod.mk.inj h
      rw [List.isEmpty_iff] at hne
      obtain ⟨tops, htops, hrun⟩ : ∃ tops,
          (lines.dropWhile fun l => !s.isSkipLine l.body) = tops
            ++ (lines.dropWhile fun l => !s.isSkipLine l.body).dropWhile
              (fun l => s.isSkipLine l.body) ∧ ∀ l ∈ tops, s.isSkipLine l.body = true :=
        ⟨_, List.takeWhile_append_dropWhile.symm, fun l hl => by
          simpa using List.mem_takeWhile_imp hl⟩
      have hothers : ∀ l ∈ lines.takeWhile (fun l => !s.isSkipLine l.body),
          s.isSkipLine l.body = false := by
        intro l hl
        simpa using List.mem_takeWhile_imp hl
      generalize hrest : (lines.dropWhile fun l => !s.isSkipLine l.body).dropWhile
        (fun l => s.isSkipLine l.body) = rest at habove hne htops ⊢
      have hcut : lines = lines.takeWhile (fun l => !s.isSkipLine l.body) ++ tops ++ rest := by
        rw [List.append_assoc, ← htops, List.takeWhile_append_dropWhile]
      have hlines : lines = above ++ rest := by
        rw [← habove, List.suffix_iff_eq_append.mp ⟨_, hcut.symm⟩]
      have htops_ne : tops ≠ [] := by
        rintro rfl
        -- the line after the others stays on top, so it would have been taken
        cases rest with
        | nil => exact hne rfl
        | cons l rest =>
          have hhead := List.head?_dropWhile_not (fun l : Line => !s.isSkipLine l.body) lines
          rw [htops] at hhead hrest
          have hskip : s.isSkipLine l.body = true := by simpa using hhead
          have hdrop : ([] ++ l :: rest).dropWhile (fun l => s.isSkipLine l.body)
              = rest.dropWhile (fun l => s.isSkipLine l.body) :=
            List.dropWhile_cons_of_pos hskip
          have hlen := (List.dropWhile_suffix (l := rest) fun l => s.isSkipLine l.body).length_le
          rw [← hdrop, hrest, List.length_cons] at hlen
          omega
      refine Or.inr ⟨_, tops, ?_, hlines, Bool.not_eq_true _ ▸ hsome, hothers, htops_ne, hrun, hne⟩
      exact List.append_cancel_right (hlines.symm.trans hcut)

theorem eq_append_of_splitAbove {s : Style} {lines above below : List Line}
    (h : splitAbove s lines = (above, below)) : lines = above ++ below := by
  rcases splitAbove_cases h with ⟨rfl, rfl, -⟩ | ⟨_, _, -, hlines, -⟩
  · rfl
  · exact hlines

/-- If nothing follows the first run of some lines, nothing follows that of the last of them either. -/
theorem dropWhile_dropWhile_of_append {p : Line → Bool} {front back : List Line}
    (h : ((front ++ back).dropWhile fun l => !p l).dropWhile p = []) :
    (back.dropWhile fun l => !p l).dropWhile p = [] := by
  induction front with
  | nil => exact h
  | cons l front ih =>
    cases hl : p l with
    | false =>
      rw [List.cons_append, List.dropWhile_cons_of_pos (by rw [hl]; rfl)] at h
      exact ih h
    | true =>
      rw [List.cons_append, List.dropWhile_cons_of_neg (by simp [hl]), List.dropWhile_eq_nil_iff] at h
      rw [List.dropWhile_eq_nil_iff]
      intro k hk
      refine h k (List.mem_cons_of_mem _ (List.mem_append_right _ ?_))
      exact (List.dropWhile_suffix _).subset hk

/-- **Lines put in do not move the place of the header**, as long as none of them stays on top.  They may
be put for old lines at that place. -/
theorem splitAbove_replace {s : Style} {above old below new : List Line}
    (h : splitAbove s (above ++ (old ++ below)) = (above, old ++ below))
    (hnew : ∀ l ∈ new, s.isSkipLine l.body = false) (hne : new ≠ []) :
    splitAbove s (above ++ (new ++ below)) = (above, new ++ below) := by
  have hothers : ∀ {ls : List Line} (rest : List Line), (∀ l ∈ ls, s.isSkipLine l.body = false) →
      (ls ++ rest).dropWhile (fun l => !s.isSkipLine l.body)
        = rest.dropWhile (fun l => !s.isSkipLine l.body) := by
    intro ls rest hls
    exact List.dropWhile_append_of_pos fun l hl => by rw [hls l hl]; rfl
  rcases splitAbove_cases h with ⟨rfl, -, hnone⟩ | ⟨others, tops, rfl, -, hsome, hoth, htop, hrun, -⟩
  · rw [List.nil_append] at hnone ⊢
    unfold splitAbove
    by_cases hskip : s.skip.isNone = true
    · rw [if_pos hskip]
    · have hempty := hnone.resolve_left hskip
      rw [if_neg hskip]
      dsimp only
      rw [hothers below hnew, dropWhile_dropWhile_of_append hempty]
      rfl
  · obtain ⟨t, tops, rfl⟩ := List.exists_cons_of_ne_nil htop
    obtain ⟨n, new, rfl⟩ := List.exists_cons_of_ne_nil hne
    have ht : s.isSkipLine t.body = true := hrun t List.mem_cons_self
    have hn : s.isSkipLine n.body = false := hnew n List.mem_cons_self
    have hdrop : (others ++ t :: tops ++ (n :: new ++ below)).dropWhile
        (fun l => !s.isSkipLine l.body) = t :: tops ++ (n :: new ++ below) := by
      rw [List.append_assoc, hothers _ hoth]
      exact List.dropWhile_cons_of_neg (by simp [ht])
    have hrest : (t :: tops ++ (n :: new ++ below)).dropWhile (fun l => s.isSkipLine l.body)
        = n :: new ++ below := by
      rw [List.dropWhile_append_of_pos hrun]
      exact List.dropWhile_cons_of_neg (by simp [hn])
    unfold splitAbove
    rw [if_neg (by rw [hsome]; exact Bool.false_ne_true)]
    dsimp only
    rw [hdrop, hrest, List.cons_append, List.isEmpty_cons, if_neg Bool.false_ne_true]
    congr 1
    refine List.take_left' ?_
    have hlen : (others ++ t :: tops ++ n :: (new ++ below)).length
        = (others ++ t :: tops).length + (n :: (new ++ below)).length := List.length_append
    rw [hlen, Nat.add_sub_cancel]

theorem splitAbove_insert {s : Style} {above below new : List Line}
    (h : splitAbove s (above ++ below) = (above, below))
    (hnew : ∀ l ∈ new, s.isSkipLine l.body = false) (hne : new ≠ []) :
    splitAbove s (above ++ (new ++ below)) = (above, new ++ below) := by
  have hold : splitAbove s (above ++ ([] ++ below)) = (above, [] ++ below) := h
  exact splitAbove_replace hold hnew hne

/-! ### The result of a scan -/

theorem readHeader_suffix {s : Style} {lines words left : List Line}
    (h : readHeader s lines = (some words, left)) : left <:+ lines := by
  obtain ⟨blanks, first, gap, second, rest, rfl, -, -, -, -, -, -, -, rfl⟩ := readHeader_eq_some h
  refine (readBody_suffix s second rest).trans ?_
  refine (List.suffix_cons second rest).trans ?_
  refine (List.suffix_append gap _).trans ?_
  exact (List.suffix_cons first _).trans (List.suffix_append blanks _)

/-- **A found header.**  It was read below the lines that stay on top, it has all keywords, and it
reaches to the lines below it. -/
theorem run_header_eq_some {s : Style} {keywords : List Text} {t : Text} {header : List Line}
    (h : (run s keywords t).header = some header) :
    ∃ words left,
      readHeader s (splitAbove s (Line.split t)).2 = (some words, left) ∧
      hasKeywords keywords words = true ∧
      (run s keywords t).above = (splitAbove s (Line.split t)).1 ∧
      (run s keywords t).below
        = dropSpacing s (splitAbove s (Line.split t)).1.isEmpty left ∧
      (splitAbove s (Line.split t)).2 = header ++ (run s keywords t).below := by
  unfold run at h ⊢
  generalize splitAbove s (Line.split t) = cut at h ⊢
  obtain ⟨above, lines⟩ := cut
  dsimp only at h ⊢
  split at h
  · rename_i words left hread
    split at h
    · rename_i hkeys
      rw [if_pos hkeys]
      refine ⟨words, left, hread, hkeys, rfl, rfl, ?_⟩
      obtain ⟨spacing, hspacing, -⟩ := dropSpacing_eq s above.isEmpty left
      have hsuffix : dropSpacing s above.isEmpty left <:+ lines :=
        (show _ <:+ left from ⟨spacing, hspacing.symm⟩).trans (readHeader_suffix hread)
      rw [← Option.some.inj h]
      exact (List.suffix_iff_eq_append.mp hsuffix).symm
    · simp at h
  · simp at h

/-- **Nothing is lost.**  The lines above, of and below a found header are the lines of the file. -/
theorem split_eq_of_run {s : Style} {keywords : List Text} {t : Text} {header : List Line}
    (h : (run s keywords t).header = some header) :
    Line.split t = (run s keywords t).above ++ header ++ (run s keywords t).below := by
  obtain ⟨words, left, -, -, habove, -, hcut⟩ := run_header_eq_some h
  rw [habove, List.append_assoc, ← hcut]
  exact eq_append_of_splitAbove rfl

/-- A header is found if one is read that has all keywords. -/
theorem run_of_readHeader {s : Style} {keywords : List Text} {t : Text}
    {above lines words left : List Line} (hcut : splitAbove s (Line.split t) = (above, lines))
    (hread : readHeader s lines = (some words, left)) (hkeys : hasKeywords keywords words = true) :
    (run s keywords t).above = above ∧ (run s keywords t).header.isSome = true ∧
      (run s keywords t).below = dropSpacing s above.isEmpty left := by
  unfold run
  rw [hcut]
  dsimp only
  rw [hread]
  dsimp only
  rw [if_pos hkeys]
  exact ⟨rfl, rfl, rfl⟩

/-- The lines above and below the place of a header that was not found. -/
theorem run_of_header_eq_none {s : Style} {keywords : List Text} {t : Text}
    (h : (run s keywords t).header = none) :
    (run s keywords t).above = (splitAbove s (Line.split t)).1 ∧
      (run s keywords t).below = (splitAbove s (Line.split t)).2 := by
  unfold run at h ⊢
  generalize splitAbove s (Line.split t) = cut at h ⊢
  obtain ⟨above, lines⟩ := cut
  dsimp only at h ⊢
  split at h
  · split at h
    · simp at h
    · rename_i hkeys
      rw [if_neg hkeys]
      exact ⟨rfl, rfl⟩
  · exact ⟨rfl, rfl⟩

/-- The place of a header, whether one was found or not: what stays on top is above it. -/
theorem exists_splitAbove_eq (s : Style) (keywords : List Text) (t : Text) :
    ∃ old, splitAbove s (Line.split t) = ((run s keywords t).above, old ++ (run s keywords t).below) := by
  cases hheader : (run s keywords t).header with
  | none =>
    obtain ⟨habove, hbelow⟩ := run_of_header_eq_none hheader
    exact ⟨[], by rw [habove, hbelow, List.nil_append]⟩
  | some header =>
    obtain ⟨-, -, -, -, habove, -, hcut⟩ := run_header_eq_some hheader
    exact ⟨header, by rw [habove, ← hcut]⟩

end HeaderScan

end LicenseHeader
