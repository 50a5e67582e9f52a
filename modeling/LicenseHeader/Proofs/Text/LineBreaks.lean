import LicenseHeader.Proofs.Text.Lines

/-!
# Two ways to write line breaks

A file is written with line feeds alone or with a carriage return before each of them.
`Text.crlf` writes a text in the second way.  It has the same lines, only their breaks differ:

* `LineEnding.detect_eq_crlf_iff`: which of the two ways a file is written in, and
  `LineEnding.writes_apply_detect`: how another text is written in the way of the file;
* `Line.split_crlf`: cutting into lines first, or writing carriage returns first, is the same;
* `Line.unsplit_map_crlf`: so is putting lines together again;
* `Text.lines_crlf`: the lines as a header is compared with them are the same.
-/

namespace LicenseHeader

/-- A file is written with carriage returns if there is one before its first line feed. -/
theorem LineEnding.detect_eq_crlf_iff {t : Text} :
    detect t = .crlf ↔ ∃ front back, t = front ++ '\r' :: '\n' :: back ∧ '\n' ∉ front := by
  constructor
  · intro h
    unfold detect at h
    split at h
    · rename_i i hfirst
      split at h
      · rename_i hreturn
        obtain ⟨hcut, hfeed⟩ := Text.cut_of_findIdx? hfirst
        obtain ⟨front, hfront⟩ := List.getLast?_eq_some_iff.mp hreturn
        refine ⟨front, t.drop (i + 1), ?_, fun hmem => hfeed ?_⟩
        · rw [hfront, List.append_assoc] at hcut
          exact hcut
        · rw [hfront]
          exact List.mem_append_left _ hmem
      · cases h
    · cases h
  · rintro ⟨front, back, rfl, hfront⟩
    have hfirst : (front ++ '\r' :: '\n' :: back).findIdx? (· = '\n') = some (front.length + 1) := by
      have hnone : front.findIdx? (· = '\n') = none := by
        rw [List.findIdx?_eq_none_iff]
        intro c hc
        exact decide_eq_false fun he => hfront (he ▸ hc)
      rw [List.findIdx?_append, hnone]
      simp [List.findIdx?_cons]
      omega
    have htake : (front ++ '\r' :: '\n' :: back).take (front.length + 1) = front ++ ['\r'] := by
      rw [List.append_cons]
      exact List.take_left' (by simp)
    rw [detect, hfirst]
    dsimp only
    rw [htake, if_pos List.getLast?_concat]

namespace LineEnding

/-- A text written with the line breaks of a file with the text `t`.  If the first line break of the file
has a carriage return, every line feed is written with one; otherwise the text is written as it is. -/
def Writes (t u written : Text) : Prop :=
  (∃ front back, t = front ++ '\r' :: '\n' :: back ∧ '\n' ∉ front ∧
    written = Text.joinWith ['\r', '\n'] (splitAt '\n' u)) ∨
  (¬∃ front back, t = front ++ '\r' :: '\n' :: back ∧ '\n' ∉ front) ∧ written = u

/-- The lines of a text stay, and a carriage return comes before each line feed between them. -/
theorem apply_crlf_eq (u : Text) :
    crlf.apply u = Text.joinWith ['\r', '\n'] (splitAt '\n' u) := by
  induction u with
  | nil => rfl
  | cons c u ih =>
    show (if c = '\n' then ['\r', '\n'] else [c]) ++ crlf.apply u = _
    rw [ih, splitAt]
    cases hparts : splitAt '\n' u with
    | nil => exact absurd hparts (splitAt_ne_nil '\n' u)
    | cons part parts =>
      by_cases hc : c = '\n'
      · rw [if_pos hc, if_pos hc]
        rfl
      · rw [if_neg hc, if_neg hc]
        cases parts with
        | nil => rfl
        | cons next parts => rfl

theorem writes_apply_detect (t u : Text) : Writes t u ((detect t).apply u) := by
  cases hdetect : detect t with
  | crlf =>
    obtain ⟨front, back, htext, hfront⟩ := detect_eq_crlf_iff.mp hdetect
    exact Or.inl ⟨front, back, htext, hfront, apply_crlf_eq u⟩
  | lf =>
    refine Or.inr ⟨?_, rfl⟩
    rw [← detect_eq_crlf_iff, hdetect]
    exact LineEnding.noConfusion

end LineEnding

namespace Text

variable {t : Text}

/-- The text with a carriage return before every line feed. -/
def crlf (t : Text) : Text := LineEnding.crlf.apply t

@[simp]
theorem crlf_append (s t : Text) : crlf (s ++ t) = crlf s ++ crlf t :=
  List.flatMap_append

theorem crlf_feed (t : Text) : crlf ('\n' :: t) = '\r' :: '\n' :: crlf t := rfl

theorem crlf_cons {c : Char} (hc : c ≠ '\n') (t : Text) : crlf (c :: t) = c :: crlf t := by
  show (if c = '\n' then ['\r', '\n'] else [c]) ++ crlf t = _
  rw [if_neg hc]
  rfl

theorem crlf_of_noFeed (h : '\n' ∉ t) : crlf t = t := by
  induction t with
  | nil => rfl
  | cons c t ih =>
    rw [List.mem_cons, not_or] at h
    rw [crlf_cons (Ne.symm h.1), ih h.2]

/-- A text without carriage returns is written with line feeds alone. -/
theorem detect_of_noReturn (h : '\r' ∉ t) : LineEnding.detect t = .lf := by
  cases hd : LineEnding.detect t with
  | lf => rfl
  | crlf =>
    obtain ⟨front, back, rfl, -⟩ := LineEnding.detect_eq_crlf_iff.mp hd
    exact absurd (by simp) h

theorem detect_crlf (h : '\n' ∈ t) : LineEnding.detect t.crlf = .crlf := by
  obtain ⟨front, back, rfl, hfront⟩ := List.eq_append_cons_of_mem h
  refine LineEnding.detect_eq_crlf_iff.mpr ⟨front, crlf back, ?_, hfront⟩
  rw [crlf_append, crlf_of_noFeed hfront, crlf_feed]

end Text

namespace Line

variable {t : Text}

/-- The line with a carriage return before its line feed. -/
def crlf (l : Line) : Line :=
  match l.ending with
  | .lf => ⟨l.body, .crlf⟩
  | _ => l

@[simp]
theorem body_crlf (l : Line) : l.crlf.body = l.body := by
  obtain ⟨body, ending⟩ := l
  cases ending <;> rfl

/-- A line of a text without carriage returns. -/
structure IsPlain (l : Line) : Prop where
  noFeed : '\n' ∉ l.body
  ending : l.ending = .lf ∨ l.ending = .none

theorem isPlain_of_mem_split (h : '\r' ∉ t) {l : Line} (hl : l ∈ split t) : l.IsPlain := by
  have hreturn : '\r' ∉ l.text := by
    intro hr
    have hin := (text_isInfix_of_mem hl).subset hr
    rw [unsplit_split] at hin
    exact h hin
  refine ⟨noFeed_of_mem_split hl, ?_⟩
  obtain ⟨body, ending⟩ := l
  cases ending with
  | lf => exact Or.inl rfl
  | none => exact Or.inr rfl
  | crlf => exact absurd (by simp [text, LineBreak.text]) hreturn
  | cr => exact absurd (by simp [text, LineBreak.text]) hreturn

theorem text_crlf {l : Line} (h : l.IsPlain) : l.crlf.text = l.text.crlf := by
  obtain ⟨body, ending⟩ := l
  obtain rfl | rfl : ending = .lf ∨ ending = .none := h.ending
  all_goals
    show _ = Text.crlf (body ++ _)
    rw [Text.crlf_append, Text.crlf_of_noFeed h.noFeed]
    rfl

theorem content_crlf {l : Line} (h : l.IsPlain) : l.crlf.content = l.content := by
  obtain ⟨body, ending⟩ := l
  obtain rfl | rfl : ending = .lf ∨ ending = .none := h.ending
  all_goals rfl

theorem unsplit_map_crlf {ls : List Line} (h : ∀ l ∈ ls, l.IsPlain) :
    unsplit (ls.map crlf) = (unsplit ls).crlf := by
  induction ls with
  | nil => rfl
  | cons l ls ih =>
    rw [List.map_cons, unsplit_cons, unsplit_cons, Text.crlf_append, text_crlf (h l List.mem_cons_self),
      ih fun k hk => h k (List.mem_cons_of_mem _ hk)]

theorem prepend_map_crlf {c : Char} (hc : c ≠ '\r') (ls : List Line) :
    prepend c (ls.map crlf) = (prepend c ls).map crlf := by
  cases ls with
  | nil => simp [prepend, hc, crlf]
  | cons l ls =>
    obtain ⟨body, ending⟩ := l
    cases ending <;> simp [prepend, hc, crlf]

/-- **The lines stay the same.**  With a carriage return before every line feed a text has the same
lines with other breaks. -/
theorem split_crlf (h : '\r' ∉ t) : split t.crlf = (split t).map crlf := by
  induction t with
  | nil => rfl
  | cons c t ih =>
    rw [List.mem_cons, not_or] at h
    by_cases hc : c = '\n'
    · subst hc
      -- the carriage return joins the break of the line that the line feed ends
      show prepend '\r' (⟨[], .lf⟩ :: split (Text.crlf t)) = ⟨[], .crlf⟩ :: (split t).map crlf
      rw [ih h.2]
      rfl
    · rw [Text.crlf_cons hc, split, if_neg hc, ih h.2, split, if_neg hc,
        prepend_map_crlf (Ne.symm h.1)]

end Line

theorem Text.lines_crlf {t : Text} (h : '\r' ∉ t) : t.crlf.lines = t.lines := by
  rw [lines_eq, lines_eq, Line.split_crlf h, List.map_map]
  exact List.map_congr_left fun l hl => Line.content_crlf (Line.isPlain_of_mem_split h hl)

end LicenseHeader
