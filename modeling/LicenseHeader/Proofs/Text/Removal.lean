import Mathlib.Data.List.Infix
import LicenseHeader.Proofs.Text.Basic

/-!
# Taking marks out of a text

All occurrences of a mark are taken out from the left, and then those of the next mark.  What stays
of a text is found out piece by piece.

* `Text.remove_cut`: a character that is in no mark cuts a text in two, which do not matter for each
  other;
* `Text.remove_clear_append`: a text in which no mark stands or begins stays, whatever follows it
  (`Text.IsClear`);
* `Text.remove_brick_append`: a text that is a mark itself goes, if the other marks are clear of it
  (`Text.IsBrick`);
* `Text.bare`: what stays without white space.
-/

namespace LicenseHeader

namespace Text

variable {d t u v y r : Text} {c : Char}

/-! ### One mark -/

theorem replaceFrom_skip (d new : Text) (skipped t : Text) :
    replaceFrom d new skipped.length (skipped ++ t) = replaceFrom d new 0 t := by
  induction skipped with
  | nil => rfl
  | cons c skipped ih => exact ih

/-- A mark at the start goes. -/
theorem replaceFrom_append_self (hd : d ≠ []) (t : Text) :
    replaceFrom d [] 0 (d ++ t) = replaceFrom d [] 0 t := by
  cases d with
  | nil => exact absurd rfl hd
  | cons c rest =>
    have hstart : (c :: rest).isPrefixOf (c :: (rest ++ t)) = true :=
      List.isPrefixOf_iff_prefix.mpr (List.prefix_append (c :: rest) t)
    rw [List.cons_append, replaceFrom, if_pos hstart]
    exact replaceFrom_skip (c :: rest) [] rest t

theorem replaceFrom_cons (h : ¬d <+: c :: t) :
    replaceFrom d [] 0 (c :: t) = c :: replaceFrom d [] 0 t := by
  rw [replaceFrom, if_neg]
  rw [List.isPrefixOf_iff_prefix]
  exact h

/-- A text in which no mark begins stays. -/
theorem replaceFrom_append (h : ∀ p, p ≠ [] → p <:+ y → ¬d <+: p ++ r) :
    replaceFrom d [] 0 (y ++ r) = y ++ replaceFrom d [] 0 r := by
  induction y with
  | nil => rfl
  | cons c y ih =>
    have hstart : ¬d <+: c :: (y ++ r) := h (c :: y) (by simp) List.suffix_rfl
    rw [List.cons_append, replaceFrom_cons hstart, ih]
    · rfl
    · intro p hp hy
      exact h p hp (hy.trans (List.suffix_cons c y))

/-- A mark that begins before a character which is not in it ends before it. -/
theorem isPrefix_of_append_cons (hc : c ∉ d) (h : d <+: u ++ c :: v) : d <+: u := by
  rcases Nat.le_total d.length u.length with hle | hle
  · exact List.prefix_of_prefix_length_le h (List.prefix_append u _) hle
  · have hu : u <+: d := List.prefix_of_prefix_length_le (List.prefix_append u _) h hle
    obtain ⟨rest, rfl⟩ := hu
    rw [List.prefix_append_right_inj] at h
    cases rest with
    | nil => simp
    | cons a rest =>
      obtain ⟨rfl, -⟩ := List.cons_prefix_cons.mp h
      exact absurd (by simp) hc

/-- A character that is not in the mark cuts the text in two. -/
theorem replaceFrom_cut (hd : d ≠ []) (hc : c ∉ d) (u v : Text) :
    replaceFrom d [] 0 (u ++ c :: v) = replaceFrom d [] 0 u ++ c :: replaceFrom d [] 0 v := by
  by_cases hstart : d <+: u
  · obtain ⟨rest, rfl⟩ := hstart
    have hshorter : rest.length < (d ++ rest).length := by
      have hpos := List.length_pos_iff.mpr hd
      rw [List.length_append]
      omega
    rw [List.append_assoc, replaceFrom_append_self hd, replaceFrom_append_self hd,
      replaceFrom_cut hd hc rest v]
  · cases u with
    | nil =>
      rw [List.nil_append, replaceFrom_cons fun h => hstart (isPrefix_of_append_cons hc h)]
      rfl
    | cons a u =>
      have hnot : ¬d <+: a :: (u ++ c :: v) := fun h => hstart (isPrefix_of_append_cons hc h)
      rw [List.cons_append, replaceFrom_cons hnot, replaceFrom_cons hstart, replaceFrom_cut hd hc u v]
      rfl
termination_by u.length

theorem replace_of_ne_nil (hd : d ≠ []) (t : Text) : t.replace d [] = replaceFrom d [] 0 t := by
  rw [replace, if_neg (by simp [hd])]

theorem replace_cut (hc : c ∉ d) (u v : Text) :
    (u ++ c :: v).replace d [] = u.replace d [] ++ c :: v.replace d [] := by
  by_cases hd : d = []
  · subst hd
    rfl
  · rw [replace_of_ne_nil hd, replace_of_ne_nil hd, replace_of_ne_nil hd, replaceFrom_cut hd hc]

/-! ### Some marks -/

/-- The mark `d` does not stand in `y`, and none begins in it. -/
def IsClear (d y : Text) : Prop := ∀ p ∈ y.tails, p ≠ [] → ¬p <+: d ∧ ¬d <+: p

instance (d y : Text) : Decidable (IsClear d y) :=
  inferInstanceAs (Decidable (∀ p ∈ y.tails, p ≠ [] → ¬p <+: d ∧ ¬d <+: p))

/-- Takes the marks out of a text, one after the other. -/
def remove (marks : List Text) (t : Text) : Text := marks.foldl (fun t d => t.replace d []) t

theorem replace_clear_append (h : IsClear d y) (r : Text) :
    (y ++ r).replace d [] = y ++ r.replace d [] := by
  by_cases hd : d = []
  · subst hd
    rfl
  · rw [replace_of_ne_nil hd, replace_of_ne_nil hd]
    refine replaceFrom_append fun p hp hy hstart => ?_
    obtain ⟨hnot, hnot'⟩ := h p ((List.mem_tails p y).mpr hy) hp
    rcases List.prefix_or_prefix_of_prefix hstart (List.prefix_append p r) with hin | hin
    · exact hnot' hin
    · exact hnot hin

section Marks

variable {marks : List Text}

/-- **A character that is in no mark cuts a text in two.** -/
theorem remove_cut (hc : ∀ d ∈ marks, c ∉ d) (u v : Text) :
    remove marks (u ++ c :: v) = remove marks u ++ c :: remove marks v := by
  induction marks generalizing u v with
  | nil => rfl
  | cons d marks ih =>
    show remove marks ((u ++ c :: v).replace d []) = _
    rw [replace_cut (hc d List.mem_cons_self), ih fun e he => hc e (List.mem_cons_of_mem d he)]
    rfl

/-- **A text in which no mark stands or begins stays**, whatever follows it. -/
theorem remove_clear_append (h : ∀ d ∈ marks, IsClear d y) (r : Text) :
    remove marks (y ++ r) = y ++ remove marks r := by
  induction marks generalizing r with
  | nil => rfl
  | cons d marks ih =>
    show remove marks ((y ++ r).replace d []) = _
    rw [replace_clear_append (h d List.mem_cons_self),
      ih fun e he => h e (List.mem_cons_of_mem d he)]
    rfl

/-- A text that has no mark stays. -/
theorem remove_of_not_isInfix (h : ∀ d ∈ marks, ¬d <:+: y) : remove marks y = y := by
  induction marks with
  | nil => rfl
  | cons d marks ih =>
    have hkept : y.replace d [] = y := by
      have hd : d ≠ [] := by
        rintro rfl
        exact h [] List.mem_cons_self List.nil_infix
      have hnone : replaceFrom d [] 0 (y ++ []) = y ++ replaceFrom d [] 0 [] := by
        refine replaceFrom_append fun p _ hy hstart => ?_
        rw [List.append_nil] at hstart
        exact h d List.mem_cons_self (hstart.isInfix.trans hy.isInfix)
      rw [List.append_nil, replaceFrom, List.append_nil] at hnone
      rw [replace_of_ne_nil hd, hnone]
    show remove marks (y.replace d []) = y
    rw [hkept]
    exact ih fun e he => h e (List.mem_cons_of_mem d he)

/-- One of the marks, and all others are clear of it. -/
def IsBrick (marks : List Text) (b : Text) : Prop :=
  b ≠ [] ∧ b ∈ marks ∧ ∀ d ∈ marks, d = b ∨ IsClear d b

instance (b : Text) : Decidable (IsBrick marks b) :=
  inferInstanceAs (Decidable (b ≠ [] ∧ b ∈ marks ∧ ∀ d ∈ marks, d = b ∨ IsClear d b))

/-- **A text that is one of the marks goes**, whatever follows it. -/
theorem remove_brick_append {b : Text} (hb : IsBrick marks b) (r : Text) :
    remove marks (b ++ r) = remove marks r := by
  obtain ⟨hne, hmem, hclear⟩ := hb
  induction marks generalizing r with
  | nil => simp at hmem
  | cons d marks ih =>
    show remove marks ((b ++ r).replace d []) = remove marks (r.replace d [])
    by_cases hd : d = b
    · subst hd
      rw [replace_of_ne_nil hne, replaceFrom_append_self hne, replace_of_ne_nil hne]
    · have hleft : b ∈ marks := by
        rcases List.mem_cons.mp hmem with heq | hmem
        · exact absurd heq.symm hd
        · exact hmem
      rw [replace_clear_append ((hclear d List.mem_cons_self).resolve_left hd)]
      exact ih _ hleft fun e he => hclear e (List.mem_cons_of_mem d he)

theorem remove_nil (marks : List Text) : remove marks [] = [] := by
  induction marks with
  | nil => rfl
  | cons d marks ih =>
    have hnil : Text.replace [] d [] = [] := by
      rw [replace]
      split <;> rfl
    show remove marks (Text.replace [] d []) = []
    rw [hnil, ih]

/-! ### White space -/

theorem squeeze_append (s t : Text) : squeeze (s ++ t) = squeeze s ++ squeeze t :=
  List.filter_append s t

theorem squeeze_of_isBlank (h : t.isBlank = true) : t.squeeze = [] := by
  rw [squeeze, List.filter_eq_nil_iff]
  intro c hc
  simp [List.all_eq_true.mp h c hc]

theorem squeeze_squeeze (t : Text) : t.squeeze.squeeze = t.squeeze := by
  simp [squeeze]

theorem exists_trimStart (t : Text) : ∃ front : Text, front.isBlank = true ∧ t = front ++ t.trimStart :=
  ⟨t.takeWhile isWhite, List.all_eq_true.mpr fun _ hc => List.mem_takeWhile_imp hc,
    List.takeWhile_append_dropWhile.symm⟩

/-- A line and the same line with white space after it. -/
def Padded (line l : Text) : Prop := ∃ blank : Text, blank.isBlank = true ∧ l = line ++ blank

theorem padded_trimEnd (t : Text) : Padded t.trimEnd t := by
  obtain ⟨back, hback, hreverse⟩ := exists_trimStart t.reverse
  refine ⟨back.reverse, ?_, ?_⟩
  · rw [isBlank, List.all_reverse]
    exact hback
  · rw [trimEnd, ← List.reverse_append, ← trimStart, ← hreverse, List.reverse_reverse]

/-- What stays of a text without the marks and without white space. -/
def bare (marks : List Text) (t : Text) : Text := squeeze (remove marks t)

theorem bare_nil (marks : List Text) : bare marks [] = [] := by
  rw [bare, remove_nil]
  rfl

section Bare

variable (hmarks : ∀ d ∈ marks, d.any isWhite = false)
include hmarks

/-- White space cuts a text in two. -/
theorem bare_cut (hc : isWhite c = true) (u v : Text) :
    bare marks (u ++ c :: v) = bare marks u ++ bare marks v := by
  have hnot : ∀ d ∈ marks, c ∉ d := fun d hd hmem =>
    List.any_eq_false.mp (hmarks d hd) c hmem hc
  have hsqueeze : squeeze (c :: remove marks v) = squeeze (remove marks v) := by
    simp [squeeze, hc]
  rw [bare, remove_cut hnot, squeeze_append, hsqueeze]
  rfl

theorem bare_blank_append {w : Text} (hw : w.isBlank = true) (v : Text) :
    bare marks (w ++ v) = bare marks v := by
  induction w with
  | nil => rfl
  | cons c w ih =>
    simp only [isBlank, List.all_cons, Bool.and_eq_true] at hw
    have hcut := bare_cut hmarks hw.1 [] (w ++ v)
    rw [List.nil_append, bare_nil, List.nil_append] at hcut
    rw [List.cons_append, hcut]
    exact ih hw.2

theorem bare_append_blank {w : Text} (hw : w.isBlank = true) (v : Text) :
    bare marks (v ++ w) = bare marks v := by
  cases w with
  | nil => rw [List.append_nil]
  | cons c w =>
    simp only [isBlank, List.all_cons, Bool.and_eq_true] at hw
    have hrest := bare_blank_append hmarks hw.2 []
    rw [List.append_nil] at hrest
    rw [bare_cut hmarks hw.1, hrest, bare_nil, List.append_nil]

/-- White space around a text does not matter. -/
theorem bare_trim (t : Text) : bare marks t.trim = bare marks t := by
  obtain ⟨front, hfront, hstart⟩ := exists_trimStart t
  obtain ⟨back, hback, hend⟩ := padded_trimEnd t.trimStart
  conv => rhs; rw [hstart, bare_blank_append hmarks hfront, hend, bare_append_blank hmarks hback]
  rfl

end Bare

end Marks

end Text

end LicenseHeader
