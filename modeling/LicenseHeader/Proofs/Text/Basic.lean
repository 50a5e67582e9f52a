import LicenseHeader.Text.Line
import Mathlib.Data.List.Induction
import Mathlib.Data.List.TakeWhile

/-!
# Occurrences, blanks and trimming

The searching and trimming operations on texts, said in terms of the order of lists.

* `isIn_iff_isInfix`: a text occurs in another exactly if it is an infix of it;
* `trimEnd_isPrefix` and `trimEnd_isPrefix_append`: trimming keeps a front part, and what is left
  of a text stays in front when something is written after it;
* `isBlank_trimEnd`: trimming makes no text blank;
* `flatMap_splitAt`: the parts between line feeds, each with a line feed put back.
-/

namespace LicenseHeader

namespace Text

/-! ### Occurrences -/

theorem isIn_iff_isInfix {needle t : Text} : needle.isIn t = true ↔ needle <:+: t := by
  induction t with
  | nil => simp [isIn]
  | cons c t ih =>
    rw [isIn, Bool.or_eq_true, ih, List.isPrefixOf_iff_prefix, List.infix_cons_iff]

/-- What occurs in a part of a text occurs in the text. -/
theorem isIn_of_isInfix {needle s t : Text} (hn : needle.isIn s = true) (hs : s <:+: t) :
    needle.isIn t = true := by
  rw [isIn_iff_isInfix] at hn ⊢
  exact hn.trans hs

/-! ### Blanks -/

theorem isBlank_append (s t : Text) : isBlank (s ++ t) = (isBlank s && isBlank t) := by
  simp [isBlank]

theorem isBlank_eq_false_iff {t : Text} : t.isBlank = false ↔ ∃ c ∈ t, isWhite c = false := by
  simp [isBlank]

/-- A text with a part that is not blank is not blank. -/
theorem isBlank_eq_false_of_isInfix {s t : Text} (h : s.isBlank = false) (hs : s <:+: t) :
    t.isBlank = false := by
  obtain ⟨c, hc, hw⟩ := isBlank_eq_false_iff.mp h
  exact isBlank_eq_false_iff.mpr ⟨c, hs.subset hc, hw⟩

/-! ### Trimming -/

theorem trimEnd_isPrefix (t : Text) : t.trimEnd <+: t := by
  have h : t.reverse.dropWhile isWhite <:+ t.reverse := List.dropWhile_suffix _
  rw [trimEnd, ← List.reverse_reverse t]
  simpa using List.reverse_prefix.mpr h

/-- Trimming from the end stops at the first character that is not white. -/
theorem trimEnd_append (s t : Text) :
    trimEnd (s ++ t) = if t.isBlank then trimEnd s else s ++ trimEnd t := by
  have hb : (List.dropWhile isWhite t.reverse).isEmpty = t.isBlank := by
    rw [Bool.eq_iff_iff, List.isEmpty_iff, List.dropWhile_eq_nil_iff]
    simp [isBlank]
  unfold trimEnd
  rw [List.reverse_append, List.dropWhile_append, hb]
  split
  · rfl
  · rw [List.reverse_append, List.reverse_reverse]

/-- What is left of a text after trimming stays in front, whatever is written after the text. -/
theorem trimEnd_isPrefix_append (s t : Text) : s.trimEnd <+: trimEnd (s ++ t) := by
  rw [trimEnd_append]
  split
  · exact List.prefix_rfl
  · exact (trimEnd_isPrefix s).trans (List.prefix_append s _)

theorem trimEnd_eq_nil_iff {t : Text} : t.trimEnd = [] ↔ t.isBlank = true := by
  rw [trimEnd, List.reverse_eq_nil_iff, List.dropWhile_eq_nil_iff]
  simp [isBlank]

theorem isBlank_trimEnd (t : Text) : t.trimEnd.isBlank = t.isBlank := by
  induction t using List.reverseRecOn with
  | nil => rfl
  | append_singleton t c ih =>
    rw [trimEnd_append]
    split
    · rename_i hc
      rw [ih, isBlank_append, hc, Bool.and_true]
    · rename_i hc
      have hw : isWhite c = false := by simpa [isBlank] using hc
      have hkeep : trimEnd [c] = [c] := by simp [trimEnd, hw]
      rw [hkeep]

end Text

/-! ### Parts between separators -/

theorem splitAt_ne_nil {α : Type} [DecidableEq α] (sep : α) (l : List α) : splitAt sep l ≠ [] := by
  cases l with
  | nil => simp [splitAt]
  | cons a l =>
    rw [splitAt]
    split
    · simp
    · split <;> simp

/-- The parts with a separator put after each of them are the list with one separator more. -/
theorem flatMap_splitAt {α : Type} [DecidableEq α] (sep : α) (l : List α) :
    (splitAt sep l).flatMap (· ++ [sep]) = l ++ [sep] := by
  induction l with
  | nil => rfl
  | cons a l ih =>
    by_cases h : a = sep
    · rw [splitAt, if_pos h, List.flatMap_cons, ih, h]
      rfl
    · rw [splitAt, if_neg h]
      cases hs : splitAt sep l with
      | nil => exact absurd hs (splitAt_ne_nil sep l)
      | cons part parts =>
        rw [hs] at ih
        simpa using ih

theorem not_mem_of_mem_splitAt {α : Type} [DecidableEq α] {sep : α} {l part : List α}
    (h : part ∈ splitAt sep l) : sep ∉ part := by
  induction l generalizing part with
  | nil =>
    rw [splitAt, List.mem_singleton] at h
    simp [h]
  | cons a l ih =>
    by_cases ha : a = sep
    · rw [splitAt, if_pos ha, List.mem_cons] at h
      rcases h with rfl | h
      · simp
      · exact ih h
    · rw [splitAt, if_neg ha] at h
      cases hs : splitAt sep l with
      | nil => exact absurd hs (splitAt_ne_nil sep l)
      | cons head parts =>
        rw [hs] at h ih
        rcases List.mem_cons.mp h with rfl | h
        · have hhead : sep ∉ head := ih List.mem_cons_self
          simp [Ne.symm ha, hhead]
        · exact ih (List.mem_cons_of_mem _ h)

/-- The characters of the parts are those of the list. -/
theorem mem_of_mem_splitAt {α : Type} [DecidableEq α] {sep a : α} {l part : List α}
    (h : part ∈ splitAt sep l) (ha : a ∈ part) : a ∈ l := by
  have hne : a ≠ sep := fun e => not_mem_of_mem_splitAt h (e ▸ ha)
  have hmem : a ∈ (splitAt sep l).flatMap (· ++ [sep]) :=
    List.mem_flatMap.mpr ⟨part, h, List.mem_append_left _ ha⟩
  rw [flatMap_splitAt, List.mem_append, List.mem_singleton] at hmem
  exact hmem.resolve_right hne

/-- Reading back parts without separator that were written with a separator after each. -/
theorem splitAt_flatMap {α : Type} [DecidableEq α] {sep : α} {parts : List (List α)}
    (h : ∀ part ∈ parts, sep ∉ part) (rest : List α) :
    splitAt sep (parts.flatMap (· ++ [sep]) ++ rest) = parts ++ splitAt sep rest := by
  induction parts with
  | nil => rfl
  | cons part parts ih =>
    have hrest := ih fun p hp => h p (List.mem_cons_of_mem _ hp)
    have hpart : sep ∉ part := h part List.mem_cons_self
    rw [List.flatMap_cons, List.append_assoc, List.append_assoc]
    clear h ih
    induction part with
    | nil =>
      show splitAt sep (sep :: (parts.flatMap (· ++ [sep]) ++ rest)) = _
      rw [splitAt, if_pos rfl, hrest]
      rfl
    | cons a part ih =>
      have ha : a ≠ sep := fun e => hpart (e ▸ List.mem_cons_self)
      have hs := ih fun m => hpart (List.mem_cons_of_mem _ m)
      rw [List.cons_append, splitAt, if_neg ha, hs]
      rfl

theorem splitAt_append_cons {α : Type} [DecidableEq α] (sep : α) (front back : List α) :
    splitAt sep (front ++ sep :: back) = splitAt sep front ++ splitAt sep back := by
  rw [← splitAt_flatMap (fun part => not_mem_of_mem_splitAt) back, flatMap_splitAt, List.append_assoc]
  rfl

end LicenseHeader
