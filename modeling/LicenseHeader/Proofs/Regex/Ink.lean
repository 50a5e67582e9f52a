import LicenseHeader.Proofs.Text.Basic
import LicenseHeader.Regex.Basic

/-!
# Expressions that read ink

A pattern that closes a comment asks for the closing characters, so no blank line can match it.  This
is shown for every expression that has to read a character which is not white space.

* `Regex.readsInk`: decides, on the expression alone, that every match reads such a character;
* `Reads` and `reads_of_mem_ends`: a match reads a stretch of the text, and ink if it has to;
* `isBlank_eq_false_of_isMatch`: a text with a match is not blank.
-/

namespace LicenseHeader

namespace CharSet

/-- Whether the set lists single characters, none of which is white space. -/
def isInk : CharSet → Bool
  | ranges table => table.all fun r => r.1 == r.2 && !inRanges whiteSpaceRanges r.1
  | _ => false

theorem isWhite_of_isInk {set : CharSet} (h : set.isInk = true) {c : Char}
    (hc : set.mem c = true) : isWhite c = false := by
  cases set with
  | ranges table =>
    rw [isInk, List.all_eq_true] at h
    rw [mem] at hc
    induction table with
    | nil => exact Bool.noConfusion hc
    | cons r table ih =>
      obtain ⟨lo, hi⟩ := r
      have hr := h _ List.mem_cons_self
      simp only [Bool.and_eq_true, beq_iff_eq, Bool.not_eq_true'] at hr
      simp only [inRanges, Bool.and_eq_true, Bool.or_eq_true, decide_eq_true_eq] at hc
      rcases hc.2 with hle | hc
      · have hn : c.toNat = lo := by omega
        rw [isWhite, hn]
        exact hr.2
      · exact ih (fun k hk => h k (List.mem_cons_of_mem _ hk)) hc
  | _ => exact Bool.noConfusion h

end CharSet

namespace Regex

/-- Whether every match has to read a character that is not white space. -/
def readsInk : Regex → Bool
  | empty => false
  | chars set => set.isInk
  | look _ => false
  | seq first second => first.readsInk || second.readsInk
  | alt left right => left.readsInk && right.readsInk
  | rep r min _ => decide (0 < min) && r.readsInk

/-- Going from one place to another reads a stretch of the text, and ink if it is asked for. -/
def Reads (ink : Bool) (p q : Spot) : Prop :=
  ∃ stretch, p.rest = stretch ++ q.rest ∧ (ink = true → Text.isBlank stretch = false)

theorem Reads.refl (p : Spot) : Reads false p p := ⟨[], rfl, fun h => Bool.noConfusion h⟩

/-- Ink on one of two ways is ink on the whole way. -/
theorem Reads.trans {a b : Bool} {p q r : Spot} (hpq : Reads a p q) (hqr : Reads b q r) :
    Reads (a || b) p r := by
  obtain ⟨s, hs, has⟩ := hpq
  obtain ⟨t, ht, hbt⟩ := hqr
  refine ⟨s ++ t, by rw [hs, ht, List.append_assoc], fun h => ?_⟩
  rw [Text.isBlank_append]
  rcases Bool.or_eq_true _ _ ▸ h with h | h
  · rw [has h]
    rfl
  · rw [hbt h, Bool.and_false]

theorem Reads.weaken {a b : Bool} {p q : Spot} (h : Reads a p q) (hab : b = true → a = true) :
    Reads b p q := by
  obtain ⟨stretch, hs, hink⟩ := h
  exact ⟨stretch, hs, fun hb => hink (hab hb)⟩

/-! ### The places of a match -/

theorem mem_of_mem_merge {seen ps : List Spot} {q : Spot} (h : q ∈ Spot.merge seen ps) : q ∈ ps := by
  induction ps generalizing seen with
  | nil => simp [Spot.merge] at h
  | cons p ps ih =>
    rw [Spot.merge] at h
    split at h
    · exact List.mem_cons_of_mem _ (ih h)
    · rcases List.mem_cons.mp h with rfl | h
      · exact List.mem_cons_self
      · exact List.mem_cons_of_mem _ (ih h)

theorem mem_of_mem_distinct {ps : List Spot} {q : Spot} (h : q ∈ Spot.distinct ps) : q ∈ ps :=
  mem_of_mem_merge h

/-- What each step keeps is kept by any number of steps. -/
theorem power_keeps {step : Spot → List Spot} {P : Spot → Prop}
    (hstep : ∀ p, P p → ∀ q ∈ step p, P q) (n : Nat) {ps : List Spot} (hps : ∀ p ∈ ps, P p) :
    ∀ q ∈ power step n ps, P q := by
  induction n generalizing ps with
  | zero => exact hps
  | succ n ih =>
    rw [power]
    split
    · simp
    · refine ih fun q hq => ?_
      obtain ⟨p, hp, hq⟩ := List.mem_flatMap.mp (mem_of_mem_distinct hq)
      exact hstep p (hps p hp) q hq

theorem reach_keeps {step : Spot → List Spot} {P : Spot → Prop}
    (hstep : ∀ p, P p → ∀ q ∈ step p, P q) (n : Nat) {frontier seen : List Spot}
    (hfrontier : ∀ p ∈ frontier, P p) (hseen : ∀ p ∈ seen, P p) :
    ∀ q ∈ reach step n frontier seen, P q := by
  induction n generalizing frontier seen with
  | zero => exact hseen
  | succ n ih =>
    have hfresh : ∀ q ∈ Spot.merge seen (frontier.flatMap step), P q := by
      intro q hq
      obtain ⟨p, hp, hq⟩ := List.mem_flatMap.mp (mem_of_mem_merge hq)
      exact hstep p (hfrontier p hp) q hq
    rw [reach]
    split
    · exact hseen
    · refine ih hfresh fun q hq => ?_
      rcases List.mem_append.mp hq with hq | hq
      · exact hseen q hq
      · exact hfresh q hq

/-- The places after a repetition are all reached by steps, and by at least one if the repetition
asks for one. -/
theorem reads_of_mem_ends_rep {r : Regex} {ink : Bool} (hr : ∀ p, ∀ q ∈ ends r p, Reads ink p q)
    (min : Nat) (max : Option Nat) (p : Spot) :
    ∀ q ∈ ends (rep r min max) p, Reads (decide (0 < min) && ink) p q := by
  have hstep : ∀ q, Reads (decide (0 < min) && ink) p q → ∀ q' ∈ ends r q,
      Reads (decide (0 < min) && ink) p q' := by
    intro q hq q' hq'
    exact (hq.trans (hr q q' hq')).weaken fun h => by rw [h]; rfl
  have hfirst : ∀ q ∈ power (fun q => ends r q) min [p], Reads (decide (0 < min) && ink) p q := by
    cases min with
    | zero =>
      intro q hq
      rw [power, List.mem_singleton] at hq
      rw [hq]
      exact Reads.refl p
    | succ n =>
      rw [power, if_neg (by simp)]
      refine power_keeps hstep n fun q hq => ?_
      obtain ⟨p', hp', hq⟩ := List.mem_flatMap.mp (mem_of_mem_distinct hq)
      rw [List.mem_singleton] at hp'
      rw [hp'] at hq
      exact (hr p q hq).weaken fun h => ((Bool.and_eq_true _ _).mp h).2
  cases max with
  | none =>
    rw [ends]
    exact reach_keeps hstep _ hfirst hfirst
  | some n =>
    rw [ends]
    exact reach_keeps hstep _ hfirst hfirst

/-- **What a match reads.**  One case for each form of an expression. -/
theorem reads_of_mem_ends (r : Regex) : ∀ p, ∀ q ∈ ends r p, Reads r.readsInk p q := by
  induction r with
  | empty =>
    intro p q hq
    rw [ends, List.mem_singleton] at hq
    rw [hq]
    exact Reads.refl p
  | chars set =>
    intro p q hq
    rw [ends] at hq
    split at hq
    · simp at hq
    · rename_i c t hrest
      split at hq
      · rename_i hc
        rw [List.mem_singleton] at hq
        refine ⟨[c], by rw [hrest, hq]; rfl, fun hink => ?_⟩
        simp [Text.isBlank, CharSet.isWhite_of_isInk hink hc]
      · simp at hq
  | look condition =>
    intro p q hq
    rw [ends] at hq
    split at hq
    · rw [List.mem_singleton] at hq
      rw [hq]
      exact Reads.refl p
    · simp at hq
  | seq first second ihfirst ihsecond =>
    intro p q hq
    rw [ends] at hq
    obtain ⟨m, hm, hq⟩ := List.mem_flatMap.mp (mem_of_mem_distinct hq)
    exact (ihfirst p m hm).trans (ihsecond m q hq)
  | alt left right ihleft ihright =>
    intro p q hq
    rw [ends] at hq
    rcases List.mem_append.mp (mem_of_mem_distinct hq) with hq | hq
    · exact (ihleft p q hq).weaken fun h => ((Bool.and_eq_true _ _).mp h).1
    · exact (ihright p q hq).weaken fun h => ((Bool.and_eq_true _ _).mp h).2
  | rep r min max ih =>
    intro p q hq
    exact reads_of_mem_ends_rep ih min max p q hq

theorem rest_isSuffix_of_mem_onwards {i : Nat} {before : Option Char} {t : Text} {p : Spot}
    (h : p ∈ Spot.onwards i before t) : p.rest <:+ t := by
  induction t generalizing i before with
  | nil =>
    rw [Spot.onwards, List.mem_singleton] at h
    subst h
    exact List.suffix_rfl
  | cons c t ih =>
    rw [Spot.onwards] at h
    rcases List.mem_cons.mp h with rfl | h
    · exact List.suffix_rfl
    · exact (ih h).trans (List.suffix_cons c t)

/-- **A text in which such an expression matches is not blank.** -/
theorem isBlank_eq_false_of_isMatch {r : Regex} (hr : r.readsInk = true) {t : Text}
    (h : r.isMatch t = true) : t.isBlank = false := by
  rw [isMatch, List.any_eq_true] at h
  obtain ⟨p, hp, hends⟩ := h
  have hne : ends r p ≠ [] := by simpa using hends
  obtain ⟨q, qs, hq⟩ := List.exists_cons_of_ne_nil hne
  obtain ⟨stretch, hrest, hink⟩ := reads_of_mem_ends r p q (by rw [hq]; exact List.mem_cons_self)
  refine Text.isBlank_eq_false_of_isInfix (hink hr) ?_
  refine List.IsInfix.trans ?_ (rest_isSuffix_of_mem_onwards hp).isInfix
  rw [hrest]
  exact List.infix_append_left

end Regex

end LicenseHeader
