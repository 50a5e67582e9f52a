import LicenseHeader.Keyed
import Mathlib.Data.List.Basic

/-!
# The order of texts

Texts are ordered by their code points.  This is the order of lists that the library knows, so
`Text.compare` is a total order.

* `Text.compare_eq_compareLex`: the comparison goes code point by code point;
* `pairwise_mergeSort_of_transCmp`: a list that is sorted by the order of some keys ascends;
* `Keyed.sorted_ascending`: the entries of a keyed list, sorted, stand in this order.
-/

namespace LicenseHeader

namespace Text

/-- Texts are compared as lists of code points. -/
theorem compare_eq_compareLex (s t : Text) :
    compare s t = List.compareLex (compareOn Char.toNat) s t := by
  induction s generalizing t with
  | nil => cases t <;> rfl
  | cons a s ih =>
    cases t with
    | nil => rfl
    | cons b t =>
      rw [compare, List.compareLex_cons_cons, compareOn, Nat.compare_eq_ite_lt, ih]
      split
      · rfl
      · split <;> rfl

instance : Std.LawfulEqCmp (compareOn Char.toNat) where
  compare_self := Nat.compare_eq_eq.mpr rfl
  eq_of_compare h := Char.toNat_inj.mp (Nat.compare_eq_eq.mp h)

/-- The order of texts is total. -/
instance : Std.TransCmp compare := by
  rw [show compare = List.compareLex (compareOn Char.toNat) from
    funext fun s => funext fun t => compare_eq_compareLex s t]
  infer_instance

/-- Only a text itself is at the same place in the order. -/
instance : Std.LawfulEqCmp compare := by
  rw [show compare = List.compareLex (compareOn Char.toNat) from
    funext fun s => funext fun t => compare_eq_compareLex s t]
  infer_instance

end Text

/-- **A sorted list ascends.**  If a list is sorted by keys that have a total order, no key comes after
a greater one. -/
theorem pairwise_mergeSort_of_transCmp {α κ : Type} (cmp : κ → κ → Ordering) [Std.TransCmp cmp]
    (key : α → κ) (l : List α) :
    (l.mergeSort fun a b => cmp (key a) (key b) != .gt).Pairwise
      fun a b => cmp (key a) (key b) ≠ .gt := by
  have htrans : ∀ a b c : α, (cmp (key a) (key b) != .gt) = true →
      (cmp (key b) (key c) != .gt) = true → (cmp (key a) (key c) != .gt) = true := by
    intro a b c hab hbc
    have hle : (cmp (key a) (key c)).isLE = true := Std.TransCmp.isLE_trans
      (Ordering.ne_gt_iff_isLE.mp (bne_iff_ne.mp hab)) (Ordering.ne_gt_iff_isLE.mp (bne_iff_ne.mp hbc))
    exact bne_iff_ne.mpr (Ordering.ne_gt_iff_isLE.mpr hle)
  have htotal : ∀ a b : α,
      (cmp (key a) (key b) != .gt || cmp (key b) (key a) != .gt) = true := by
    intro a b
    have hswap : cmp (key b) (key a) = (cmp (key a) (key b)).swap := Std.OrientedCmp.eq_swap
    rw [hswap]
    cases cmp (key a) (key b) <;> rfl
  exact (List.pairwise_mergeSort htrans htotal l).imp fun h => bne_iff_ne.mp h

namespace Keyed

variable {α : Type} {entries : Keyed α}

theorem sorted_perm (entries : Keyed α) : entries.sorted.Perm entries :=
  List.mergeSort_perm entries _

theorem mem_sorted_iff {e : Text × α} : e ∈ entries.sorted ↔ e ∈ entries :=
  (sorted_perm entries).mem_iff

/-- Sorted entries ascend: no key comes after a greater one. -/
theorem sorted_ascending (entries : Keyed α) :
    entries.sorted.Pairwise fun a b => Text.compare a.1 b.1 ≠ .gt :=
  pairwise_mergeSort_of_transCmp Text.compare Prod.fst entries

end Keyed

end LicenseHeader
