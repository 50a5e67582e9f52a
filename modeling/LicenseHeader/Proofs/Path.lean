import LicenseHeader.Path
import LicenseHeader.Proofs.Text.Order

/-!
# The order of paths

Paths are ordered part by part: first by the kinds of the parts, and names by their characters.

* `PathPart.compare_eq_compareLex` and `Path.compareParts_eq_compareLex`: both comparisons are
  lexicographic, so that the library knows them to be total orders;
* `Path.compare_eq_iff_same`: two paths are at the same place in the order exactly if they have the
  same parts, however they are written.
-/

namespace LicenseHeader

namespace PathPart

/-- The characters of a name, and none for any other part. -/
def characters : PathPart → Text
  | name t => t
  | _ => []

/-- Parts are compared by their kinds, and names by their characters. -/
theorem compare_eq_compareLex (a b : PathPart) :
    compare a b = compareLex (compareOn rank)
      (fun a b => Text.compare a.characters b.characters) a b := by
  cases a <;> cases b <;> rfl

instance : Std.TransCmp fun a b : PathPart => Text.compare a.characters b.characters where
  eq_swap {a b} := @Std.OrientedCmp.eq_swap _ Text.compare _ a.characters b.characters
  isLE_trans {a b c} :=
    @Std.TransCmp.isLE_trans _ Text.compare _ a.characters b.characters c.characters

/-- The order of parts is total. -/
instance : Std.TransCmp compare := by
  rw [show compare = compareLex (compareOn rank)
      (fun a b => Text.compare a.characters b.characters) from
    funext fun a => funext fun b => compare_eq_compareLex a b]
  infer_instance

/-- Only a part itself is at the same place in the order. -/
instance : Std.LawfulEqCmp compare where
  compare_self := Std.ReflCmp.compare_self
  eq_of_compare {a b} h := by
    obtain ⟨hrank, hname⟩ : Ord.compare a.rank b.rank = .eq ∧
        Text.compare a.characters b.characters = .eq := by
      rw [compare_eq_compareLex] at h
      exact Ordering.then_eq_eq.mp h
    have hcharacters := Std.LawfulEqCmp.eq_of_compare hname
    cases a <;> cases b <;> simp_all [rank, characters]

end PathPart

namespace Path

/-- Lists of parts are compared part by part. -/
theorem compareParts_eq_compareLex (as bs : List PathPart) :
    compareParts as bs = List.compareLex PathPart.compare as bs := by
  induction as generalizing bs with
  | nil => cases bs <;> rfl
  | cons a as ih =>
    cases bs with
    | nil => rfl
    | cons b bs =>
      rw [compareParts, List.compareLex_cons_cons, ih]

/-- The order of paths is total. -/
instance : Std.TransCmp compare where
  eq_swap {p q} := by
    rw [compare, compare, compareParts_eq_compareLex, compareParts_eq_compareLex]
    exact Std.OrientedCmp.eq_swap
  isLE_trans {p q r} := by
    simp only [compare, compareParts_eq_compareLex]
    exact Std.TransCmp.isLE_trans

theorem same_iff {p q : Path} : p.same q = true ↔ p.parts = q.parts := beq_iff_eq

theorem same_comm (p q : Path) : p.same q = q.same p := by
  rw [Bool.eq_iff_iff, same_iff, same_iff, eq_comm]

theorem compare_eq_iff_same {p q : Path} : compare p q = .eq ↔ p.same q = true := by
  rw [same_iff, compare, compareParts_eq_compareLex]
  exact Std.LawfulEqCmp.compare_eq_iff_eq

end Path

end LicenseHeader
