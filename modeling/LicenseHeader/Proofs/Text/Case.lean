import LicenseHeader.Text.Case
import Mathlib.Data.List.Basic

/-!
# Lower case is reached in one step

Names are compared in lower case, and some are brought to lower case twice on their way.  That this
changes nothing rests on the table: no image of a run lies in a run.

* `CaseRun.misses` compares two runs by their ends and, where these do not tell, by parity;
* `lowerChar_of_mem`: what a character becomes stays as it is;
* `Text.lower_lower`: so does a text, since no capital sigma is left whose form depends on its place.
-/

namespace LicenseHeader

namespace CaseRun

/-- Whether no image of a run lies in another one.  The images come before it or after it, or are the
odd code points among even ones. -/
def misses (r q : CaseRun) : Bool :=
  decide (r.target + (r.last - r.first) < q.first) || decide (q.last < r.target) ||
    (q.step == 2 && (r.step == 2 || r.first == r.last) && (r.target + q.first) % 2 == 1)

theorem image?_eq_some_iff {r : CaseRun} {n m : Nat} :
    r.image? n = some m ↔
      (r.first ≤ n ∧ n ≤ r.last ∧ (n - r.first) % r.step = 0) ∧ r.target + (n - r.first) = m := by
  rw [image?]
  split
  next h => rw [Option.some_inj, and_iff_right h]
  next h => exact iff_of_false (by simp) fun hand => h hand.1

theorem image?_eq_none_of_misses {r q : CaseRun} (hmisses : r.misses q = true) {n m : Nat}
    (himage : r.image? n = some m) : q.image? m = none := by
  obtain ⟨⟨hfirst, hlast, hstep⟩, rfl⟩ := image?_eq_some_iff.mp himage
  rw [image?, if_neg]
  rintro ⟨hqfirst, hqlast, hqstep⟩
  simp only [misses, Bool.or_eq_true, Bool.and_eq_true, decide_eq_true_eq, beq_iff_eq] at hmisses
  rcases hmisses with (hbefore | hafter) | ⟨⟨hqtwo, hone⟩, hparity⟩
  · omega
  · omega
  · rw [hqtwo] at hqstep
    rcases hone with htwo | hsingle
    · rw [htwo] at hstep
      omega
    · omega

end CaseRun

/-- No image of a run of the table lies in a run, and none is the capital I with a dot. -/
theorem lowerRuns_misses {r : CaseRun} (hr : r ∈ lowerRuns) :
    (∀ q ∈ lowerRuns, r.misses q = true) ∧ r.misses ⟨0x130, 0x130, 1, 0x69⟩ = true := by
  have hall : (lowerRuns.all fun r =>
      lowerRuns.all r.misses && r.misses ⟨0x130, 0x130, 1, 0x69⟩) = true := by decide +kernel
  have hone := List.all_eq_true.mp hall r hr
  rw [Bool.and_eq_true, List.all_eq_true] at hone
  exact hone

/-- The images of the table are code points. -/
theorem isValidChar_of_image? {r : CaseRun} (hr : r ∈ lowerRuns) {n m : Nat}
    (himage : r.image? n = some m) : m.isValidChar := by
  have hall : (lowerRuns.all fun r => decide (r.target + (r.last - r.first) < 0xD800) ||
      decide (0xDFFF < r.target ∧ r.target + (r.last - r.first) < 0x110000)) = true := by
    decide +kernel
  have hone := List.all_eq_true.mp hall r hr
  simp only [Bool.or_eq_true, decide_eq_true_eq] at hone
  obtain ⟨⟨hfirst, hlast, -⟩, rfl⟩ := CaseRun.image?_eq_some_iff.mp himage
  rcases hone with hlow | ⟨habove, hhigh⟩
  · exact Or.inl (by omega)
  · exact Or.inr ⟨by omega, by omega⟩

theorem toNat_ofNat {m : Nat} (h : m.isValidChar) : (Char.ofNat m).toNat = m := by
  rw [Char.ofNat, dif_pos h]
  rfl

theorem lowerChar_of_all {ds : List Char} (hall : (ds.all fun d => lowerChar d == [d]) = true)
    {d : Char} (hd : d ∈ ds) : lowerChar d = [d] :=
  eq_of_beq (List.all_eq_true.mp hall d hd)

/-- A character of ASCII becomes one that stays as it is. -/
theorem lowerChar_ascii : ∀ n < 0x80,
    ((lowerChar (Char.ofNat n)).all fun d => lowerChar d == [d]) = true := by
  decide +kernel

/-- What the table gives stays as it is. -/
theorem lowerChar_of_image? {r : CaseRun} (hr : r ∈ lowerRuns) {n m : Nat}
    (himage : r.image? n = some m) : lowerChar (Char.ofNat m) = [Char.ofNat m] := by
  obtain ⟨hmisses, hdotted⟩ := lowerRuns_misses hr
  have hnat : (Char.ofNat m).toNat = m := toNat_ofNat (isValidChar_of_image? hr himage)
  rw [lowerChar, hnat]
  split
  next hascii =>
    have hcapital := CaseRun.image?_eq_none_of_misses
      (hmisses ⟨0x41, 0x5A, 1, 0x61⟩ List.mem_cons_self) himage
    rw [if_neg]
    rintro ⟨hA, hZ⟩
    have hfrom : 0x41 ≤ m := hnat ▸ hA
    have hto : m ≤ 0x5A := hnat ▸ hZ
    simp [CaseRun.image?, hfrom, hto, Nat.mod_one] at hcapital
  next hascii =>
    have hne : Char.ofNat m ≠ 'İ' := by
      intro heq
      have hm : m = 0x130 := by
        rw [← hnat, heq]
        rfl
      have hnone := CaseRun.image?_eq_none_of_misses hdotted himage
      rw [hm] at hnone
      exact absurd hnone (by decide)
    have hnone : (lowerRuns.findSome? fun r => r.image? m) = none :=
      List.findSome?_eq_none_iff.mpr fun q hq =>
        CaseRun.image?_eq_none_of_misses (hmisses q hq) himage
    rw [if_neg hne, mapByRuns, hnat, hnone]

/-- **What a character becomes in lower case stays as it is.** -/
theorem lowerChar_of_mem {c d : Char} (hd : d ∈ lowerChar c) : lowerChar d = [d] := by
  by_cases hascii : c.toNat < 0x80
  · exact lowerChar_of_all (lowerChar_ascii c.toNat hascii) (by rwa [Char.ofNat_toNat])
  · by_cases hdotted : c = 'İ'
    · rw [hdotted] at hd
      exact lowerChar_of_all (by decide) hd
    · have hchar : lowerChar c = [mapByRuns lowerRuns c] := by
        rw [lowerChar, if_neg hascii, if_neg hdotted]
      rw [hchar, List.mem_singleton] at hd
      cases himage : lowerRuns.findSome? fun r => r.image? c.toNat with
      | none =>
        have hsame : d = c := by rw [hd, mapByRuns, himage]
        rw [hsame, hchar, mapByRuns, himage]
      | some m =>
        obtain ⟨r, hr, hm⟩ := List.exists_of_findSome?_eq_some himage
        rw [hd, mapByRuns, himage]
        exact lowerChar_of_image? hr hm

namespace Text

/-- Every character of a text in lower case stays as it is; a sigma is written in one of its two
small forms. -/
theorem lowerChar_of_mem_lowerAfter {before t : Text} {d : Char} (hd : d ∈ lowerAfter before t) :
    lowerChar d = [d] := by
  induction t generalizing before with
  | nil => exact absurd hd List.not_mem_nil
  | cons c t ih =>
    rw [lowerAfter, List.mem_append] at hd
    rcases hd with hd | hd
    · split at hd
      · split at hd
        · rw [List.mem_singleton.mp hd]
          decide +kernel
        · rw [List.mem_singleton.mp hd]
          decide +kernel
      · exact lowerChar_of_mem hd
    · exact ih hd

/-- A text of characters that stay as they are stays as it is. -/
theorem lowerAfter_eq_self {before t : Text} (h : ∀ c ∈ t, lowerChar c = [c]) :
    lowerAfter before t = t := by
  induction t generalizing before with
  | nil => rfl
  | cons c t ih =>
    have hc := h c List.mem_cons_self
    have hsigma : c ≠ 'Σ' := by
      rintro rfl
      exact absurd hc (by decide +kernel)
    rw [lowerAfter, if_neg hsigma, hc, ih fun d hd => h d (List.mem_cons_of_mem _ hd)]
    rfl

/-- **Lower case is reached in one step.** -/
@[simp]
theorem lower_lower (t : Text) : t.lower.lower = t.lower :=
  lowerAfter_eq_self fun _ hd => lowerChar_of_mem_lowerAfter hd

end Text

end LicenseHeader
