import LicenseHeader.Glob.PathPattern
import LicenseHeader.Proofs.Text.Basic

/-!
# Patterns and what is below a directory

A path pattern matches everything below what it matches, and it is never wrong about a directory
below which it matches nothing.  Both are needed to leave directories out unseen.

* `stripRun_append`, `afterRun_append` and `afterRuns_append`: runs match at the same places when the
  list goes on;
* `PathPattern.acceptsSegments_append`: what is below a matched directory is matched;
* `PathPattern.mayMatchBelow_of_accepts`: below a directory only patterns match that may.
-/

namespace LicenseHeader.Glob

/-! ### Runs in a longer list -/

section Runs

variable {α β : Type} {ok : α → β → Bool} {run : List α} {ys rest : List β}

theorem stripRun_append (h : stripRun ok run ys = some rest) (zs : List β) :
    stripRun ok run (ys ++ zs) = some (rest ++ zs) := by
  induction run generalizing ys with
  | nil =>
    rw [stripRun, Option.some.injEq] at h
    rw [stripRun, h]
  | cons x run ih =>
    cases ys with
    | nil => simp [stripRun] at h
    | cons y ys =>
      rw [stripRun] at h
      rw [List.cons_append, stripRun]
      split at h
      · rename_i hok
        rw [if_pos hok]
        exact ih h
      · cases h

/-- A run that fits into a list is not matched because the list goes on. -/
theorem stripRun_append_eq_none (h : stripRun ok run ys = none) (hle : run.length ≤ ys.length)
    (zs : List β) : stripRun ok run (ys ++ zs) = none := by
  induction run generalizing ys with
  | nil => simp [stripRun] at h
  | cons x run ih =>
    cases ys with
    | nil => simp at hle
    | cons y ys =>
      rw [stripRun] at h
      rw [List.cons_append, stripRun]
      split at h
      · rename_i hok
        rw [if_pos hok]
        exact ih h (by simpa using hle)
      · rename_i hok
        rw [if_neg hok]

theorem length_le_of_stripRun (h : stripRun ok run ys = some rest) : run.length ≤ ys.length := by
  induction run generalizing ys with
  | nil => exact Nat.zero_le _
  | cons x run ih =>
    cases ys with
    | nil => simp [stripRun] at h
    | cons y ys =>
      rw [stripRun] at h
      split at h
      · have := ih h
        simp only [List.length_cons]
        omega
      · cases h

theorem length_le_of_afterRun (h : afterRun ok run ys = some rest) : run.length ≤ ys.length := by
  induction ys with
  | nil => exact length_le_of_stripRun h
  | cons y ys ih =>
    rw [afterRun] at h
    split at h
    · rename_i hstrip
      exact length_le_of_stripRun hstrip
    · have := ih h
      simp only [List.length_cons]
      omega

/-- The leftmost place of a run stays the leftmost: a place before it would already have been found,
since the run fits there too. -/
theorem afterRun_append (h : afterRun ok run ys = some rest) (zs : List β) :
    afterRun ok run (ys ++ zs) = some (rest ++ zs) := by
  induction ys with
  | nil =>
    have hstrip := stripRun_append h zs
    rw [List.nil_append] at hstrip ⊢
    cases zs with
    | nil => exact hstrip
    | cons z zs => rw [afterRun, hstrip]
  | cons y ys ih =>
    rw [afterRun] at h
    rw [List.cons_append, afterRun]
    split at h
    · rename_i hstrip
      have hmore := stripRun_append hstrip zs
      rw [List.cons_append] at hmore
      rw [hmore, ← Option.some.inj h]
    · rename_i hnone
      have hfits := length_le_of_afterRun h
      have hmore := stripRun_append_eq_none hnone (by simp only [List.length_cons]; omega) zs
      rw [List.cons_append] at hmore
      rw [hmore]
      exact ih h

theorem afterRuns_append {runs : List (List α)} (h : afterRuns ok runs ys = some rest)
    (zs : List β) : afterRuns ok runs (ys ++ zs) = some (rest ++ zs) := by
  induction runs generalizing ys with
  | nil =>
    rw [afterRuns, Option.some.injEq] at h
    rw [afterRuns, h]
  | cons run runs ih =>
    rw [afterRuns] at h ⊢
    split at h
    · rename_i hrun
      rw [afterRun_append hrun]
      exact ih h
    · cases h

end Runs

/-! ### The segments of a path -/

theorem pathSegments_append (front back : Text) :
    pathSegments (front ++ '/' :: back) = pathSegments front ++ pathSegments back := by
  rw [pathSegments, splitAt_append_cons, List.filter_append]
  rfl

theorem pathSegments_name {name : Text} (hname : name ≠ []) (hslash : '/' ∉ name) :
    pathSegments name = [name] := by
  have hparts : splitAt '/' name = [name] := by
    clear hname
    induction name with
    | nil => rfl
    | cons c name ih =>
      rw [List.mem_cons, not_or] at hslash
      rw [splitAt, if_neg (Ne.symm hslash.1), ih hslash.2]
  rw [pathSegments, hparts]
  simp [hname]

/-! ### Patterns -/

namespace PathPattern

variable {p : PathPattern} {segments more : List Text}

/-- **A pattern matches everything below what it matches**, a pattern for directories too. -/
theorem acceptsSegments_append (h : p.acceptsSegments segments true = true) (hmore : more ≠ [])
    (isDirectory : Bool) : p.acceptsSegments (segments ++ more) isDirectory = true := by
  unfold acceptsSegments at h ⊢
  split at h
  · cases h
  · rename_i rest hlead
    split at h
    · cases h
    · rename_i below hruns
      rw [stripRun_append hlead]
      dsimp only
      rw [afterRuns_append hruns]
      simp [hmore]

/-- The wildcards of a run agree with every front of what they match. -/
theorem agrees_of_stripRun {caseSensitive : Bool} {lead rest : List Text}
    (h : stripRun (wildcardMatches caseSensitive) lead (segments ++ more) = some rest) :
    agrees caseSensitive lead segments = true := by
  induction lead generalizing segments with
  | nil =>
    cases segments <;> rfl
  | cons glob lead ih =>
    cases segments with
    | nil => rfl
    | cons segment segments =>
      rw [List.cons_append, stripRun] at h
      split at h
      · rename_i hok
        rw [agrees, hok, ih h]
        rfl
      · cases h

/-- **A pattern that matches a path may match below every directory on the way.** -/
theorem mayMatchBelow_of_accepts {directory : Text} {isDirectory : Bool}
    (h : p.acceptsSegments (pathSegments directory ++ more) isDirectory = true) :
    p.mayMatchBelow directory = true := by
  unfold acceptsSegments at h
  split at h
  · cases h
  · rename_i rest hlead
    exact agrees_of_stripRun hlead

end PathPattern

end LicenseHeader.Glob
