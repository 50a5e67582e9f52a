import LicenseHeader.Proofs.Glob.Matching
import LicenseHeader.Proofs.Selection.Pruning

/-!
# Directories below which a pattern matches

Whether a pattern may match below a directory is decided by the wildcards before its first `**` alone,
as far as the directory goes.  This looks like a guess, but it is exact: what is left of the pattern can
itself be read as a path, and the pattern matches that.

* `wildcardMatches_self`: a wildcard matches the name that is written like it;
* `runsIn_flatten` and `stripRun_of_agrees`: the rest of a pattern, read as a path;
* `PathPattern.exists_accepts_below`: a path below the directory that is matched, for every pattern that
  agrees with the directory;
* `PathPattern.mayMatchBelow_iff` is the result.
-/

namespace LicenseHeader.Glob

/-! ### Patterns read as names -/

/-- A wildcard matches the name that is written like it: its stars may stand for stars. -/
theorem wildcardMatches_self (caseSensitive : Bool) (glob : Text) :
    wildcardMatches caseSensitive glob glob = true := by
  rw [wildcardMatches_iff]
  induction glob with
  | nil => exact .nil
  | cons c glob ih =>
    by_cases hstar : c = '*'
    · subst hstar
      exact .gap ['*'] ih
    · exact .item hstar (Or.inr (Or.inl rfl)) ih

theorem isRun_self {α : Type} {ok : α → α → Bool} (hself : ∀ x, ok x x = true) (run : List α) :
    IsRun ok run run :=
  List.forall₂_same.mpr fun x _ => hself x

/-- Runs occur one after the other in the list that they make up. -/
theorem runsIn_flatten {α : Type} {ok : α → α → Bool} (hself : ∀ x, ok x x = true)
    (runs : List (List α)) : RunsIn ok runs runs.flatten := by
  induction runs with
  | nil => exact .nil
  | cons run runs ih => exact .cons [] (isRun_self hself run) ih

/-- Runs that occur in a list are found behind any other items. -/
theorem exists_afterRuns_append {α β : Type} {ok : α → β → Bool} {runs : List (List α)}
    {front : List β} (h : RunsIn ok runs front) (before rest : List β) :
    ∃ left, afterRuns ok runs (before ++ (front ++ rest)) = some left ∧ rest <:+ left := by
  cases h with
  | nil => exact ⟨before ++ rest, rfl, List.suffix_append before rest⟩
  | @cons run runs part behind skipped hpart hbehind =>
    have hfront : RunsIn ok (run :: runs) (before ++ skipped ++ (part ++ behind)) :=
      .cons (before ++ skipped) hpart hbehind
    obtain ⟨left, hleft, hrest⟩ := exists_afterRuns hfront rest
    refine ⟨left, ?_, hrest⟩
    rw [← hleft]
    simp

namespace PathPattern

variable {caseSensitive : Bool} {lead : List Text} {runs : List (List Text)}

/-- Wildcards that agree with some segments match them as far as they go, and then their own rest. -/
theorem stripRun_of_agrees {segments : List Text} (h : agrees caseSensitive lead segments = true)
    (more : List Text) :
    stripRun (wildcardMatches caseSensitive) lead
        (segments ++ (lead.drop segments.length ++ more))
      = some (segments.drop lead.length ++ more) := by
  induction lead generalizing segments with
  | nil => simp [stripRun]
  | cons glob lead ih =>
    cases segments with
    | nil =>
      have hrun : IsRun (wildcardMatches caseSensitive) (glob :: lead) (glob :: lead) :=
        isRun_self (wildcardMatches_self caseSensitive) _
      exact stripRun_eq_some_iff.mpr ⟨glob :: lead, rfl, hrun⟩
    | cons segment segments =>
      rw [agrees, Bool.and_eq_true] at h
      rw [List.cons_append, stripRun, if_pos h.1]
      exact ih h.2

/-! ### The segments of a pattern -/

theorem isNamed_pathSegments (path : Text) : Selection.IsNamed (pathSegments path) := by
  intro segment hsegment
  rw [pathSegments, List.mem_filter] at hsegment
  exact ⟨by simpa using hsegment.2, not_mem_of_mem_splitAt hsegment.1⟩

/-- The segments of a pattern can be names of files. -/
theorem isNamed_globs (body : Text) : Selection.IsNamed (globs body) := by
  unfold globs
  split
  · exact isNamed_pathSegments body
  · intro segment hsegment
    rcases List.mem_cons.mp hsegment with rfl | hsegment
    · decide
    · exact isNamed_pathSegments body segment hsegment

/-- What is left of a pattern after some of its first wildcards can be a path, and so it can with one more
name. -/
theorem isNamed_rest {body : Text} (hcut : splitAt ['*', '*'] (globs body) = lead :: runs) (n : Nat) :
    Selection.IsNamed (lead.drop n ++ (runs.flatten ++ [['*', '*']])) := by
  have hpart : ∀ part ∈ lead :: runs, Selection.IsNamed part := by
    intro part hpart segment hsegment
    rw [← hcut] at hpart
    exact isNamed_globs body segment (mem_of_mem_splitAt hpart hsegment)
  intro segment hsegment
  rw [List.mem_append, List.mem_append, List.mem_singleton] at hsegment
  rcases hsegment with hsegment | hsegment | rfl
  · exact hpart lead List.mem_cons_self segment (List.mem_of_mem_drop hsegment)
  · obtain ⟨run, hrun, hsegment⟩ := List.mem_flatten.mp hsegment
    exact hpart run (List.mem_cons_of_mem lead hrun) segment hsegment
  · decide

theorem mayMatchBelow_compile {pattern : Text}
    (hcut : splitAt ['*', '*'] (globs (body pattern)) = lead :: runs) (directory : Text) :
    (compile caseSensitive pattern).mayMatchBelow directory
      = agrees caseSensitive lead (pathSegments directory) := by
  obtain ⟨reversed, hcompile⟩ := exists_compile_eq caseSensitive pattern
  rw [hcompile, mayMatchBelow, steps_eq, splitAt_concat, hcut]
  rfl

/-- **Below a directory that agrees with a pattern something is matched.**  The path goes on with what is
left of the pattern, and then with one more name, so that a pattern for directories matches it too. -/
theorem exists_accepts_below {pattern directory : Text}
    (h : (compile caseSensitive pattern).mayMatchBelow directory = true) :
    ∃ more, more ≠ [] ∧ Selection.IsNamed more ∧
      (compile caseSensitive pattern).accepts (Selection.pathOf directory more) false = true := by
  obtain ⟨lead, runs, hcut⟩ :=
    List.exists_cons_of_ne_nil (splitAt_ne_nil ['*', '*'] (globs (body pattern)))
  rw [mayMatchBelow_compile hcut] at h
  have hnamed := isNamed_rest hcut (pathSegments directory).length
  have hruns := runsIn_flatten (wildcardMatches_self caseSensitive) runs
  obtain ⟨left, hleft, hlast⟩ :=
    exists_afterRuns_append hruns ((pathSegments directory).drop lead.length) [['*', '*']]
  have hne : left ≠ [] := by
    rintro rfl
    simp at hlast
  refine ⟨_, by simp, hnamed, ?_⟩
  rw [compile_accepts_eq_true_iff hcut, Selection.pathSegments_pathOf hnamed]
  exact ⟨_, left, stripRun_of_agrees h _, hleft, Or.inl hne⟩

/-- **Whether a pattern may match below a directory is decided exactly.**  The answer is yes if and only
if there is a path of a file strictly below the directory that the pattern matches; so after a no
nothing below is ever matched, be it a file or a directory. -/
theorem mayMatchBelow_iff (caseSensitive : Bool) (pattern directory : Text) :
    ((compile caseSensitive pattern).mayMatchBelow directory = true ↔
      ∃ path more, pathSegments path = pathSegments directory ++ more ∧ more ≠ [] ∧
        (∀ segment ∈ more, segment ≠ []) ∧
        (compile caseSensitive pattern).accepts path false = true) ∧
    ((compile caseSensitive pattern).mayMatchBelow directory = false →
      ∀ path more, pathSegments path = pathSegments directory ++ more →
        ∀ isDirectory, (compile caseSensitive pattern).accepts path isDirectory = false) := by
  have hmay : ∀ path more, pathSegments path = pathSegments directory ++ more →
      ∀ isDirectory, (compile caseSensitive pattern).accepts path isDirectory = true →
      (compile caseSensitive pattern).mayMatchBelow directory = true := by
    intro path more hpath isDirectory haccepts
    rw [accepts, hpath] at haccepts
    exact mayMatchBelow_of_accepts haccepts
  constructor
  · constructor
    · intro h
      obtain ⟨more, hne, hnamed, haccepts⟩ := exists_accepts_below h
      exact ⟨_, more, Selection.pathSegments_pathOf hnamed directory, hne,
        fun segment hsegment => (hnamed segment hsegment).1, haccepts⟩
    · rintro ⟨path, more, hpath, -, -, haccepts⟩
      exact hmay path more hpath false haccepts
  · intro hno path more hpath isDirectory
    rw [Bool.eq_false_iff]
    intro haccepts
    rw [hmay path more hpath isDirectory haccepts] at hno
    cases hno

example : (compile true "/src/*.c/lib/**/x?/".toList).mayMatchBelow "src/a.c".toList = true ∧
    (compile true "/src/*.c/lib/**/x?/".toList).accepts "src/a.c/lib/x?/**".toList false = true ∧
    (compile true "/src/*.c/lib/**/x?/".toList).mayMatchBelow "src/a.h".toList = false := by decide

end PathPattern

end LicenseHeader.Glob
