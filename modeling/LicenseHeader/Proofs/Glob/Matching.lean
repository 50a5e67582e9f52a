import LicenseHeader.Glob.PathPattern
import LicenseHeader.Proofs.Text.Basic
import Mathlib.Data.List.Forall2

/-!
# What patterns match

Wildcards and path patterns are searched for from the left, each part at its first place.  What they
are meant to match is said here without any search: a gap stands for any number of items, every other
item of a pattern for one item.

* `Spans`: the meaning of a pattern with gaps, over abstract items.  `NameMatches` is the meaning of
  wildcards and `SegmentsMatch` that of the segments of path patterns;
* `RunsIn` and `spans_iff`: a pattern cut at its gaps;
* `exists_afterRuns`: the search from the left finds a match if there is one, and leaves as much of
  the list as any match does;
* `wildcardMatches_iff`: the search for wildcards is right;
* `PathPattern.compile_accepts_iff`: so is that for path patterns, those for directories included.
-/

namespace LicenseHeader.Glob

/-! ### The meaning of patterns -/

/-- What a pattern stands for.  A `gap` stands for any number of items, also for none, and every other
item of the pattern for one item that is `ok` with it. -/
inductive Spans {α β : Type} (gap : α) (ok : α → β → Prop) : List α → List β → Prop where
  | nil : Spans gap ok [] []
  | gap {xs : List α} {ys : List β} (skipped : List β) :
      Spans gap ok xs ys → Spans gap ok (gap :: xs) (skipped ++ ys)
  | item {x : α} {y : β} {xs : List α} {ys : List β} :
      x ≠ gap → ok x y → Spans gap ok xs ys → Spans gap ok (x :: xs) (y :: ys)

/-- The character `c` that a character of a wildcard stands for. -/
def CharMatches (caseSensitive : Bool) (p c : Char) : Prop :=
  p = '?' ∨ p = c ∨ (caseSensitive = false ∧ lowerChar p = lowerChar c)

/-- The names that a wildcard stands for: a star is a gap. -/
def NameMatches (caseSensitive : Bool) : Text → Text → Prop :=
  Spans '*' (CharMatches caseSensitive)

/-- The segments that the segments of a path pattern stand for: two stars are a gap. -/
def SegmentsMatch (caseSensitive : Bool) : List Text → List Text → Prop :=
  Spans ['*', '*'] (NameMatches caseSensitive)

/-! ### Patterns that are cut at their gaps -/

section Runs

variable {α β : Type} {ok : α → β → Bool}

/-- The items of a list that match a run. -/
def IsRun (ok : α → β → Bool) (run : List α) (part : List β) : Prop :=
  List.Forall₂ (fun x y => ok x y = true) run part

/-- A list that ends with the last of some runs, which occur in it one after the other. -/
inductive RunsIn (ok : α → β → Bool) : List (List α) → List β → Prop where
  | nil : RunsIn ok [] []
  | cons {run : List α} {runs : List (List α)} {part rest : List β} (skipped : List β) :
      IsRun ok run part → RunsIn ok runs rest → RunsIn ok (run :: runs) (skipped ++ (part ++ rest))

theorem runsIn_nil_iff {ys : List β} : RunsIn ok [] ys ↔ ys = [] := by
  constructor
  · intro h
    cases h
    rfl
  · rintro rfl
    exact .nil

theorem runsIn_cons_iff {run : List α} {runs : List (List α)} {ys : List β} :
    RunsIn ok (run :: runs) ys ↔
      ∃ skipped part rest, ys = skipped ++ (part ++ rest) ∧ IsRun ok run part ∧ RunsIn ok runs rest := by
  constructor
  · intro h
    cases h with
    | cons skipped hpart hrest => exact ⟨skipped, _, _, rfl, hpart, hrest⟩
  · rintro ⟨skipped, part, rest, rfl, hpart, hrest⟩
    exact .cons skipped hpart hrest

/-- The last run stands at the end. -/
theorem runsIn_concat_iff {runs : List (List α)} {last : List α} {ys : List β} :
    RunsIn ok (runs ++ [last]) ys ↔
      ∃ front skipped part, ys = front ++ (skipped ++ part) ∧ RunsIn ok runs front
        ∧ IsRun ok last part := by
  induction runs generalizing ys with
  | nil =>
    rw [List.nil_append, runsIn_cons_iff]
    constructor
    · rintro ⟨skipped, part, rest, rfl, hpart, hrest⟩
      rw [runsIn_nil_iff] at hrest
      subst hrest
      exact ⟨[], skipped, part, by simp, .nil, hpart⟩
    · rintro ⟨front, skipped, part, rfl, hfront, hpart⟩
      rw [runsIn_nil_iff] at hfront
      subst hfront
      exact ⟨skipped, part, [], by simp, hpart, .nil⟩
  | cons run runs ih =>
    rw [List.cons_append, runsIn_cons_iff]
    constructor
    · rintro ⟨skipped, part, rest, rfl, hpart, hrest⟩
      obtain ⟨front, gap, final, rfl, hfront, hfinal⟩ := ih.mp hrest
      exact ⟨skipped ++ (part ++ front), gap, final, by simp, .cons skipped hpart hfront, hfinal⟩
    · rintro ⟨front, gap, final, rfl, hfront, hfinal⟩
      obtain ⟨skipped, part, rest, rfl, hpart, hrest⟩ := runsIn_cons_iff.mp hfront
      exact ⟨skipped, part, rest ++ (gap ++ final), by simp, hpart,
        ih.mpr ⟨rest, gap, final, rfl, hrest, hfinal⟩⟩

/-- **A pattern cut at its gaps.**  The part before the first gap is in front, and the others follow
one after the other, up to the end. -/
theorem spans_iff [DecidableEq α] {gap : α} {xs lead : List α} {runs : List (List α)}
    (hcut : splitAt gap xs = lead :: runs) {ys : List β} :
    Spans gap (fun x y => ok x y = true) xs ys ↔
      ∃ part rest, ys = part ++ rest ∧ IsRun ok lead part ∧ RunsIn ok runs rest := by
  induction xs generalizing lead runs ys with
  | nil =>
    obtain ⟨rfl, rfl⟩ := List.cons.inj hcut
    constructor
    · intro h
      cases h
      exact ⟨[], [], rfl, .nil, .nil⟩
    · rintro ⟨part, rest, rfl, hpart, hrest⟩
      rw [runsIn_nil_iff] at hrest
      cases hpart
      subst hrest
      exact .nil
  | cons x xs ih =>
    obtain ⟨front, more, hrest⟩ := List.exists_cons_of_ne_nil (splitAt_ne_nil gap xs)
    rw [splitAt] at hcut
    by_cases hx : x = gap
    · subst hx
      rw [if_pos rfl, hrest] at hcut
      obtain ⟨rfl, rfl⟩ := List.cons.inj hcut
      constructor
      · intro h
        cases h with
        | gap skipped h =>
          obtain ⟨part, rest, rfl, hpart, hruns⟩ := (ih hrest).mp h
          exact ⟨[], _, rfl, .nil, .cons skipped hpart hruns⟩
        | item hne => exact absurd rfl hne
      · rintro ⟨part, rest, rfl, hpart, hruns⟩
        cases hpart
        obtain ⟨skipped, part, rest, rfl, hpart, hruns⟩ := runsIn_cons_iff.mp hruns
        exact .gap skipped ((ih hrest).mpr ⟨part, rest, rfl, hpart, hruns⟩)
    · rw [if_neg hx, hrest] at hcut
      obtain ⟨rfl, rfl⟩ := List.cons.inj hcut
      constructor
      · intro h
        cases h with
        | gap => exact absurd rfl hx
        | item _ hok h =>
          obtain ⟨part, rest, rfl, hpart, hruns⟩ := (ih hrest).mp h
          exact ⟨_ :: part, rest, rfl, .cons hok hpart, hruns⟩
      · rintro ⟨part, rest, rfl, hpart, hruns⟩
        cases hpart with
        | cons hok hpart => exact .item hx hok ((ih hrest).mpr ⟨_, rest, rfl, hpart, hruns⟩)

/-! ### The search from the left -/

theorem stripRun_eq_some_iff {run : List α} {ys rest : List β} :
    stripRun ok run ys = some rest ↔ ∃ part, ys = part ++ rest ∧ IsRun ok run part := by
  induction run generalizing ys with
  | nil =>
    rw [stripRun, Option.some.injEq]
    constructor
    · rintro rfl
      exact ⟨[], rfl, .nil⟩
    · rintro ⟨part, rfl, hpart⟩
      cases hpart
      rfl
  | cons x run ih =>
    constructor
    · intro h
      cases ys with
      | nil => simp [stripRun] at h
      | cons y ys =>
        rw [stripRun] at h
        split at h
        · rename_i hok
          obtain ⟨part, rfl, hpart⟩ := ih.mp h
          exact ⟨y :: part, rfl, .cons hok hpart⟩
        · cases h
    · rintro ⟨part, rfl, hpart⟩
      cases hpart with
      | cons hok hpart =>
        rw [List.cons_append, stripRun, if_pos hok]
        exact ih.mpr ⟨_, rfl, hpart⟩

theorem exists_of_afterRun {run : List α} {ys rest : List β} (h : afterRun ok run ys = some rest) :
    ∃ skipped part, ys = skipped ++ (part ++ rest) ∧ IsRun ok run part := by
  induction ys with
  | nil =>
    obtain ⟨part, hys, hpart⟩ := stripRun_eq_some_iff.mp h
    exact ⟨[], part, hys, hpart⟩
  | cons y ys ih =>
    rw [afterRun] at h
    split at h
    · rename_i hstrip
      cases h
      obtain ⟨part, hys, hpart⟩ := stripRun_eq_some_iff.mp hstrip
      exact ⟨[], part, hys, hpart⟩
    · obtain ⟨skipped, part, rfl, hpart⟩ := ih h
      exact ⟨y :: skipped, part, rfl, hpart⟩

/-- The first place of a run leaves at least as much of the list as any other. -/
theorem exists_afterRun {run : List α} {part : List β} (hpart : IsRun ok run part)
    (skipped rest : List β) :
    ∃ left, afterRun ok run (skipped ++ (part ++ rest)) = some left ∧ rest <:+ left := by
  induction skipped with
  | nil =>
    have hstrip : stripRun ok run (part ++ rest) = some rest :=
      stripRun_eq_some_iff.mpr ⟨part, rfl, hpart⟩
    refine ⟨rest, ?_, List.suffix_rfl⟩
    rw [List.nil_append]
    cases hlist : part ++ rest with
    | nil => rw [afterRun, ← hlist, hstrip]
    | cons y ys => rw [afterRun, ← hlist, hstrip]
  | cons y skipped ih =>
    rw [List.cons_append, afterRun]
    cases hstrip : stripRun ok run (y :: (skipped ++ (part ++ rest))) with
    | none => exact ih
    | some left =>
      refine ⟨left, rfl, ?_⟩
      obtain ⟨found, hfound, hlength⟩ := stripRun_eq_some_iff.mp hstrip
      -- both are ends of one list, and the place that was found begins before the other
      have hleft : left <:+ y :: (skipped ++ (part ++ rest)) := ⟨found, hfound.symm⟩
      have hrest : rest <:+ y :: (skipped ++ (part ++ rest)) :=
        ⟨y :: (skipped ++ part), by simp⟩
      refine List.suffix_of_suffix_length_le hrest hleft ?_
      have hsame : found.length = part.length := hlength.length_eq.symm.trans hpart.length_eq
      have htotal := congrArg List.length hfound
      simp only [List.length_cons, List.length_append] at htotal
      omega

theorem exists_of_afterRuns {runs : List (List α)} {ys left : List β}
    (h : afterRuns ok runs ys = some left) : ∃ front, ys = front ++ left ∧ RunsIn ok runs front := by
  induction runs generalizing ys with
  | nil =>
    rw [afterRuns, Option.some.injEq] at h
    exact ⟨[], h, .nil⟩
  | cons run runs ih =>
    rw [afterRuns] at h
    split at h
    · rename_i rest hrun
      obtain ⟨skipped, part, rfl, hpart⟩ := exists_of_afterRun hrun
      obtain ⟨front, rfl, hfront⟩ := ih h
      exact ⟨skipped ++ (part ++ front), by simp, .cons skipped hpart hfront⟩
    · cases h

/-- **The search from the left misses nothing.**  If runs occur in a list, they are found, and what is
left is the longest end that is left after any of their occurrences.  Induction on the runs: after
the first one the search has at least what the given occurrence has. -/
theorem exists_afterRuns {runs : List (List α)} {front : List β} (h : RunsIn ok runs front)
    (rest : List β) : ∃ left, afterRuns ok runs (front ++ rest) = some left ∧ rest <:+ left := by
  have hmore : ∀ before : List β,
      ∃ left, afterRuns ok runs (before ++ (front ++ rest)) = some left ∧ rest <:+ left := by
    induction h with
    | nil =>
      intro before
      exact ⟨before ++ rest, by rw [afterRuns, List.nil_append], List.suffix_append _ _⟩
    | @cons run runs part behind skipped hpart _ ih =>
      intro before
      obtain ⟨found, hfound, more, hsuffix⟩ :=
        exists_afterRun hpart (before ++ skipped) (behind ++ rest)
      have hlist : before ++ (skipped ++ (part ++ behind) ++ rest)
          = before ++ skipped ++ (part ++ (behind ++ rest)) := by simp
      rw [afterRuns, hlist, hfound, ← hsuffix]
      exact ih more
  exact hmore []

theorem endsWithRun_iff {run : List α} {ys : List β} :
    endsWithRun ok run ys = true ↔ ∃ skipped part, ys = skipped ++ part ∧ IsRun ok run part := by
  rw [endsWithRun, Bool.and_eq_true, decide_eq_true_iff, Option.isSome_iff_exists]
  constructor
  · rintro ⟨hle, rest, hstrip⟩
    obtain ⟨part, hdrop, hpart⟩ := stripRun_eq_some_iff.mp hstrip
    have hlength := congrArg List.length hdrop
    have hsame : run.length = part.length := hpart.length_eq
    have hrest : rest = [] := by
      rw [List.length_drop, List.length_append] at hlength
      exact List.eq_nil_of_length_eq_zero (by omega)
    refine ⟨ys.take (ys.length - run.length), part, ?_, hpart⟩
    rw [hrest, List.append_nil] at hdrop
    rw [← hdrop, List.take_append_drop]
  · rintro ⟨skipped, part, rfl, hpart⟩
    have hsame : run.length = part.length := hpart.length_eq
    refine ⟨by rw [List.length_append]; omega, [], ?_⟩
    refine stripRun_eq_some_iff.mpr ⟨part, ?_, hpart⟩
    rw [List.length_append, hsame, Nat.add_sub_cancel, List.drop_left, List.append_nil]

end Runs

/-! ### Wildcards -/

theorem sameChar_iff {caseSensitive : Bool} {p c : Char} :
    sameChar caseSensitive p c = true ↔ CharMatches caseSensitive p c := by
  unfold sameChar CharMatches
  simp only [Bool.or_eq_true, Bool.and_eq_true, beq_iff_eq, Bool.not_eq_true', or_assoc]

/-- **A wildcard matches a name exactly if it stands for it.** -/
theorem wildcardMatches_iff {caseSensitive : Bool} {pattern name : Text} :
    wildcardMatches caseSensitive pattern name = true ↔ NameMatches caseSensitive pattern name := by
  have hok : CharMatches caseSensitive = fun p c => sameChar caseSensitive p c = true := by
    funext p c
    exact propext sameChar_iff.symm
  obtain ⟨front, runs, hcut⟩ := List.exists_cons_of_ne_nil (splitAt_ne_nil '*' pattern)
  rw [NameMatches, hok, spans_iff hcut, wildcardMatches, hcut]
  cases runs with
  | nil =>
    dsimp only
    rw [beq_iff_eq, stripRun_eq_some_iff]
    simp only [runsIn_nil_iff]
    constructor
    · rintro ⟨part, hname, hpart⟩
      exact ⟨part, [], hname, hpart, rfl⟩
    · rintro ⟨part, rest, hname, hpart, rfl⟩
      exact ⟨part, hname, hpart⟩
  | cons back parts =>
    -- the runs between the stars, and the one after the last star
    obtain ⟨middle, last, hlast⟩ : ∃ middle last, back :: parts = middle ++ [last] :=
      ⟨_, _, (List.dropLast_append_getLast (List.cons_ne_nil back parts)).symm⟩
    dsimp only
    rw [hlast, List.dropLast_concat, List.getLastD_concat]
    constructor
    · intro h
      split at h
      · cases h
      · rename_i rest hstrip
        split at h
        · cases h
        · rename_i left hruns
          obtain ⟨part, rfl, hpart⟩ := stripRun_eq_some_iff.mp hstrip
          obtain ⟨between, rfl, hbetween⟩ := exists_of_afterRuns hruns
          obtain ⟨skipped, final, rfl, hfinal⟩ := endsWithRun_iff.mp h
          exact ⟨part, _, rfl, hpart,
            runsIn_concat_iff.mpr ⟨between, skipped, final, rfl, hbetween, hfinal⟩⟩
    · rintro ⟨part, rest, rfl, hpart, hrest⟩
      obtain ⟨between, skipped, final, rfl, hbetween, hfinal⟩ := runsIn_concat_iff.mp hrest
      obtain ⟨left, hleft, more, hmore⟩ := exists_afterRuns hbetween (skipped ++ final)
      rw [stripRun_eq_some_iff.mpr ⟨part, rfl, hpart⟩]
      dsimp only
      rw [hleft]
      exact endsWithRun_iff.mpr ⟨more ++ skipped, final, by rw [← hmore, List.append_assoc], hfinal⟩

/-- The empty run is found at once. -/
theorem afterRun_nil {α β : Type} (ok : α → β → Bool) (ys : List β) : afterRun ok [] ys = some ys := by
  cases ys <;> rfl

/-! ### Path patterns -/

namespace PathPattern

/-- A pattern without the `!` in front of it. -/
def body : Text → Text
  | '!' :: rest => rest
  | pattern => pattern

/-- The segments of a pattern.  One that does not start at the root matches at any depth. -/
def globs (body : Text) : List Text :=
  if body.head? = some '/' then pathSegments body else ['*', '*'] :: pathSegments body

/-- Whether a pattern is one for directories. -/
def NamesDirectory (body : Text) : Prop := ['/'] <:+ body ∨ ['/', '*', '*'] <:+ body

theorem steps_eq (body : Text) : steps body = globs body ++ [['*', '*']] := by
  unfold steps globs
  split
  · rfl
  · rename_i hroot
    have hhead : body.head? ≠ some '/' := by
      intro h
      obtain ⟨rest, rfl⟩ := List.head?_eq_some_iff.mp h
      exact hroot rest rfl
    rw [if_neg hhead]

theorem splitAt_concat {α : Type} [DecidableEq α] (gap : α) (xs : List α) :
    splitAt gap (xs ++ [gap]) = splitAt gap xs ++ [[]] := by
  induction xs with
  | nil => simp [splitAt]
  | cons x xs ih =>
    obtain ⟨part, parts, hparts⟩ := List.exists_cons_of_ne_nil (splitAt_ne_nil gap xs)
    rw [List.cons_append, splitAt, splitAt, ih, hparts]
    split
    all_goals rfl

/-- The gap at the end of a pattern takes whatever is left. -/
theorem afterRuns_concat_nil {α β : Type} (ok : α → β → Bool) (runs : List (List α)) (ys : List β) :
    afterRuns ok (runs ++ [[]]) ys = afterRuns ok runs ys := by
  induction runs generalizing ys with
  | nil =>
    have hone : afterRuns ok [[]] ys = some ys := by
      rw [afterRuns, afterRun_nil]
      rfl
    exact hone
  | cons run runs ih =>
    rw [List.cons_append, afterRuns, afterRuns]
    cases afterRun ok run ys with
    | none => rfl
    | some rest => exact ih rest

/-- Only the body of a pattern counts for what it matches. -/
theorem exists_compile_eq (caseSensitive : Bool) (pattern : Text) :
    ∃ reversed, compile caseSensitive pattern =
      { origin := pattern
        lead := (splitAt ['*', '*'] (steps (body pattern))).headD []
        runs := (splitAt ['*', '*'] (steps (body pattern))).tail
        reversed := reversed
        directoryOnly :=
          ['/'].isSuffixOf (body pattern) || ['/', '*', '*'].isSuffixOf (body pattern)
        caseSensitive := caseSensitive } := by
  unfold compile
  split
  rename_i reversed rest hrest
  have hbody : rest = body pattern := by
    split at hrest
    · cases hrest
      rfl
    · rename_i hplain
      cases hrest
      unfold body
      split
      · rename_i t
        exact (hplain t rfl).elim
      · rfl
  subst hbody
  exact ⟨reversed, rfl⟩

/-- How the segments of a path are searched for the runs of a pattern. -/
theorem acceptsSegments_iff {p : PathPattern} {segments : List Text} {isDirectory : Bool} :
    p.acceptsSegments segments isDirectory = true ↔
      ∃ rest below, stripRun (wildcardMatches p.caseSensitive) p.lead segments = some rest ∧
        afterRuns (wildcardMatches p.caseSensitive) p.runs rest = some below ∧
        (below ≠ [] ∨ (!p.directoryOnly || isDirectory) = true) := by
  rw [acceptsSegments]
  cases stripRun (wildcardMatches p.caseSensitive) p.lead segments with
  | none => simp
  | some rest =>
    cases hruns : afterRuns (wildcardMatches p.caseSensitive) p.runs rest with
    | none => simp [hruns]
    | some below => simp [hruns, or_assoc]

/-- How a path is searched for the runs of a compiled pattern. -/
theorem compile_accepts_eq_true_iff {caseSensitive : Bool} {pattern : Text} {lead : List Text}
    {runs : List (List Text)} (hcut : splitAt ['*', '*'] (globs (body pattern)) = lead :: runs)
    (path : Text) (isDirectory : Bool) :
    (compile caseSensitive pattern).accepts path isDirectory = true ↔
      ∃ rest below, stripRun (wildcardMatches caseSensitive) lead (pathSegments path) = some rest ∧
        afterRuns (wildcardMatches caseSensitive) runs rest = some below ∧
        (below ≠ [] ∨ ¬NamesDirectory (body pattern) ∨ isDirectory = true) := by
  have hend : (!(['/'].isSuffixOf (body pattern) || ['/', '*', '*'].isSuffixOf (body pattern))
      || isDirectory) = true ↔ ¬NamesDirectory (body pattern) ∨ isDirectory = true := by
    simp only [Bool.or_eq_true, Bool.not_eq_true', Bool.eq_false_iff, List.isSuffixOf_iff_suffix,
      ne_eq, NamesDirectory]
  obtain ⟨reversed, hcompile⟩ := exists_compile_eq caseSensitive pattern
  rw [hcompile, accepts, acceptsSegments_iff, steps_eq, splitAt_concat, hcut]
  simp only [List.cons_append, List.headD_cons, List.tail_cons, afterRuns_concat_nil, hend]

/-- The segments of a pattern stand for the first segments of a path that it matches.  The search from
the left leaves the most below them, so it is never wrong about a directory. -/
theorem accepts_iff_segmentsMatch (caseSensitive : Bool) (pattern path : Text)
    (isDirectory : Bool) : (compile caseSensitive pattern).accepts path isDirectory = true ↔
      ∃ front below, pathSegments path = front ++ below ∧
        SegmentsMatch caseSensitive (globs (body pattern)) front ∧
        (below ≠ [] ∨ ¬NamesDirectory (body pattern) ∨ isDirectory = true) := by
  obtain ⟨lead, runs, hcut⟩ :=
    List.exists_cons_of_ne_nil (splitAt_ne_nil ['*', '*'] (globs (body pattern)))
  have hok : NameMatches caseSensitive
      = fun glob segment => wildcardMatches caseSensitive glob segment = true := by
    funext glob segment
    exact propext wildcardMatches_iff.symm
  rw [compile_accepts_eq_true_iff hcut, SegmentsMatch, hok]
  constructor
  · rintro ⟨rest, below, hlead, hruns, hend⟩
    obtain ⟨part, hpath, hpart⟩ := stripRun_eq_some_iff.mp hlead
    obtain ⟨between, rfl, hbetween⟩ := exists_of_afterRuns hruns
    exact ⟨part ++ between, below, by rw [hpath, List.append_assoc],
      (spans_iff hcut).mpr ⟨part, between, rfl, hpart, hbetween⟩, hend⟩
  · rintro ⟨front, below, hpath, hfront, hend⟩
    obtain ⟨part, between, rfl, hpart, hbetween⟩ := (spans_iff hcut).mp hfront
    obtain ⟨left, hleft, hmore⟩ := exists_afterRuns hbetween below
    refine ⟨between ++ below, left, ?_, hleft, hend.imp_left fun hbelow hnil => ?_⟩
    · exact stripRun_eq_some_iff.mpr ⟨part, by rw [hpath, List.append_assoc], hpart⟩
    · rw [hnil] at hmore
      exact hbelow (List.suffix_nil.mp hmore)

/-- **A path pattern matches what it stands for.**  Its segments stand for the first segments of the
path, and what is below them is matched with them; but one for directories does not match a file at
its own end.  A `!` in front changes nothing. -/
theorem compile_accepts_iff (caseSensitive : Bool) (pattern path : Text) (isDirectory : Bool) :
    ((compile caseSensitive pattern).accepts path isDirectory = true ↔
      ∃ front below, pathSegments path = front ++ below ∧
        SegmentsMatch caseSensitive (globs (body pattern)) front ∧
        (below ≠ [] ∨ ¬NamesDirectory (body pattern) ∨ isDirectory = true)) ∧
    (compile caseSensitive ('!' :: body pattern)).accepts path isDirectory
      = (compile caseSensitive pattern).accepts path isDirectory := by
  have hplain := accepts_iff_segmentsMatch caseSensitive pattern path isDirectory
  have hreversed := accepts_iff_segmentsMatch caseSensitive ('!' :: body pattern) path isDirectory
  have hsame : (compile caseSensitive ('!' :: body pattern)).accepts path isDirectory = true
      ↔ (compile caseSensitive pattern).accepts path isDirectory = true :=
    hreversed.trans hplain.symm
  exact ⟨hplain, Bool.eq_iff_iff.mpr hsame⟩

example : (compile true "!src/**/*.c/".toList).accepts "a/src/b/x.c".toList false = false ∧
    (compile true "!src/**/*.c/".toList).accepts "a/src/b/x.c/y".toList false = true := by decide

end PathPattern

end LicenseHeader.Glob
