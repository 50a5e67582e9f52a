import LicenseHeader.Proofs.Glob.Windows

/-!
# The segments of a path, place by place

A path pattern is cut at its gaps once and for all, and its runs are then taken off the segments of a
path one after the other.  The same answer is found without cutting anything, with two windows that
are narrowed from both ends.  They are those of a name with two differences.  A window is never read
when it is closed.  And a list that is used up does not settle the answer: at its own end a pattern
for directories matches no file.

* `leavesBelow_peels`: what is asked of a path may be taken apart by the loops of a name;
* `scanSteps_eq_some`: the search by places ends with an answer;
* `PathPattern.scanSegments_eq_some`: it is the answer of the pattern;
* `PathPattern.scanBelow_eq`: what may match below a directory, segment by segment.
-/

namespace LicenseHeader.Glob

section Scan

variable {α β : Type} [DecidableEq α] (gap : α) (ok : α → β → Bool) (xs : List α) (ys : List β)

/-- Compares items from the front, up to a gap or until one of the windows is closed. -/
def scanLead (w : Windows) : Option (Option Windows) :=
  if w.patternStart < w.patternStop ∧ w.listStart < w.listStop then
    match xs[w.patternStart]? with
    | none => none
    | some x =>
      if x = gap then some (some w)
      else
        match ys[w.listStart]? with
        | none => none
        | some y =>
          if ok x y then
            scanLead { w with patternStart := w.patternStart + 1, listStart := w.listStart + 1 }
          else some none
  else some (some w)
  termination_by w.listStop - w.listStart

/-- Compares items from the end, down to a gap or until one of the windows is closed. -/
def scanTail (w : Windows) : Option (Option Windows) :=
  if w.patternStart < w.patternStop ∧ w.listStart < w.listStop then
    match xs[w.patternStop - 1]? with
    | none => none
    | some x =>
      if x = gap then some (some w)
      else
        match ys[w.listStop - 1]? with
        | none => none
        | some y =>
          if ok x y then
            scanTail { w with patternStop := w.patternStop - 1, listStop := w.listStop - 1 }
          else some none
  else some (some w)
  termination_by w.listStop - w.listStart

/-- The answer for a list that is used up.  Gaps that are left match what is below it, and the list
itself only if it may end there. -/
def atEnd (mayEnd : Bool) (w : Windows) : Option Bool :=
  (slice? xs w.patternStart w.patternStop).map fun rest =>
    if rest.isEmpty then true else if rest.all (· = gap) then mayEnd else false

/-- Whether a pattern with a gap at its end matches a list. -/
def scanSteps (mayEnd : Bool) : Option Bool :=
  proceed (scanLead gap ok xs ys ⟨0, xs.length, 0, ys.length⟩) fun w =>
    if w.listStart = w.listStop then atEnd gap xs mayEnd w
    else if w.patternStart = w.patternStop then some false
    else
      proceed (scanTail gap ok xs ys w) fun w =>
        if w.listStart = w.listStop then atEnd gap xs mayEnd w
        else
          proceed (scanRuns gap ok xs ys w) fun w =>
            if w.listStart = w.listStop then atEnd gap xs mayEnd w else some true

/-- The question about a path.  The runs of the pattern are found one after the other, and something is
left below them unless the list may end there. -/
def LeavesBelow (mayEnd : Bool) (pattern : List α) (part : List β) : Prop :=
  ∃ rest below, stripRun ok ((splitAt gap pattern).headD []) part = some rest ∧
    afterRuns ok (splitAt gap pattern).tail rest = some below ∧ (below ≠ [] ∨ mayEnd = true)

end Scan

section Loops

variable {α β : Type} [DecidableEq α] {gap : α} {ok : α → β → Bool} {xs : List α} {ys : List β}
  {mayEnd : Bool} {w : Windows} {pattern : List α} {part : List β}

theorem splitAt_cons_self : splitAt gap (gap :: pattern) = [] :: splitAt gap pattern := by
  rw [splitAt, if_pos rfl]

theorem splitAt_run_gap {run : List α} (hrun : gap ∉ run) :
    splitAt gap (run ++ gap :: pattern) = run :: splitAt gap pattern := by
  have hcut := @splitAt_flatMap α _ gap [run] (by simpa using hrun) pattern
  simpa using hcut

/-- After a gap the runs may start anywhere. -/
theorem leavesBelow_gap : LeavesBelow gap ok mayEnd (gap :: pattern) part ↔
    ∃ below, afterRuns ok (splitAt gap pattern) part = some below ∧ (below ≠ [] ∨ mayEnd = true) := by
  simp [LeavesBelow, splitAt_cons_self, stripRun]

theorem leavesBelow_peels : Peels gap ok (LeavesBelow gap ok mayEnd) where
  item := by
    intro x y pattern part hx
    obtain ⟨lead, runs, hcut⟩ := List.exists_cons_of_ne_nil (splitAt_ne_nil gap pattern)
    rw [LeavesBelow, LeavesBelow, splitAt, if_neg hx, hcut]
    simp only [List.headD_cons, List.tail_cons, stripRun]
    by_cases hok : ok x y = true
    · simp [hok]
    · simp [hok]
  gaps := by
    intro pattern part
    rw [leavesBelow_gap, leavesBelow_gap, splitAt_cons_self, afterRuns, afterRun_nil]
  run := by
    intro run pattern part hrun
    rw [leavesBelow_gap, splitAt_run_gap hrun, afterRuns]
    cases hafter : afterRun ok run part with
    | none => simp
    | some left => simp [leavesBelow_gap]

/-- Where a gap is in the window, comparing from the front stops before the window is closed. -/
theorem scanLead_eq (h : w.Show xs ys pattern part) (hgap : gap ∈ pattern) :
    scanLead gap ok xs ys w = scanFront gap ok xs ys w := by
  induction part generalizing w pattern with
  | nil =>
    obtain ⟨x, rest, rfl⟩ := List.exists_cons_of_ne_nil (List.ne_nil_of_mem hgap)
    have hclosed : ¬w.listStart < w.listStop := fun hlt => h.list.lt_iff.mp hlt rfl
    rw [scanLead, if_neg fun hopen => hclosed hopen.2, scanFront, h.pattern.head.1]
    dsimp only
    rw [if_neg fun hopen => hclosed hopen.2]
  | cons y part ih =>
    obtain ⟨x, rest, rfl⟩ := List.exists_cons_of_ne_nil (List.ne_nil_of_mem hgap)
    obtain ⟨hx, hrest⟩ := h.pattern.head
    obtain ⟨hy, hpart⟩ := h.list.head
    have hopen : w.listStart < w.listStop := h.list.lt_iff.mpr (by simp)
    rw [scanLead, if_pos ⟨h.pattern.lt_iff.mpr (by simp), hopen⟩, scanFront, hx]
    dsimp only
    by_cases hgapped : x = gap
    · rw [if_pos hgapped, if_neg fun hne => hne.1 hgapped]
    · rw [if_neg hgapped, if_pos ⟨hgapped, hopen⟩, hy]
      have hleft : gap ∈ rest := (List.mem_cons.mp hgap).resolve_left (Ne.symm hgapped)
      rw [ih ⟨hrest, hpart⟩ hleft]

/-- A pattern with a gap at its end is not compared from the end. -/
theorem scanTail_eq (h : w.Show xs ys pattern part) (hlast : pattern.getLast? = some gap) :
    scanTail gap ok xs ys w = some (some w) := by
  obtain ⟨front, rfl⟩ := List.getLast?_eq_some_iff.mp hlast
  rw [scanTail, h.pattern.last.2.1]
  simp

/-- In an empty list there is room for gaps only, and they leave nothing below it. -/
theorem leavesBelow_nil : LeavesBelow gap ok mayEnd pattern ([] : List β) ↔
    (∀ x ∈ pattern, x = gap) ∧ mayEnd = true := by
  induction pattern with
  | nil => simp [LeavesBelow, splitAt, stripRun, afterRuns]
  | cons x pattern ih =>
    obtain ⟨lead, runs, hcut⟩ := List.exists_cons_of_ne_nil (splitAt_ne_nil gap pattern)
    by_cases hx : x = gap
    · rw [hx, leavesBelow_gap, hcut, afterRuns, afterRun]
      rw [LeavesBelow, hcut, List.headD_cons, List.tail_cons] at ih
      simp only [List.forall_mem_cons, true_and, ← ih]
      cases stripRun ok lead ([] : List β) with
      | none => simp
      | some rest => simp
    · rw [LeavesBelow, splitAt, if_neg hx, hcut]
      simp [stripRun, hx]

/-- A list that is used up is answered for. -/
theorem atEnd_eq_some (h : w.Show xs ys pattern part) (hne : pattern ≠ [])
    (hused : w.listStart = w.listStop) :
    ∃ b, atEnd gap xs mayEnd w = some b ∧ (b = true ↔ LeavesBelow gap ok mayEnd pattern part) := by
  obtain rfl := h.list.eq_iff.mp hused
  refine ⟨_, by rw [atEnd, h.pattern.slice?_eq, Option.map_some], ?_⟩
  rw [leavesBelow_nil]
  simp [hne]

/-- **The search by places ends with an answer.**  The gap at the end is never taken off the pattern, so
no window on it is closed. -/
theorem scanSteps_eq_some (ok : α → β → Bool) (ys : List β) (mayEnd : Bool)
    (hlast : xs.getLast? = some gap) :
    ∃ answer, scanSteps gap ok xs ys mayEnd = some answer ∧
      (answer = true ↔ LeavesBelow gap ok mayEnd xs ys) := by
  have hgap : gap ∈ xs := List.mem_of_getLast? hlast
  have hwhole : Windows.Show ⟨0, xs.length, 0, ys.length⟩ xs ys xs ys := ⟨.whole xs, .whole ys⟩
  rw [scanSteps, scanLead_eq hwhole hgap]
  refine (scanFront_narrows leavesBelow_peels hwhole hgap).proceed_eq_some fun hfront hends => ?_
  obtain ⟨hsuffix, hmem, hhead⟩ := hends
  have hne := List.ne_nil_of_mem hmem
  split
  next hused => exact atEnd_eq_some hfront hne hused
  next hused =>
  obtain ⟨rest, rfl⟩ := List.head?_eq_some_iff.mp
    (hhead fun hnil => hused (hfront.list.eq_iff.mpr hnil))
  have hends : (gap :: rest).getLast? = some gap := by
    obtain ⟨front, rfl⟩ := hsuffix
    rwa [List.getLast?_append_cons] at hlast
  rw [if_neg fun heq => hne (hfront.pattern.eq_iff.mp heq), scanTail_eq hfront hends, proceed, if_neg hused]
  refine (scanRuns_narrows leavesBelow_peels hfront hends).proceed_eq_some fun hruns hleft => ?_
  split
  next hused => exact atEnd_eq_some hruns hleft.1 hused
  next hused =>
  have hpart := hruns.list.eq_iff.not.mp hused
  rw [hleft.2 hpart, leavesBelow_gap, splitAt, afterRuns, afterRun_nil]
  exact ⟨true, rfl, iff_of_true rfl ⟨_, rfl, Or.inl hpart⟩⟩

end Loops

/-! ### Path patterns -/

namespace PathPattern

/-- Whether a pattern matches the segments of a path, found by places alone. -/
def scanSegments (caseSensitive : Bool) (pattern : Text) (segments : List Text)
    (isDirectory : Bool) : Option Bool :=
  let directoryOnly :=
    ['/'].isSuffixOf (body pattern) || ['/', '*', '*'].isSuffixOf (body pattern)
  scanSteps ['*', '*'] (wildcardMatches caseSensitive) (steps (body pattern)) segments
    (!directoryOnly || isDirectory)

/-- **A path is matched without leaving the pattern or the path.** -/
theorem scanSegments_eq_some (caseSensitive : Bool) (pattern : Text) (segments : List Text)
    (isDirectory : Bool) : scanSegments caseSensitive pattern segments isDirectory
      = some ((compile caseSensitive pattern).acceptsSegments segments isDirectory) := by
  have hlast : (steps (body pattern)).getLast? = some ['*', '*'] := by
    rw [steps_eq, List.getLast?_concat]
  obtain ⟨answer, hscan, hanswer⟩ := scanSteps_eq_some (wildcardMatches caseSensitive) segments
    (!(['/'].isSuffixOf (body pattern) || ['/', '*', '*'].isSuffixOf (body pattern)) || isDirectory)
    hlast
  obtain ⟨reversed, hcompile⟩ := exists_compile_eq caseSensitive pattern
  rw [scanSegments, hscan, Option.some.injEq, Bool.eq_iff_iff, hanswer, hcompile,
    acceptsSegments_iff, LeavesBelow]

/-- Whether a pattern may match below a directory, the segments of which are read from the place `i` of
the pattern on. -/
def scanBelow (caseSensitive : Bool) (globs : List Text) (i : Nat) : List Text → Bool
  | [] => true
  | segment :: segments =>
    match globs[i]? with
    | none => true
    | some glob =>
      if glob = ['*', '*'] then true
      else if wildcardMatches caseSensitive glob segment then
        scanBelow caseSensitive globs (i + 1) segments
      else false

/-- From the place `i` on, the segments are compared with the wildcards up to the next `**`. -/
theorem scanBelow_eq_agrees (caseSensitive : Bool) (globs : List Text) (i : Nat)
    (segments : List Text) : scanBelow caseSensitive globs i segments
      = agrees caseSensitive ((splitAt ['*', '*'] (globs.drop i)).headD []) segments := by
  induction segments generalizing i with
  | nil => rw [scanBelow, agrees]; simp
  | cons segment segments ih =>
    rw [scanBelow]
    cases hglob : globs[i]? with
    | none =>
      rw [List.drop_eq_nil_of_le (List.getElem?_eq_none_iff.mp hglob)]
      rfl
    | some glob =>
      obtain ⟨hi, rfl⟩ := List.getElem?_eq_some_iff.mp hglob
      rw [List.drop_eq_getElem_cons hi, splitAt]
      dsimp only
      obtain ⟨lead, runs, hcut⟩ :=
        List.exists_cons_of_ne_nil (splitAt_ne_nil ['*', '*'] (globs.drop (i + 1)))
      split
      · rfl
      · rw [ih, hcut, List.headD_cons, List.headD_cons, agrees]
        simp

theorem scanBelow_eq (caseSensitive : Bool) (pattern directory : Text) :
    scanBelow caseSensitive (steps (body pattern)) 0 (pathSegments directory)
      = (compile caseSensitive pattern).mayMatchBelow directory := by
  obtain ⟨reversed, hcompile⟩ := exists_compile_eq caseSensitive pattern
  rw [scanBelow_eq_agrees, List.drop_zero, hcompile, mayMatchBelow]

end PathPattern

end LicenseHeader.Glob
