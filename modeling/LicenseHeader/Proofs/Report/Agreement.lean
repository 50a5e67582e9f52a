import Mathlib.Data.List.Nodup
import LicenseHeader.CommandLine.Run
import LicenseHeader.Proofs.Path

/-!
# What a report says

A report is read in several ways: file by file in the order of the paths, as numbers of files in a
summary, as lists of files, and with a yes or no where it is decided whether a run counts as failed.
Each of them goes through the outcomes and tells them apart on its own.  However the outcomes came in,
all of these say the same.

* `Report.addAll`: outcomes are added one after the other, and `Report.find?_addAll`: a path keeps the
  first of them;
* `Report.AreDistinct`: no path has two outcomes, which adding one more never changes
  (`Report.areDistinct_add`, `Report.areDistinct_addAll`);
* `Summary.Measures`: the numbers are the lengths of the lists, which one more file keeps
  (`Summary.Measures.add`) and so do all files (`Summary.Measures.foldl`);
* `Categories.listed`: the lists have every file once, with its outcome (`Categories.listed_add_perm`,
  `Categories.listed_foldl_perm`);
* `Report.Agrees`: what it means that a report says the same in all ways;
* `Report.agrees_addAll` is the result.
-/

namespace LicenseHeader

/-! ### Numbers and lists -/

namespace Summary

/-- The sum of all numbers but the total. -/
def sum (s : Summary) : Nat :=
  s.present + s.missing + s.noop + s.added + s.replaced + s.removed + s.unknown + s.errors

/-- The numbers are the lengths of the lists, and the total is their sum. -/
structure Measures (s : Summary) (c : Categories) : Prop where
  present : s.present = c.present.length
  missing : s.missing = c.missing.length
  noop : s.noop = c.noop.length
  added : s.added = c.added.length
  replaced : s.replaced = c.replaced.length
  removed : s.removed = c.removed.length
  unknown : s.unknown = c.unknown.length
  errors : s.errors = c.errors.length
  total : s.total = s.sum

variable {s : Summary} {c : Categories}

/-- One more file is counted where it is listed. -/
theorem Measures.add (h : s.Measures c) (path : Path) (o : Outcome) :
    (s.add o).Measures (c.add path o) := by
  obtain ⟨hpresent, hmissing, hnoop, hadded, hreplaced, hremoved, hunknown, herrors, htotal⟩ := h
  unfold sum at htotal
  cases o <;> constructor <;>
    simp only [Summary.add, Categories.add, sum, List.length_append, List.length_singleton] <;> omega

theorem Measures.foldl (h : s.Measures c) (entries : List (Path × Outcome)) :
    (entries.foldl (fun s e => s.add e.2) s).Measures (entries.foldl (fun c e => c.add e.1 e.2) c) := by
  induction entries generalizing s c with
  | nil => exact h
  | cons e entries ih => exact ih (h.add e.1 e.2)

theorem total_add (s : Summary) (o : Outcome) : (s.add o).total = s.total + 1 := by
  cases o <;> rfl

theorem total_foldl (s : Summary) (entries : List (Path × Outcome)) :
    (entries.foldl (fun s e => s.add e.2) s).total = s.total + entries.length := by
  induction entries generalizing s with
  | nil => rfl
  | cons e entries ih =>
    rw [List.foldl_cons, ih, total_add, List.length_cons]
    omega

theorem measures_ofReport (r : Report) (timing : Timing) :
    (ofReport r timing).Measures (.ofReport r) := by
  have hstart : ({ action := r.action, timing } : Summary).Measures {} := by
    constructor <;> rfl
  exact hstart.foldl r.entries

theorem total_ofReport (r : Report) (timing : Timing) :
    (ofReport r timing).total = r.entries.length := by
  rw [ofReport, total_foldl, Nat.zero_add]

end Summary

namespace Categories

variable {c : Categories}

/-- The files of all lists, each with the outcome of its list. -/
def listed (c : Categories) : List (Path × Outcome) :=
  c.present.map (·, .present) ++ c.missing.map (·, .missing) ++ c.noop.map (·, .noop) ++
    c.added.map (·, .added) ++ c.replaced.map (·, .replaced) ++ c.removed.map (·, .removed) ++
    c.unknown.map (·, .unknown) ++ c.errors.map fun e => (e.1, .error e.2)

/-- The lengths of the lists under their labels. -/
def counts (c : Categories) : List (Text × Nat) := [
  ("present".toList, c.present.length),
  ("missing".toList, c.missing.length),
  ("noop".toList, c.noop.length),
  ("added".toList, c.added.length),
  ("replaced".toList, c.replaced.length),
  ("removed".toList, c.removed.length),
  ("unknown".toList, c.unknown.length),
  ("errors".toList, c.errors.length)]

/-- The paths of each list. -/
def lists (c : Categories) : List (List Path) :=
  [c.present, c.missing, c.noop, c.added, c.replaced, c.removed, c.unknown, c.errors.map Prod.fst]

/-- The lists of changed files, one after the other. -/
def changed (c : Categories) : List Path := c.added ++ c.replaced ++ c.removed

/-- One more file is one more in all lists together. -/
theorem listed_add_perm (c : Categories) (path : Path) (o : Outcome) :
    (c.add path o).listed.Perm ((path, o) :: c.listed) := by
  rw [List.perm_iff_count]
  intro e
  cases o <;> simp only [listed, add, List.map_append, List.map_cons, List.map_nil, List.count_append,
    List.count_cons, List.count_nil] <;> omega

/-- **The lists have every file once**, with its outcome.  Induction on the files. -/
theorem listed_foldl_perm (c : Categories) (entries : List (Path × Outcome)) :
    (entries.foldl (fun c e => c.add e.1 e.2) c).listed.Perm (entries ++ c.listed) := by
  induction entries generalizing c with
  | nil => exact List.Perm.refl _
  | cons e entries ih =>
    have hadd : (entries ++ (c.add e.1 e.2).listed).Perm (entries ++ e :: c.listed) :=
      (c.listed_add_perm e.1 e.2).append_left entries
    exact ((ih (c.add e.1 e.2)).trans hadd).trans List.perm_middle

theorem listed_ofReport_perm (r : Report) : (ofReport r).listed.Perm r.entries := by
  have hlisted := listed_foldl_perm {} r.entries
  rwa [show ({} : Categories).listed = [] from rfl, List.append_nil] at hlisted

/-- One more file goes to the end of one list. -/
theorem mem_lists_add {path : Path} {o : Outcome} {l : List Path} (h : l ∈ (c.add path o).lists) :
    l ∈ c.lists ∨ ∃ l' ∈ c.lists, l = l' ++ [path] := by
  cases o <;> simp [lists, add] at h ⊢ <;> grind

/-- Every list is in the order in which the files came. -/
theorem sublist_foldl {before : List Path} (h : ∀ l ∈ c.lists, l.Sublist before)
    (entries : List (Path × Outcome)) :
    ∀ l ∈ (entries.foldl (fun c e => c.add e.1 e.2) c).lists,
      l.Sublist (before ++ entries.map Prod.fst) := by
  induction entries generalizing c before with
  | nil => simpa using h
  | cons e entries ih =>
    have hadd : ∀ l ∈ (c.add e.1 e.2).lists, l.Sublist (before ++ [e.1]) := by
      intro l hl
      rcases mem_lists_add hl with hl | ⟨l', hl', rfl⟩
      · exact (h l hl).trans (List.sublist_append_left _ _)
      · exact (h l' hl').append (List.Sublist.refl _)
    have hrest := ih hadd
    rwa [List.append_assoc] at hrest

/-- The numbers that are written are the lengths of the lists with the same labels. -/
theorem counts_of_measures {s : Summary} (h : s.Measures c) : s.counts = c.counts := by
  rw [Summary.counts, counts, h.present, h.missing, h.noop, h.added, h.replaced, h.removed, h.unknown,
    h.errors]

theorem sublist_ofReport (r : Report) :
    ∀ l ∈ (ofReport r).lists, l.Sublist (r.entries.map Prod.fst) := by
  have hstart : ∀ l ∈ ({} : Categories).lists, l.Sublist ([] : List Path) := by
    simp [lists]
  exact sublist_foldl hstart r.entries

end Categories

namespace Report

variable {r : Report}

/-- The report after outcomes were added one after the other. -/
def addAll (r : Report) (calls : List (Path × Outcome)) : Report :=
  calls.foldl (fun r call => r.add call.1 call.2) r

/-! ### The first outcome of a path -/

theorem find?_same {l : List (Path × Outcome)} {p q : Path} (h : p.same q = true) :
    l.find? (·.1.same p) = l.find? (·.1.same q) := by
  have hkind : (fun e : Path × Outcome => e.1.same p) = fun e => e.1.same q := by
    funext e
    rw [Bool.eq_iff_iff, Path.same_iff, Path.same_iff, Path.same_iff.mp h]
  rw [hkind]

theorem outcomes_add (r : Report) (path : Path) (o : Outcome) :
    (r.add path o).outcomes =
      if (r.outcomes.find? (·.1.same path)).isSome then r.outcomes else r.outcomes ++ [(path, o)] := by
  rw [add, get?, Option.isSome_map]
  split <;> rfl

/-- One more outcome is the first of its path only if the path had none. -/
theorem find?_add (r : Report) (call : Path × Outcome) (path : Path) :
    (r.add call.1 call.2).outcomes.find? (·.1.same path) =
      (r.outcomes.find? (·.1.same path)).or ([call].find? (·.1.same path)) := by
  rw [outcomes_add]
  split
  · rename_i hsome
    by_cases hsame : call.1.same path = true
    · rw [find?_same hsame] at hsome
      rw [Option.or_of_isSome hsome]
    · have hnone : [call].find? (·.1.same path) = none := by simp [hsame]
      rw [hnone, Option.or_none]
  · exact List.find?_append

/-- **A path keeps its first outcome.** -/
theorem find?_addAll (r : Report) (calls : List (Path × Outcome)) (path : Path) :
    (r.addAll calls).outcomes.find? (·.1.same path) =
      (r.outcomes.find? (·.1.same path)).or (calls.find? (·.1.same path)) := by
  induction calls generalizing r with
  | nil => simp [addAll]
  | cons call calls ih =>
    show ((r.add call.1 call.2).addAll calls).outcomes.find? _ = _
    rw [ih, find?_add, Option.or_assoc, ← List.find?_append]
    rfl

/-! ### One outcome for each path -/

/-- No two of the files have the same path. -/
def AreDistinct (l : List (Path × Outcome)) : Prop := l.Pairwise fun a b => a.1.same b.1 = false

theorem AreDistinct.of_perm {l l' : List (Path × Outcome)} (h : AreDistinct l) (hperm : l'.Perm l) :
    AreDistinct l' :=
  (hperm.pairwise_iff fun {a b} hab => by rwa [Path.same_comm]).mpr h

theorem areDistinct_add (h : AreDistinct r.outcomes) (path : Path) (o : Outcome) :
    AreDistinct (r.add path o).outcomes := by
  rw [outcomes_add]
  split
  · exact h
  · rename_i hnone
    have hother : ∀ e ∈ r.outcomes, e.1.same path = false := by
      simpa using hnone
    refine List.pairwise_append.mpr ⟨h, List.pairwise_singleton _ _, ?_⟩
    intro e he new hnew
    rw [List.mem_singleton.mp hnew]
    exact hother e he

theorem areDistinct_addAll (h : AreDistinct r.outcomes) (calls : List (Path × Outcome)) :
    AreDistinct (r.addAll calls).outcomes := by
  induction calls generalizing r with
  | nil => exact h
  | cons call calls ih => exact ih (areDistinct_add h call.1 call.2)

theorem filter_same {l : List (Path × Outcome)} (h : AreDistinct l) (path : Path) :
    l.filter (·.1.same path) = (l.find? (·.1.same path)).toList := by
  induction l with
  | nil => rfl
  | cons e l ih =>
    obtain ⟨he, hl⟩ := List.pairwise_cons.mp h
    by_cases hsame : e.1.same path = true
    · have hnone : l.filter (·.1.same path) = [] := by
        rw [List.filter_eq_nil_iff]
        intro other hother hpath
        have hparts := (Path.same_iff.mp hsame).trans (Path.same_iff.mp hpath).symm
        exact absurd (Path.same_iff.mpr hparts) (by simp [he other hother])
      simp [hsame, hnone]
    · simp [hsame, ih hl]

/-! ### The order of the files -/

theorem entries_perm (r : Report) : r.entries.Perm r.outcomes := List.mergeSort_perm _ _

theorem filter_entries (h : AreDistinct r.outcomes) (path : Path) :
    r.entries.filter (·.1.same path) = (r.outcomes.find? (·.1.same path)).toList := by
  have hperm := (r.entries_perm.filter (·.1.same path)).trans
    (List.Perm.of_eq (filter_same h path))
  cases hfind : r.outcomes.find? (·.1.same path) with
  | none =>
    rw [hfind] at hperm
    exact List.perm_nil.mp hperm
  | some e =>
    rw [hfind] at hperm
    exact List.perm_singleton.mp hperm

/-- Files with different paths, once they are sorted, ascend from one path to the next. -/
theorem ascending_of_distinct {l : List (Path × Outcome)} (h : AreDistinct l) :
    (l.mergeSort fun a b => Path.compare a.1 b.1 != .gt).Pairwise
      fun a b => Path.compare a.1 b.1 = .lt := by
  have hle := pairwise_mergeSort_of_transCmp Path.compare Prod.fst l
  have hne : AreDistinct (l.mergeSort fun a b => Path.compare a.1 b.1 != .gt) :=
    h.of_perm (List.mergeSort_perm l _)
  refine (hle.and hne).imp ?_
  intro a b hab
  obtain ⟨hgt, hsame⟩ := hab
  cases hcompare : Path.compare a.1 b.1 with
  | lt => rfl
  | eq =>
    rw [Path.compare_eq_iff_same, hsame] at hcompare
    exact absurd hcompare Bool.false_ne_true
  | gt => exact absurd hcompare hgt

/-! ### The lists of files -/

/-- The lists of files, put together in the order of the paths, are the files. -/
theorem sorted_listed (h : AreDistinct r.outcomes) :
    ((Categories.ofReport r).listed.mergeSort fun a b => Path.compare a.1 b.1 != .gt) = r.entries := by
  have hperm := Categories.listed_ofReport_perm r
  have hlisted : AreDistinct (Categories.ofReport r).listed := h.of_perm (hperm.trans r.entries_perm)
  have hanti : ∀ a b : Path × Outcome, Path.compare a.1 b.1 = .lt → Path.compare b.1 a.1 = .lt →
      a = b := by
    intro a b hab hba
    rw [Std.OrientedCmp.gt_of_lt hab] at hba
    exact Ordering.noConfusion hba
  exact List.Perm.eq_of_pairwise (fun a b _ _ => hanti a b) (ascending_of_distinct hlisted)
    (ascending_of_distinct h) ((List.mergeSort_perm _ _).trans hperm)

theorem ascending_lists (h : AreDistinct r.outcomes) :
    ∀ l ∈ (Categories.ofReport r).lists, l.Pairwise fun p q => Path.compare p q = .lt := by
  intro l hl
  have hpaths : (r.entries.map Prod.fst).Pairwise fun p q => Path.compare p q = .lt :=
    List.pairwise_map.mpr (ascending_of_distinct h)
  exact hpaths.sublist (Categories.sublist_ofReport r l hl)

/-! ### Yes or no -/

/-- The number of files with an outcome of some kind, list by list. -/
theorem count_eq (r : Report) (kind : Outcome → Bool) :
    r.count kind =
      (if kind .present then (Categories.ofReport r).present.length else 0) +
      (if kind .missing then (Categories.ofReport r).missing.length else 0) +
      (if kind .noop then (Categories.ofReport r).noop.length else 0) +
      (if kind .added then (Categories.ofReport r).added.length else 0) +
      (if kind .replaced then (Categories.ofReport r).replaced.length else 0) +
      (if kind .removed then (Categories.ofReport r).removed.length else 0) +
      (if kind .unknown then (Categories.ofReport r).unknown.length else 0) +
      (Categories.ofReport r).errors.countP fun e => kind (.error e.2) := by
  have hlist : ∀ (paths : List Path) (o : Outcome),
      (paths.map (·, o)).countP (kind ·.2) = if kind o then paths.length else 0 := by
    intro paths o
    rw [List.countP_map]
    by_cases hkind : kind o = true
    · rw [if_pos hkind, List.countP_eq_length]
      intro path _
      exact hkind
    · rw [if_neg hkind, List.countP_eq_zero]
      intro path _
      exact hkind
  rw [count, ← ((Categories.listed_ofReport_perm r).trans r.entries_perm).countP_eq, Categories.listed]
  simp only [List.countP_append, hlist, List.countP_map]
  rfl

theorem hasMissing_iff : r.hasMissing = true ↔ (Categories.ofReport r).missing ≠ [] := by
  rw [hasMissing, count_eq, decide_eq_true_eq, ← List.length_pos_iff]
  simp

theorem hasUnknown_iff : r.hasUnknown = true ↔ (Categories.ofReport r).unknown ≠ [] := by
  rw [hasUnknown, count_eq, decide_eq_true_eq, ← List.length_pos_iff]
  simp

theorem hasErrors_iff : r.hasErrors = true ↔ (Categories.ofReport r).errors ≠ [] := by
  rw [hasErrors, count_eq, decide_eq_true_eq, ← List.length_pos_iff]
  simp [Outcome.message?]

theorem hasUpdates_iff : r.hasUpdates = true ↔ (Categories.ofReport r).changed ≠ [] := by
  rw [hasUpdates, count_eq, decide_eq_true_eq, ← List.length_pos_iff, Categories.changed]
  simp [Outcome.isUpdate, Nat.add_assoc]

theorem hasNews_iff (c : Categories) : c.hasNews = true ↔
    c.missing ≠ [] ∨ c.changed ≠ [] ∨ c.errors ≠ [] := by
  simp only [Categories.hasNews, Categories.changed, Bool.not_eq_true', Bool.and_eq_false_iff,
    List.isEmpty_eq_false_iff, ne_eq, List.append_eq_nil_iff, not_and_or, or_assoc]

/-- Whether a run counts as failed is decided by the lists that are shown. -/
theorem failsOn_iff (a : Arguments) : a.failsOn r = true ↔
    (a.failIfFound = true ∧
      (if a.action = .check then (Categories.ofReport r).missing else (Categories.ofReport r).changed)
        ≠ []) ∨
    (Categories.ofReport r).errors ≠ [] ∨
    (a.failIfUnknown = true ∧ (Categories.ofReport r).unknown ≠ []) := by
  have hfound : (if a.action = .check then r.hasMissing else r.hasUpdates) = true ↔
      (if a.action = .check then (Categories.ofReport r).missing else (Categories.ofReport r).changed)
        ≠ [] := by
    split
    · exact hasMissing_iff
    · exact hasUpdates_iff
  rw [Arguments.failsOn, Bool.or_eq_true, Bool.or_eq_true, Bool.and_eq_true, Bool.and_eq_true, hfound,
    hasErrors_iff, hasUnknown_iff, or_assoc]

/-! ### All ways to read a report -/

/-- All that is read off a report says the same. -/
structure Agrees (r : Report) : Prop where
  /-- The files ascend from one path to the next, and so do those of each list. -/
  ascending : r.entries.Pairwise fun a b => Path.compare a.1 b.1 = .lt
  ascendingLists : ∀ l ∈ (Categories.ofReport r).lists, l.Pairwise fun p q => Path.compare p q = .lt
  /-- The lists of files, put together in the order of the paths, are the files. -/
  lists : ((Categories.ofReport r).listed.mergeSort fun a b => Path.compare a.1 b.1 != .gt) = r.entries
  /-- Every number of a summary is the length of a list, and the total is their sum. -/
  numbers : ∀ timing, (Summary.ofReport r timing).Measures (.ofReport r)
  written : ∀ timing, (Summary.ofReport r timing).counts = (Categories.ofReport r).counts
  total : ∀ timing, (Summary.ofReport r timing).total = r.size
  size : r.size = r.entries.length
  missing : r.hasMissing = true ↔ (Categories.ofReport r).missing ≠ []
  updates : r.hasUpdates = true ↔ (Categories.ofReport r).changed ≠ []
  unknown : r.hasUnknown = true ↔ (Categories.ofReport r).unknown ≠ []
  errors : r.hasErrors = true ↔ (Categories.ofReport r).errors ≠ []
  news : (Categories.ofReport r).hasNews = true ↔ (Categories.ofReport r).missing ≠ [] ∨
    (Categories.ofReport r).changed ≠ [] ∨ (Categories.ofReport r).errors ≠ []
  /-- Whether a run counts as failed is decided by the lists. -/
  failure : ∀ a : Arguments, a.failsOn r = true ↔
    (a.failIfFound = true ∧
      (if a.action = .check then (Categories.ofReport r).missing else (Categories.ofReport r).changed)
        ≠ []) ∨
    (Categories.ofReport r).errors ≠ [] ∨
    (a.failIfUnknown = true ∧ (Categories.ofReport r).unknown ≠ [])

theorem agrees_of_distinct (h : AreDistinct r.outcomes) : r.Agrees where
  ascending := ascending_of_distinct h
  ascendingLists := ascending_lists h
  lists := sorted_listed h
  numbers := Summary.measures_ofReport r
  written timing := Categories.counts_of_measures (Summary.measures_ofReport r timing)
  total timing := (Summary.total_ofReport r timing).trans r.entries_perm.length_eq
  size := r.entries_perm.length_eq.symm
  missing := hasMissing_iff
  updates := hasUpdates_iff
  unknown := hasUnknown_iff
  errors := hasErrors_iff
  news := hasNews_iff _
  failure := failsOn_iff

/-- **All that is read off a report says the same**, whatever outcomes were added in whatever order.
A path keeps the outcome that was added first, and is in the list of all files once, with this
outcome, or not at all. -/
theorem agrees_addAll (action : Action) (calls : List (Path × Outcome)) :
    let r := ({ action } : Report).addAll calls
    (∀ path, r.get? path = (calls.find? (·.1.same path)).map Prod.snd) ∧
    (∀ path, r.entries.filter (·.1.same path) = (calls.find? (·.1.same path)).toList) ∧
    r.Agrees := by
  intro r
  have hempty : AreDistinct ({ action } : Report).outcomes := List.Pairwise.nil
  have hdistinct : AreDistinct r.outcomes := areDistinct_addAll hempty calls
  have hfirst : ∀ path, r.outcomes.find? (·.1.same path) = calls.find? (·.1.same path) :=
    find?_addAll { action } calls
  refine ⟨?_, ?_, agrees_of_distinct hdistinct⟩
  · intro path
    rw [get?, hfirst]
  · intro path
    rw [filter_entries hdistinct, hfirst]

end Report

end LicenseHeader
