import LicenseHeader.Proofs.Processing.Effects

/-!
# Files that are handled apart

Some files are handled in a tree, and none of them is written where another one is read or written.
Then it does not matter which of them come first: every file has the outcome that it has in the tree
as it was, and the same is left in the end.

* `Job.Puts`: what handling a file in the tree as it was puts where, and `Job.Apart`: the files that
  are handled do not get in each other's way.  `Job.apart_of_canonical` says which do not;
* `Job.Overlaid`: what is left after some of the files were handled, in whatever order;
* `Job.readBody_of_overlaid` and `Job.overlaid_carryOut`: another file is still read as it was, and
  what it puts where is added;
* `Job.overlaid_run`: handling one file after the other.
-/

namespace LicenseHeader

namespace Job

variable {job : Job} {action : Action} {tree left : FileTree} {paths written : List Path} {p q : Path}
  {place : Place} {text : Text}

/-! ### Files that do not get in each other's way -/

/-- The file at a path is going to have a new text. -/
def Rewrites (job : Job) (action : Action) (tree : FileTree) (p : Path) (text : Text) : Prop :=
  ∃ outcome, job.plan action p (tree.readBody p) = .ok (outcome, some text)

/-- Handling the file at a path puts a text at a place. -/
def Puts (job : Job) (action : Action) (tree : FileTree) (p : Path) (place : Place) (text : Text) :
    Prop :=
  job.Rewrites action tree p text ∧ tree.resolveWith true (job.target action p) = .ok place ∧
    tree.top.kindAt? place ≠ some .directory

/-- In a dry run the new texts of the files go to places where no other of the files is, where the new
text of no other goes, and which its way there does not even look at. -/
def Separate (job : Job) (action : Action) (tree : FileTree) (paths : List Path) : Prop :=
  ∀ p ∈ paths, ∀ place text, job.Puts action tree p place text → ∀ q ∈ paths, q ≠ p →
    tree.resolve q ≠ .ok place ∧ ∀ text', job.Rewrites action tree q text' →
      tree.resolveWith true (job.target action q) ≠ .ok place ∧
      place ∉ tree.lookupsOf true (job.target action q)

/-- The files at some paths do not get in each other's way. -/
structure Apart (job : Job) (action : Action) (tree : FileTree) (paths : List Path) : Prop where
  resolves : ∀ p ∈ paths, ∃ place, tree.resolve p = .ok place
  /-- A new text goes to no other file, and not where another new text goes. -/
  differ : ∀ p ∈ paths, ∀ place text, job.Puts action tree p place text → ∀ q ∈ paths, q ≠ p →
    tree.resolve q ≠ .ok place ∧ ∀ text', ¬job.Puts action tree q place text'
  /-- A new file is not on the way of another new text. -/
  ways : ∀ p ∈ paths, ∀ place text, job.Puts action tree p place text → ∀ q ∈ paths, q ≠ p →
    ∀ text', job.Rewrites action tree q text' →
      tree.top.kindAt? place = some .file ∨ place ∉ tree.lookupsOf true (job.target action q)

theorem target_eq_of_dryRun (h : job.dryRun = false) (action : Action) (p : Path) :
    job.target action p = p := by
  rw [target, h]
  rfl

/-- A file that is going to have a new text can be read. -/
theorem readBody_of_rewrites (h : job.Rewrites action tree p text) :
    ∃ t, tree.readBody p = .ok (.text t) := by
  obtain ⟨outcome, hplan⟩ := h
  obtain ⟨hnone, -⟩ | ⟨t, _, _, hread, -⟩ := plan_cases hplan
  · cases hnone
  · exact ⟨t, hread⟩

/-- A new text that replaces the file itself goes to the place of the file. -/
theorem resolve_of_puts (hdry : job.dryRun = false) (h : job.Puts action tree p place text) :
    tree.resolve p = .ok place ∧ tree.top.kindAt? place = some .file := by
  obtain ⟨hrewrites, hplace, -⟩ := h
  obtain ⟨t, hread⟩ := readBody_of_rewrites hrewrites
  obtain ⟨found, hresolve, hfile⟩ := FileTree.exists_of_readBody hread
  rw [target_eq_of_dryRun hdry] at hplace
  have hsame : place = found :=
    FileTree.eq_of_arrives (FileTree.resolveWith_eq_ok_iff.mp hresolve).2
      (FileTree.follow_eq_ok_iff.mpr (FileTree.resolveWith_eq_ok_iff.mp hplace).2)
  rw [hsame]
  exact ⟨hresolve, hfile⟩

theorem resolve_of_canonical (h : tree.canonical p = .ok q) :
    ∃ place, tree.resolve p = .ok place ∧ place.path = q := by
  rw [FileTree.canonical] at h
  split at h
  · cases h
  · cases hresolve : tree.resolve p with
    | error cause =>
      rw [hresolve] at h
      cases h
    | ok place =>
      rw [hresolve] at h
      exact ⟨place, rfl, Except.ok.inj h⟩

/-- **Files with absolute paths without links are apart** if they are overwritten, and in a dry run if
what is written next to them is. -/
theorem apart_of_canonical (hcanonical : ∀ p ∈ paths, tree.canonical p = .ok p)
    (hseparate : job.dryRun = true → job.Separate action tree paths) :
    job.Apart action tree paths := by
  refine ⟨fun p hp => ?_, fun p hp place text hputs q hq hne => ?_,
    fun p hp place text hputs q hq hne text' hrewrites => ?_⟩
  · obtain ⟨place, hresolve, -⟩ := resolve_of_canonical (hcanonical p hp)
    exact ⟨place, hresolve⟩
  · cases hdry : job.dryRun with
    | true =>
      obtain ⟨hresolve, hothers⟩ := hseparate hdry p hp place text hputs q hq hne
      exact ⟨hresolve, fun text' hother => (hothers text' hother.1).1 hother.2.1⟩
    | false =>
      -- both paths would be the one path of the place
      have hplace : ∀ r ∈ paths, tree.resolve r = .ok place → place.path = r := by
        intro r hr hresolve
        obtain ⟨found, hfound, hpath⟩ := resolve_of_canonical (hcanonical r hr)
        rw [Except.ok.inj (hresolve.symm.trans hfound), hpath]
      have hown := hplace p hp (resolve_of_puts hdry hputs).1
      refine ⟨fun hresolve => hne ?_, fun text' hother => hne ?_⟩
      · rw [← hplace q hq hresolve, hown]
      · rw [← hplace q hq (resolve_of_puts hdry hother).1, hown]
  · cases hdry : job.dryRun with
    | true => exact Or.inr ((hseparate hdry p hp place text hputs q hq hne).2 text' hrewrites).2
    | false => exact Or.inl (resolve_of_puts hdry hputs).2

/-! ### What some of the files leave -/

/-- What is left of a tree after the files at some paths were handled: what they put where, and
everything else as it was. -/
structure Overlaid (job : Job) (action : Action) (tree : FileTree) (written : List Path)
    (left : FileTree) : Prop where
  workingDir : left.workingDir = tree.workingDir
  repositories : left.repositories = tree.repositories
  puts : ∀ p ∈ written, ∀ place text, job.Puts action tree p place text →
    left.top.faceAt? place = some (.file (.text text))
  kept : ∀ place, (∀ p ∈ written, ∀ text, ¬job.Puts action tree p place text) →
    left.top.faceAt? place = tree.top.faceAt? place

theorem overlaid_nil (job : Job) (action : Action) (tree : FileTree) :
    job.Overlaid action tree [] tree where
  workingDir := rfl
  repositories := rfl
  puts := by simp
  kept _ _ := rfl

namespace Overlaid

variable (h : job.Overlaid action tree written left)
include h

/-- A place is as it was, or a text was put there. -/
theorem kindAt?_cases (place : Place) :
    left.top.kindAt? place = tree.top.kindAt? place ∨
    (left.top.kindAt? place = some .file ∧
      ∃ p ∈ written, ∃ text, job.Puts action tree p place text) := by
  by_cases hputs : ∃ p ∈ written, ∃ text, job.Puts action tree p place text
  · obtain ⟨p, hp, text, htext⟩ := hputs
    refine Or.inr ⟨?_, p, hp, text, htext⟩
    rw [Node.kindAt?_eq_map_faceAt?, h.puts p hp place text htext]
    rfl
  · refine Or.inl ?_
    rw [Node.kindAt?_eq_map_faceAt?, Node.kindAt?_eq_map_faceAt?, h.kept place]
    intro p hp text htext
    exact hputs ⟨p, hp, text, htext⟩

/-- There are only new files. -/
theorem grown : tree.Grown left := by
  refine ⟨h.workingDir, fun place => ?_⟩
  rcases h.kindAt?_cases place with hsame | ⟨hfile, p, -, text, -, hplace, hnoDirectory⟩
  · exact Or.inl hsame
  · have hreached := FileTree.reached_of_arrives (splitAt_ne_nil _ _)
      (FileTree.resolveWith_eq_ok_iff.mp hplace).2
    rw [hfile]
    cases hkind : tree.top.kindAt? place with
    | none => exact Or.inr ⟨rfl, rfl⟩
    | some k =>
      cases k with
      | file => exact Or.inl rfl
      | link target => exact absurd hkind (hreached.noLink target)
      | directory => exact absurd hkind hnoDirectory

theorem congr {written' : List Path} (hmem : ∀ p, p ∈ written ↔ p ∈ written') :
    job.Overlaid action tree written' left where
  workingDir := h.workingDir
  repositories := h.repositories
  puts p hp := h.puts p ((hmem p).mpr hp)
  kept place hkept := h.kept place fun p hp => hkept p ((hmem p).mp hp)

end Overlaid

/-- What is left does not depend on the order in which the files were handled. -/
theorem sameFiles_of_overlaid {left' : FileTree} (h : job.Overlaid action tree written left)
    (h' : job.Overlaid action tree written left') : left.SameFiles left' := by
  refine ⟨h.workingDir.trans h'.workingDir.symm, h.repositories.trans h'.repositories.symm,
    fun place => ?_⟩
  by_cases hputs : ∃ p ∈ written, ∃ text, job.Puts action tree p place text
  · obtain ⟨p, hp, text, htext⟩ := hputs
    rw [h.puts p hp place text htext, h'.puts p hp place text htext]
  · have hkept : ∀ p ∈ written, ∀ text, ¬job.Puts action tree p place text := by
      intro p hp text htext
      exact hputs ⟨p, hp, text, htext⟩
    rw [h.kept place hkept, h'.kept place hkept]

section Another

variable (hapart : job.Apart action tree paths) (h : job.Overlaid action tree written left)
  (hpaths : ∀ q ∈ written, q ∈ paths) (hp : p ∈ paths) (hnew : p ∉ written)

include hapart h hpaths hp hnew

/-- The new text of another file goes where it would have gone. -/
theorem resolveWith_target (hrewrites : job.Rewrites action tree p text) :
    left.resolveWith true (job.target action p) = tree.resolveWith true (job.target action p) := by
  refine FileTree.resolveWith_of_lookups h.workingDir true _ fun place hplace => ?_
  rcases h.kindAt?_cases place with hsame | ⟨hfile, q, hq, text', hputs⟩
  · exact hsame
  · have hne : p ≠ q := fun heq => hnew (heq ▸ hq)
    rcases hapart.ways q (hpaths q hq) place text' hputs p hp hne text hrewrites with hwas | hnot
    · rw [hfile, hwas]
    · exact absurd hplace hnot

/-- Writing the new text of another file goes as it would have gone. -/
theorem write_target (hrewrites : job.Rewrites action tree p text) :
    (∃ cause, left.write (job.target action p) text = .error cause ∧
      tree.write (job.target action p) text = .error cause ∧
      ∀ place text', ¬job.Puts action tree p place text') ∨
    ∃ place left' tree', left.write (job.target action p) text = .ok left' ∧
      tree.write (job.target action p) text = .ok tree' ∧ left.Wrote place text left' ∧
      job.Puts action tree p place text := by
  have hresolve := resolveWith_target hapart h hpaths hp hnew hrewrites
  cases hplace : tree.resolveWith true (job.target action p) with
  | error cause =>
    rw [hplace] at hresolve
    refine Or.inl ⟨cause, ?_, ?_, fun place text' hputs => ?_⟩
    · rw [FileTree.write_eq, hresolve]
    · rw [FileTree.write_eq, hplace]
    · rw [hputs.2.1] at hplace
      cases hplace
  | ok place =>
    rw [hplace] at hresolve
    by_cases hdirectory : tree.top.kindAt? place = some .directory
    · refine Or.inl ⟨.isDirectory, ?_, ?_, fun place' text' hputs => ?_⟩
      · rw [FileTree.write_eq, hresolve]
        dsimp only
        rw [h.grown.kindAt?_of_some hdirectory]
      · rw [FileTree.write_eq, hplace]
        dsimp only
        rw [hdirectory]
      · rw [hputs.2.1] at hplace
        cases hplace
        exact hputs.2.2 hdirectory
    · have hleft : left.top.kindAt? place ≠ some .directory := by
        rcases h.kindAt?_cases place with hsame | ⟨hfile, -⟩
        · rw [hsame]
          exact hdirectory
        · simp [hfile]
      obtain ⟨left', hwrite⟩ := FileTree.exists_write hresolve hleft text
      obtain ⟨tree', hwrite'⟩ := FileTree.exists_write hplace hdirectory text
      obtain ⟨place', hplace', -, hwrote⟩ := FileTree.wrote_of_write hwrite
      rw [hresolve] at hplace'
      cases hplace'
      exact Or.inr ⟨place, left', tree', hwrite, hwrite', hwrote, hrewrites, hplace, hdirectory⟩

/-- **Another file is still read as it was.** -/
theorem readBody_of_overlaid : left.readBody p = tree.readBody p := by
  obtain ⟨place, hresolve⟩ := hapart.resolves p hp
  have hleft : left.resolve p = .ok place := h.grown.resolveWith hresolve
  rw [FileTree.readBody_eq, FileTree.readBody_eq, hleft, hresolve]
  dsimp only
  rw [h.kept place]
  intro q hq text hputs
  have hne : p ≠ q := fun heq => hnew (heq ▸ hq)
  exact (hapart.differ q (hpaths q hq) place text hputs p hp hne).1 hresolve

/-- What another file puts somewhere is added. -/
theorem overlaid_of_wrote {left' : FileTree} (hputs : job.Puts action tree p place text)
    (hwrote : left.Wrote place text left') : job.Overlaid action tree (p :: written) left' := by
  refine ⟨hwrote.workingDir.trans h.workingDir, hwrote.repositories.trans h.repositories,
    fun q hq place' text' hother => ?_, fun place' hkept => ?_⟩
  · rw [hwrote.faceAt]
    rcases List.mem_cons.mp hq with rfl | hq
    · obtain ⟨⟨_, hplan⟩, hplace, -⟩ := hputs
      obtain ⟨⟨_, hplan'⟩, hplace', -⟩ := hother
      rw [hplan] at hplan'
      rw [hplace] at hplace'
      cases hplan'
      cases hplace'
      rw [if_pos rfl]
    · have hne : q ≠ p := fun heq => hnew (heq ▸ hq)
      have hdiffer := (hapart.differ p hp place text hputs q (hpaths q hq) hne).2
      rw [if_neg, h.puts q hq place' text' hother]
      rintro rfl
      exact hdiffer text' hother
  · rw [hwrote.faceAt, if_neg, h.kept place' fun q hq => hkept q (List.mem_cons_of_mem p hq)]
    rintro rfl
    exact hkept p List.mem_cons_self text hputs

/-- **Another file is handled as it would have been.**  Its outcome is the same, and what it puts
somewhere is added. -/
theorem overlaid_carryOut :
    (job.carryOut action p left (job.plan action p (tree.readBody p))).1
      = (job.result action tree p).1 ∧
    job.Overlaid action tree (p :: written)
      (job.carryOut action p left (job.plan action p (tree.readBody p))).2 := by
  have hkept : (∀ place text, ¬job.Puts action tree p place text) →
      job.Overlaid action tree (p :: written) left := by
    intro hno
    refine ⟨h.workingDir, h.repositories, fun q hq place text hputs => ?_, fun place hplace => ?_⟩
    · rcases List.mem_cons.mp hq with rfl | hq
      · exact absurd hputs (hno place text)
      · exact h.puts q hq place text hputs
    · exact h.kept place fun q hq => hplace q (List.mem_cons_of_mem p hq)
  rw [result_eq_carryOut]
  cases hplan : job.plan action p (tree.readBody p) with
  | error f =>
    refine ⟨rfl, hkept fun place text hputs => ?_⟩
    obtain ⟨⟨_, htext⟩, -⟩ := hputs
    rw [hplan] at htext
    cases htext
  | ok answer =>
    obtain ⟨outcome, change⟩ := answer
    cases change with
    | none =>
      refine ⟨rfl, hkept fun place text hputs => ?_⟩
      obtain ⟨⟨_, htext⟩, -⟩ := hputs
      rw [hplan] at htext
      cases htext
    | some text =>
      rw [carryOut_some, carryOut_some]
      rcases write_target hapart h hpaths hp hnew ⟨outcome, hplan⟩ with
        ⟨cause, hleft, htree, hno⟩ | ⟨place, left', tree', hleft, htree, hwrote, hputs⟩
      · rw [hleft, htree]
        exact ⟨rfl, hkept hno⟩
      · rw [hleft, htree]
        exact ⟨rfl, overlaid_of_wrote hapart h hpaths hp hnew hputs hwrote⟩

end Another

/-! ### One file after the other -/

theorem outcomes_add {report : Report} {outcome : Outcome}
    (h : ∀ e ∈ report.outcomes, e.1.same p = false) :
    (report.add p outcome).outcomes = report.outcomes ++ [(p, outcome)] := by
  have hnone : report.get? p = none := by
    rw [Report.get?, List.find?_eq_none.mpr fun e he => by simp [h e he]]
    rfl
  rw [Report.add, hnone]
  rfl

/-- What some files and then one more file leave and report. -/
theorem overlaid_step (hapart : job.Apart action tree paths) {report : Report}
    (h : job.Overlaid action tree written left)
    (hreport : report.outcomes = written.map fun q => (q, (job.result action tree q).1))
    (hpaths : ∀ q ∈ written, q ∈ paths) (hp : p ∈ paths) (hnew : ∀ q ∈ written, q.same p = false) :
    job.Overlaid action tree (written ++ [p]) (job.step action (report, left) p).2 ∧
    (job.step action (report, left) p).1.outcomes
      = (written ++ [p]).map fun q => (q, (job.result action tree q).1) := by
  have hnot : p ∉ written := by
    intro hmem
    have hself := hnew p hmem
    simp [Path.same] at hself
  obtain ⟨houtcome, hleft⟩ := overlaid_carryOut hapart h hpaths hp hnot
  rw [step_eq, result_eq_carryOut job action left, readBody_of_overlaid hapart h hpaths hp hnot]
  refine ⟨hleft.congr fun q => by simp [or_comm], ?_⟩
  rw [outcomes_add, hreport, houtcome, List.map_append]
  · rfl
  · rw [hreport]
    intro e he
    obtain ⟨q, hq, rfl⟩ := List.mem_map.mp he
    exact hnew q hq

/-- What some files and then some more files leave and report. -/
theorem overlaid_foldl_step (hapart : job.Apart action tree paths) (more : List Path)
    {report : Report} (h : job.Overlaid action tree written left)
    (hreport : report.outcomes = written.map fun q => (q, (job.result action tree q).1))
    (hpaths : ∀ q ∈ written ++ more, q ∈ paths)
    (hdistinct : (written ++ more).Pairwise fun q r => q.same r = false) :
    job.Overlaid action tree (written ++ more) (more.foldl (job.step action) (report, left)).2 ∧
    (more.foldl (job.step action) (report, left)).1.outcomes
      = (written ++ more).map fun q => (q, (job.result action tree q).1) := by
  induction more generalizing written report left with
  | nil =>
    rw [List.append_nil]
    exact ⟨h, hreport⟩
  | cons p more ih =>
    rw [List.append_cons] at hpaths hdistinct ⊢
    have hnew : ∀ q ∈ written, q.same p = false := by
      intro q hq
      have hpair := List.pairwise_append.mp (List.pairwise_append.mp hdistinct).1
      exact hpair.2.2 q hq p List.mem_cons_self
    obtain ⟨hnext, hreports⟩ := overlaid_step hapart h hreport
      (fun q hq => hpaths q (by simp [hq])) (hpaths p (by simp)) hnew
    rw [List.foldl_cons]
    exact ih hnext hreports hpaths hdistinct

/-- **Handling files one after the other**: each has the outcome that it has in the tree as it was. -/
theorem overlaid_run (hapart : job.Apart action tree paths) {order : List Path}
    (hpaths : ∀ q ∈ order, q ∈ paths) (hdistinct : order.Pairwise fun q r => q.same r = false) :
    job.Overlaid action tree order (job.run action order tree).2 ∧
    (job.run action order tree).1.outcomes
      = order.map fun q => (q, (job.result action tree q).1) :=
  overlaid_foldl_step hapart order (overlaid_nil job action tree) rfl hpaths hdistinct

end Job

end LicenseHeader
