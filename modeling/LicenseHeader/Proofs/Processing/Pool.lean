import Mathlib.Algebra.Ring.Nat
import Mathlib.Data.List.Nodup
import LicenseHeader.Proofs.Processing.Separation

/-!
# Handling files in parallel

The files are divided into batches, and some workers handle them.  A worker that has nothing to do
takes a batch that is waiting; then it reads its next file, writes the result, and adds the outcome
to the report, which all workers share, as they share the tree.  The steps of the workers can follow
each other in any order.

* `Worker.Move` and `Pool.Step`: what a worker can do next, and what can happen next;
* `Pool.Orderly`: what holds after any number of steps (`Pool.Orderly.step`, `Pool.Runs.orderly`);
* `Pool.Step.load_eq`: every step brings the end one step nearer;
* `Pool.exists_runs_sequence`: one worker that does all the work does it in the given order;
* `Pool.runs_as_sequence` is the result.
-/

namespace LicenseHeader

/-- What a worker has in hand. -/
inductive Work where
  /-- A file that was read, with what is to be done to it. -/
  | read (path : Path) (plan : Job.Plan)
  /-- A file whose result was written. -/
  | written (path : Path) (outcome : Outcome)

/-- A worker with the rest of its batch. -/
structure Worker where
  work : Option Work := none
  batch : List Path := []

/-- Workers and the batches that wait for them. -/
structure Pool where
  waiting : List (List Path)
  workers : List Worker
  report : Report
  tree : FileTree

namespace Worker

variable {job : Job} {action : Action}

/-- What a worker does next, with the report and the tree before and after it. -/
inductive Move (job : Job) (action : Action) :
    Worker → Report → FileTree → Worker → Report → FileTree → Prop where
  | read (p : Path) (batch : List Path) (report : Report) (tree : FileTree) :
      Move job action ⟨none, p :: batch⟩ report tree
        ⟨some (.read p (job.plan action p (tree.readBody p))), batch⟩ report tree
  | write (p : Path) (plan : Job.Plan) (batch : List Path) (report : Report) (tree : FileTree) :
      Move job action ⟨some (.read p plan), batch⟩ report tree
        ⟨some (.written p (job.carryOut action p tree plan).1), batch⟩ report
        (job.carryOut action p tree plan).2
  | add (p : Path) (outcome : Outcome) (batch : List Path) (report : Report) (tree : FileTree) :
      Move job action ⟨some (.written p outcome), batch⟩ report tree ⟨none, batch⟩
        (report.add p outcome) tree

/-- The files of a worker whose results are not written yet. -/
def unwritten : Worker → List Path
  | ⟨some (.read p _), batch⟩ => p :: batch
  | ⟨_, batch⟩ => batch

/-- The file of a worker whose outcome is not reported yet. -/
def written : Worker → List (Path × Outcome)
  | ⟨some (.written p outcome), _⟩ => [(p, outcome)]
  | _ => []

/-- What a worker is going to do to a file is what would have been done in the tree as it was. -/
def Planned (job : Job) (action : Action) (tree : FileTree) (w : Worker) : Prop :=
  ∀ p plan, w.work = some (.read p plan) → plan = job.plan action p (tree.readBody p)

/-- The number of steps that a worker has before it. -/
def load : Worker → Nat
  | ⟨none, batch⟩ => 3 * batch.length
  | ⟨some (.read _ _), batch⟩ => 2 + 3 * batch.length
  | ⟨some (.written _ _), batch⟩ => 1 + 3 * batch.length

/-- A worker that cannot move has nothing to do. -/
theorem exists_move (job : Job) (action : Action) (w : Worker) (report : Report) (tree : FileTree) :
    w = {} ∨ ∃ w' report' tree', Move job action w report tree w' report' tree' := by
  match w with
  | ⟨none, []⟩ => exact Or.inl rfl
  | ⟨none, p :: batch⟩ => exact Or.inr ⟨_, _, _, .read p batch report tree⟩
  | ⟨some (.read p plan), batch⟩ => exact Or.inr ⟨_, _, _, .write p plan batch report tree⟩
  | ⟨some (.written p outcome), batch⟩ => exact Or.inr ⟨_, _, _, .add p outcome batch report tree⟩

end Worker

namespace Pool

variable {job : Job} {action : Action} {tree : FileTree} {paths : List Path} {pool next : Pool}

/-- What can happen next: a worker takes a batch, or it goes on with its own. -/
inductive Step (job : Job) (action : Action) : Pool → Pool → Prop where
  | take (front back : List (List Path)) (batch : List Path) (before after : List Worker)
      (report : Report) (tree : FileTree) :
      Step job action ⟨front ++ batch :: back, before ++ {} :: after, report, tree⟩
        ⟨front ++ back, before ++ { batch := batch } :: after, report, tree⟩
  | move (waiting : List (List Path)) (before after : List Worker) {w w' : Worker}
      {report report' : Report} {tree tree' : FileTree} :
      Worker.Move job action w report tree w' report' tree' →
      Step job action ⟨waiting, before ++ w :: after, report, tree⟩
        ⟨waiting, before ++ w' :: after, report', tree'⟩

/-- What can come of a pool after a number of steps. -/
inductive Runs (job : Job) (action : Action) (start : Pool) : Nat → Pool → Prop where
  | refl : Runs job action start 0 start
  | step {n : Nat} {pool next : Pool} : Runs job action start n pool → Step job action pool next →
      Runs job action start (n + 1) next

/-- Nothing more can happen. -/
def Ended (job : Job) (action : Action) (pool : Pool) : Prop := ∀ next, ¬Step job action pool next

/-- A pool at the start.  There is at least one worker. -/
def start (batches : List (List Path)) (threads : Nat) (action : Action) (tree : FileTree) : Pool where
  waiting := batches
  workers := List.replicate (max threads 1) {}
  report := { action := action }
  tree := tree

/-- The files whose results are not written yet. -/
def unwritten (pool : Pool) : List Path :=
  pool.workers.flatMap Worker.unwritten ++ pool.waiting.flatten

/-- The files whose results are written, with their outcomes. -/
def written (pool : Pool) : List (Path × Outcome) :=
  pool.report.outcomes ++ pool.workers.flatMap Worker.written

/-- The number of steps to the end. -/
def load (pool : Pool) : Nat :=
  (pool.workers.map Worker.load).sum + (pool.waiting.map fun batch => 1 + 3 * batch.length).sum

/-! ### The end -/

/-- **Every step brings the end one step nearer.** -/
theorem Step.load_eq (h : Step job action pool next) : pool.load = next.load + 1 := by
  cases h with
  | take =>
    simp only [load, List.map_append, List.map_cons, List.sum_append, List.sum_cons, Worker.load,
      List.length_nil]
    omega
  | move waiting before after hmove =>
    cases hmove with
    | read =>
      simp only [load, List.map_append, List.map_cons, List.sum_append, List.sum_cons, Worker.load,
        List.length_cons]
      omega
    | write =>
      simp only [load, List.map_append, List.map_cons, List.sum_append, List.sum_cons, Worker.load]
      omega
    | add =>
      simp only [load, List.map_append, List.map_cons, List.sum_append, List.sum_cons, Worker.load]
      omega

theorem Step.workers_ne_nil (h : Step job action pool next) : next.workers ≠ [] := by
  cases h <;> simp

/-- If nothing more can happen, there is nothing left to do. -/
theorem Ended.idle (h : pool.Ended job action) (hworkers : pool.workers ≠ []) :
    pool.waiting = [] ∧ ∀ w ∈ pool.workers, w = {} := by
  obtain ⟨waiting, workers, report, tree⟩ := pool
  have hidle : ∀ w ∈ workers, w = {} := by
    intro w hw
    obtain ⟨before, after, rfl⟩ := List.append_of_mem hw
    rcases w.exists_move job action report tree with hempty | ⟨w', report', tree', hmove⟩
    · exact hempty
    · exact absurd (Step.move waiting before after hmove) (h _)
  refine ⟨?_, hidle⟩
  cases waiting with
  | nil => rfl
  | cons batch rest =>
    cases workers with
    | nil => exact absurd rfl hworkers
    | cons w others =>
      rw [hidle w List.mem_cons_self] at h
      exact absurd (Step.take [] rest batch [] others report tree) (h _)

/-! ### Any order of the steps -/

/-- What holds at any time: every file is written or not, and the written ones have the outcomes that
they have in the tree as it was. -/
structure Orderly (job : Job) (action : Action) (tree : FileTree) (paths : List Path) (pool : Pool) :
    Prop where
  /-- No file is lost or doubled. -/
  count : ∀ p, (pool.written.map Prod.fst).count p + pool.unwritten.count p = paths.count p
  outcomes : ∀ e ∈ pool.written, e.2 = (job.result action tree e.1).1
  planned : ∀ w ∈ pool.workers, w.Planned job action tree
  overlaid : job.Overlaid action tree (pool.written.map Prod.fst) pool.tree
  action_eq : pool.report.action = action

theorem orderly_start (job : Job) (action : Action) (tree : FileTree) (batches : List (List Path))
    (threads : Nat) : (start batches threads action tree).Orderly job action tree batches.flatten := by
  have hwritten : (start batches threads action tree).written = [] := by
    simp [written, start, Worker.written]
  have hunwritten : (start batches threads action tree).unwritten = batches.flatten := by
    simp [unwritten, start, Worker.unwritten]
  refine ⟨fun p => ?_, ?_, ?_, ?_, rfl⟩
  · rw [hwritten, hunwritten, List.map_nil, List.count_nil, Nat.zero_add]
  · rw [hwritten]
    simp
  · intro w hw p plan hwork
    rw [List.eq_of_mem_replicate hw] at hwork
    cases hwork
  · rw [hwritten]
    exact Job.overlaid_nil job action tree

section Step

variable {waiting : List (List Path)} {before after : List Worker} {w : Worker} {report : Report}
  {now : FileTree} {p : Path} {batch : List Path}

theorem written_mk : written ⟨waiting, before ++ w :: after, report, now⟩
    = report.outcomes ++ (before.flatMap Worker.written
      ++ (w.written ++ after.flatMap Worker.written)) := by
  simp [written]

theorem unwritten_mk : unwritten ⟨waiting, before ++ w :: after, report, now⟩
    = before.flatMap Worker.unwritten ++ (w.unwritten ++ after.flatMap Worker.unwritten)
      ++ waiting.flatten := by
  simp [unwritten]

theorem forall_planned_iff : (∀ v ∈ before ++ w :: after, v.Planned job action tree) ↔
    (∀ v ∈ before, v.Planned job action tree) ∧ w.Planned job action tree ∧
      ∀ v ∈ after, v.Planned job action tree := by
  rw [List.forall_mem_append, List.forall_mem_cons]

theorem planned_of_ne_read (h : ∀ p plan, w.work ≠ some (.read p plan)) :
    w.Planned job action tree :=
  fun p plan hwork => absurd hwork (h p plan)

theorem Orderly.mem_paths (h : pool.Orderly job action tree paths)
    (hp : p ∈ pool.written.map Prod.fst) : p ∈ paths := by
  have hcount := h.count p
  rw [← List.count_pos_iff] at hp ⊢
  omega

/-- A worker takes a batch. -/
theorem Orderly.take {front back : List (List Path)} (h : Orderly job action tree paths
      ⟨front ++ batch :: back, before ++ {} :: after, report, now⟩) :
    Orderly job action tree paths
      ⟨front ++ back, before ++ { batch := batch } :: after, report, now⟩ := by
  obtain ⟨hcount, houtcomes, hplanned, hoverlaid, haction⟩ := h
  rw [written_mk] at hcount houtcomes hoverlaid
  rw [forall_planned_iff] at hplanned
  refine ⟨fun p => ?_, ?_, ?_, ?_, haction⟩
  · have hp := hcount p
    simp only [written_mk, unwritten_mk, Worker.written, Worker.unwritten, List.flatten_append,
      List.flatten_cons, List.count_append, List.count_nil] at hp ⊢
    omega
  · rw [written_mk]
    exact houtcomes
  · rw [forall_planned_iff]
    exact ⟨hplanned.1, planned_of_ne_read (by simp), hplanned.2.2⟩
  · rw [written_mk]
    exact hoverlaid

variable (hapart : job.Apart action tree paths)
  (hdistinct : paths.Pairwise fun p q => p.same q = false)

include hdistinct

theorem count_le_one (p : Path) : paths.count p ≤ 1 := by
  refine List.nodup_iff_count_le_one.mp (hdistinct.imp fun {p q} hsame heq => ?_) p
  rw [heq, Path.same] at hsame
  simp at hsame

theorem same_eq_false {q : Path} (hp : p ∈ paths) (hq : q ∈ paths) (hne : p ≠ q) :
    p.same q = false := by
  have hsymm : Std.Symm fun p q : Path => p.same q = false := by
    refine ⟨fun p q hsame => ?_⟩
    rw [Path.same, Bool.beq_comm]
    exact hsame
  exact hdistinct.forall hp hq hne

/-- A file whose result is not written yet. -/
theorem Orderly.fresh (h : pool.Orderly job action tree paths) (hp : p ∈ pool.unwritten) :
    p ∈ paths ∧ p ∉ pool.written.map Prod.fst := by
  have hcount := h.count p
  have hone := count_le_one hdistinct p
  rw [← List.count_pos_iff] at hp
  rw [← List.count_pos_iff, ← List.count_eq_zero]
  omega

/-- A worker reports the outcome of a file. -/
theorem Orderly.add {outcome : Outcome} (h : Orderly job action tree paths
      ⟨waiting, before ++ ⟨some (.written p outcome), batch⟩ :: after, report, now⟩) :
    Orderly job action tree paths
      ⟨waiting, before ++ ⟨none, batch⟩ :: after, report.add p outcome, now⟩ := by
  have hadd : (report.add p outcome).outcomes = report.outcomes ++ [(p, outcome)] := by
    refine Job.outcomes_add fun e he => ?_
    have hreported : e.1 ∈ report.outcomes.map Prod.fst := List.mem_map_of_mem he
    refine same_eq_false hdistinct (h.mem_paths ?_) (h.mem_paths ?_) fun heq => ?_
    · rw [written_mk, List.map_append]
      exact List.mem_append_left _ hreported
    · simp [written_mk, Worker.written]
    · -- the file would be there twice
      have hcount := h.count p
      have hone := count_le_one hdistinct p
      rw [heq, ← List.count_pos_iff] at hreported
      simp only [written_mk, Worker.written, List.map_append, List.map_cons, List.map_nil,
        List.count_append, List.count_singleton_self] at hcount
      omega
  obtain ⟨hcount, houtcomes, hplanned, hoverlaid, haction⟩ := h
  rw [forall_planned_iff] at hplanned
  refine ⟨fun q => ?_, ?_, ?_, ?_, ?_⟩
  · have hq := hcount q
    simp only [written_mk, unwritten_mk, Worker.written, Worker.unwritten, hadd, List.map_append,
      List.map_cons, List.map_nil, List.count_append, List.count_nil] at hq ⊢
    omega
  · intro e he
    refine houtcomes e ?_
    simp only [written_mk, Worker.written, hadd, List.mem_append, List.not_mem_nil] at he ⊢
    tauto
  · rw [forall_planned_iff]
    exact ⟨hplanned.1, planned_of_ne_read (by simp), hplanned.2.2⟩
  · refine hoverlaid.congr fun q => ?_
    simp only [written_mk, Worker.written, hadd, List.map_append, List.mem_append, List.map_nil,
      List.not_mem_nil]
    tauto
  · rw [← haction, Report.add]
    split <;> rfl

include hapart

/-- A worker reads its next file. -/
theorem Orderly.read (h : Orderly job action tree paths
      ⟨waiting, before ++ ⟨none, p :: batch⟩ :: after, report, now⟩) :
    Orderly job action tree paths
      ⟨waiting, before ++ ⟨some (.read p (job.plan action p (now.readBody p))), batch⟩ :: after,
        report, now⟩ := by
  obtain ⟨hpaths, hnew⟩ := h.fresh hdistinct (p := p) (by simp [unwritten_mk, Worker.unwritten])
  have hread := Job.readBody_of_overlaid hapart h.overlaid (fun q => h.mem_paths) hpaths hnew
  obtain ⟨hcount, houtcomes, hplanned, hoverlaid, haction⟩ := h
  rw [written_mk] at houtcomes hoverlaid
  rw [forall_planned_iff] at hplanned
  refine ⟨fun q => ?_, ?_, ?_, ?_, haction⟩
  · rw [← hcount q, written_mk, written_mk, unwritten_mk, unwritten_mk]
    rfl
  · rw [written_mk]
    exact houtcomes
  · rw [forall_planned_iff]
    refine ⟨hplanned.1, ?_, hplanned.2.2⟩
    intro q plan hwork
    cases hwork
    rw [hread]
  · rw [written_mk]
    exact hoverlaid

/-- A worker writes the result of a file. -/
theorem Orderly.write {plan : Job.Plan} (h : Orderly job action tree paths
      ⟨waiting, before ++ ⟨some (.read p plan), batch⟩ :: after, report, now⟩) :
    Orderly job action tree paths
      ⟨waiting, before ++ ⟨some (.written p (job.carryOut action p now plan).1), batch⟩ :: after,
        report, (job.carryOut action p now plan).2⟩ := by
  obtain ⟨hpaths, hnew⟩ := h.fresh hdistinct (p := p) (by simp [unwritten_mk, Worker.unwritten])
  have hcarryOut :=
    Job.overlaid_carryOut hapart h.overlaid (fun q => h.mem_paths) hpaths hnew
  obtain ⟨hcount, houtcomes, hplanned, hoverlaid, haction⟩ := h
  rw [forall_planned_iff] at hplanned
  rw [← hplanned.2.1 p plan rfl] at hcarryOut
  refine ⟨fun q => ?_, ?_, ?_, ?_, haction⟩
  · have hq := hcount q
    simp only [written_mk, unwritten_mk, Worker.written, Worker.unwritten, List.map_append,
      List.map_cons, List.map_nil, List.count_append, List.count_nil, List.count_cons] at hq ⊢
    omega
  · intro e he
    rw [written_mk] at he houtcomes
    simp only [Worker.written, List.mem_append, List.mem_singleton] at he
    rcases he with he | he | rfl | he
    · exact houtcomes e (List.mem_append_left _ he)
    · exact houtcomes e (List.mem_append_right _ (List.mem_append_left _ he))
    · exact hcarryOut.1
    · exact houtcomes e (List.mem_append_right _ (List.mem_append_right _ he))
  · rw [forall_planned_iff]
    exact ⟨hplanned.1, planned_of_ne_read (by simp), hplanned.2.2⟩
  · refine hcarryOut.2.congr fun q => ?_
    simp only [written_mk, Worker.written, List.map_append, List.mem_append, List.map_nil,
      List.map_cons, List.mem_cons, List.not_mem_nil]
    tauto

/-- **A step keeps order.** -/
theorem Orderly.step (h : pool.Orderly job action tree paths) (hstep : Step job action pool next) :
    next.Orderly job action tree paths := by
  cases hstep with
  | take front back batch before after report now => exact h.take
  | move waiting before after hmove =>
    cases hmove with
    | read p batch => exact h.read hapart hdistinct
    | write p plan batch => exact h.write hapart hdistinct
    | add p outcome batch => exact h.add hdistinct

end Step

variable {batches : List (List Path)} {threads n : Nat}

/-- What holds at any time of a run. -/
theorem Runs.orderly (hapart : job.Apart action tree batches.flatten)
    (hdistinct : batches.flatten.Pairwise fun p q => p.same q = false)
    (h : Runs job action (start batches threads action tree) n pool) :
    pool.Orderly job action tree batches.flatten := by
  induction h with
  | refl => exact orderly_start job action tree batches threads
  | step _ hstep ih => exact ih.step hapart hdistinct hstep

theorem Runs.workers_ne_nil (h : Runs job action (start batches threads action tree) n pool) :
    pool.workers ≠ [] := by
  induction h with
  | refl =>
    show List.replicate (max threads 1) _ ≠ []
    simp
  | step _ hstep => exact hstep.workers_ne_nil

theorem load_start : (start batches threads action tree).load
    = batches.length + 3 * batches.flatten.length := by
  have hbatches : (batches.map fun batch => 1 + 3 * batch.length).sum
      = batches.length + 3 * batches.flatten.length := by
    induction batches with
    | nil => rfl
    | cons batch rest ih =>
      simp only [List.map_cons, List.sum_cons, ih, List.length_cons, List.flatten_cons,
        List.length_append]
      omega
  simp [load, start, Worker.load, hbatches]

/-- The number of steps of a run, and of those that are still to come. -/
theorem Runs.add_load (h : Runs job action (start batches threads action tree) n pool) :
    n + pool.load = batches.length + 3 * batches.flatten.length := by
  induction h with
  | refl => rw [load_start, Nat.zero_add]
  | step _ hstep ih =>
    rw [hstep.load_eq] at ih
    omega

/-! ### One worker alone -/

theorem ended_of_idle (hwaiting : pool.waiting = []) (hidle : ∀ w ∈ pool.workers, w = {}) :
    pool.Ended job action := by
  intro next hstep
  cases hstep with
  | take => simp at hwaiting
  | move waiting before after hmove =>
    rw [hidle _ (List.mem_append_right before List.mem_cons_self)] at hmove
    cases hmove

/-- A worker can do its batch while nothing else happens. -/
theorem exists_runs_batch {first : Pool} {waiting : List (List Path)} {others : List Worker}
    (batch : List Path) {report : Report} {now : FileTree}
    (h : Runs job action first n ⟨waiting, { batch := batch } :: others, report, now⟩) :
    ∃ m, Runs job action first m ⟨waiting, {} :: others,
      (batch.foldl (job.step action) (report, now)).1,
      (batch.foldl (job.step action) (report, now)).2⟩ := by
  induction batch generalizing n report now with
  | nil => exact ⟨n, h⟩
  | cons p batch ih =>
    have hread := h.step (.move waiting [] others (.read p batch report now))
    have hwrite := hread.step (.move waiting [] others (.write p _ batch report now))
    have hadd := hwrite.step (.move waiting [] others (.add p _ batch report _))
    obtain ⟨m, hm⟩ := ih hadd
    rw [List.foldl_cons, Job.step_eq, Job.result_eq_carryOut]
    exact ⟨m, hm⟩

/-- **One worker can do all the work**, in the given order. -/
theorem exists_runs_sequence (job : Job) (action : Action) (batches : List (List Path)) (threads : Nat)
    (tree : FileTree) :
    ∃ n pool, Runs job action (start batches threads action tree) n pool ∧ pool.Ended job action ∧
      (pool.report, pool.tree) = job.run action batches.flatten tree := by
  obtain ⟨others, hothers⟩ : ∃ others, List.replicate (max threads 1) ({} : Worker) = {} :: others := by
    obtain ⟨k, hk⟩ : ∃ k, max threads 1 = k + 1 := ⟨max threads 1 - 1, by omega⟩
    exact ⟨List.replicate k {}, by rw [hk, List.replicate_succ]⟩
  -- the batches that are done, and those that are waiting
  have hruns : ∀ done waiting, batches = done ++ waiting →
      ∀ n, Runs job action (start batches threads action tree) n ⟨waiting, {} :: others,
        (job.run action done.flatten tree).1, (job.run action done.flatten tree).2⟩ →
      ∃ n, Runs job action (start batches threads action tree) n ⟨[], {} :: others,
        (job.run action batches.flatten tree).1, (job.run action batches.flatten tree).2⟩ := by
    intro done waiting
    induction waiting generalizing done with
    | nil =>
      intro hbatches n hn
      rw [List.append_nil] at hbatches
      rw [hbatches] at hn ⊢
      exact ⟨n, hn⟩
    | cons batch waiting ih =>
      intro hbatches n hn
      have htake := hn.step (.take [] waiting batch [] others _ _)
      obtain ⟨m, hm⟩ := exists_runs_batch batch htake
      refine ih (done ++ [batch]) (by rw [hbatches, List.append_assoc, List.singleton_append]) m ?_
      have hrun : job.run action (done ++ [batch]).flatten tree
          = batch.foldl (job.step action) (job.run action done.flatten tree) := by
        rw [Job.run, Job.run, List.flatten_append, List.flatten_singleton, List.foldl_append]
      rw [hrun]
      exact hm
  have hstart : Runs job action (start batches threads action tree) 0 ⟨batches, {} :: others,
      (job.run action [] tree).1, (job.run action [] tree).2⟩ := by
    rw [← hothers]
    exact .refl
  obtain ⟨n, hn⟩ := hruns [] batches rfl 0 hstart
  refine ⟨n, _, hn, ended_of_idle rfl ?_, rfl⟩
  intro w hw
  rw [← hothers] at hw
  exact List.eq_of_mem_replicate hw

/-! ### All workers together -/

/-- What is there at the end: one outcome for each file, and all that the files put somewhere. -/
theorem Orderly.of_ended (h : pool.Orderly job action tree paths) (hended : pool.Ended job action)
    (hworkers : pool.workers ≠ []) :
    pool.report.outcomes.Perm (paths.map fun p => (p, (job.result action tree p).1)) ∧
      job.Overlaid action tree paths pool.tree := by
  obtain ⟨hwaiting, hidle⟩ := hended.idle hworkers
  have hwritten : pool.written = pool.report.outcomes := by
    have hnone : pool.workers.flatMap Worker.written = [] := by
      rw [List.flatMap_eq_nil_iff]
      intro w hw
      rw [hidle w hw]
      rfl
    rw [written, hnone, List.append_nil]
  have hunwritten : pool.unwritten = [] := by
    have hnone : pool.workers.flatMap Worker.unwritten = [] := by
      rw [List.flatMap_eq_nil_iff]
      intro w hw
      rw [hidle w hw]
      rfl
    rw [unwritten, hnone, hwaiting]
    rfl
  have hperm : (pool.report.outcomes.map Prod.fst).Perm paths := by
    rw [List.perm_iff_count]
    intro p
    have hcount := h.count p
    rw [hwritten, hunwritten, List.count_nil, Nat.add_zero] at hcount
    exact hcount
  have houtcomes : pool.report.outcomes
      = (pool.report.outcomes.map Prod.fst).map fun p => (p, (job.result action tree p).1) := by
    rw [List.map_map]
    conv => lhs; rw [← List.map_id pool.report.outcomes]
    refine List.map_congr_left fun e he => ?_
    rw [← hwritten] at he
    exact Prod.ext rfl (h.outcomes e he)
  have hoverlaid := h.overlaid
  rw [hwritten] at hoverlaid
  refine ⟨?_, hoverlaid.congr fun p => hperm.mem_iff⟩
  rw [houtcomes]
  exact hperm.map _

/-- **Handling files in parallel comes to the same as handling them one after the other.**  The files
are given by different absolute paths without links, and what a dry run writes next to them does not
get in the way of the others.  Then, however the steps of the workers follow each other, they come to
an end; each file has one outcome, the one that it has in the tree as it was; and the files are left as
any sequence leaves them. -/
theorem runs_as_sequence (job : Job) (action : Action) (tree : FileTree) (batches : List (List Path))
    (threads : Nat) (hcanonical : ∀ p ∈ batches.flatten, tree.canonical p = .ok p)
    (hdistinct : batches.flatten.Pairwise fun p q => p.same q = false)
    (hseparate : job.dryRun = true → job.Separate action tree batches.flatten) {n : Nat} {pool : Pool}
    (h : Runs job action (start batches threads action tree) n pool) :
    n ≤ batches.length + 3 * batches.flatten.length ∧
    (pool.Ended job action →
      pool.report.action = action ∧
      pool.report.outcomes.Perm (batches.flatten.map fun p => (p, (job.result action tree p).1)) ∧
      ∀ order : List Path, order.Perm batches.flatten →
        pool.tree.SameFiles (job.run action order tree).2 ∧
        pool.report.outcomes.Perm (job.run action order tree).1.outcomes) := by
  have hapart : job.Apart action tree batches.flatten :=
    Job.apart_of_canonical hcanonical hseparate
  have horderly := h.orderly hapart hdistinct
  refine ⟨by have hload := h.add_load; omega, fun hended => ?_⟩
  obtain ⟨houtcomes, hoverlaid⟩ := horderly.of_ended hended h.workers_ne_nil
  refine ⟨horderly.action_eq, houtcomes, fun order horder => ?_⟩
  have hpairs : order.Pairwise fun p q => p.same q = false := by
    refine horder.symm.pairwise hdistinct fun {p q} hsame => ?_
    rw [Path.same, Bool.beq_comm]
    exact hsame
  obtain ⟨hleft, hreport⟩ := Job.overlaid_run hapart (fun q hq => horder.mem_iff.mp hq) hpairs
  refine ⟨Job.sameFiles_of_overlaid hoverlaid (hleft.congr fun p => horder.mem_iff), ?_⟩
  rw [hreport]
  exact houtcomes.trans (horder.map _).symm

/-- Two files in C, one of them with an old header, and a link in whose place a result is written. -/
def treeInC (link : Text × Node) : FileTree where
  top := .directory [("a.c".toList, .file (.text Job.textInC)),
    ("b.c".toList, .file (.text "int y;\n".toList)), ("old".toList, .directory []), link]

/-- The paths of the two files. -/
def pathsInC : List Path := [⟨"/a.c".toList⟩, ⟨"/b.c".toList⟩]

/-- A link that leads out of the way. -/
def linkAside : Text × Node := ("a.c.formatted".toList, .link ⟨"old/a.c".toList⟩)

/-- The two results have places of their own. -/
theorem separate_linkAside : Job.acmeInC.Separate .format (treeInC linkAside) pathsInC := by
  have hfirst : (treeInC linkAside).resolveWith true
      (Job.acmeInC.target .format ⟨"/a.c".toList⟩) = .ok ["old".toList, "a.c".toList] := rfl
  have hsecond : (treeInC linkAside).resolveWith true
      (Job.acmeInC.target .format ⟨"/b.c".toList⟩) = .ok ["b.c.formatted".toList] := rfl
  have hreadFirst : (treeInC linkAside).resolve ⟨"/a.c".toList⟩ = .ok ["a.c".toList] := rfl
  have hreadSecond : (treeInC linkAside).resolve ⟨"/b.c".toList⟩ = .ok ["b.c".toList] := rfl
  rintro p hp place text ⟨-, hplace, -⟩ q hq hne
  simp only [pathsInC, List.mem_cons, List.not_mem_nil, or_false] at hp hq
  rcases hp with rfl | rfl
  · rw [hfirst] at hplace
    cases hplace
    rcases hq with rfl | rfl
    · exact absurd rfl hne
    · rw [hreadSecond, hsecond]
      exact ⟨by simp, fun _ _ => ⟨by simp, by decide +kernel⟩⟩
  · rw [hsecond] at hplace
    cases hplace
    rcases hq with rfl | rfl
    · rw [hreadFirst, hfirst]
      exact ⟨by simp, fun _ _ => ⟨by simp, by decide +kernel⟩⟩
    · exact absurd rfl hne

/-- A dry run of two workers, in which one result goes through a link into another directory. -/
theorem runs_as_sequence_two_files :
    (∀ p ∈ pathsInC, (treeInC linkAside).canonical p = .ok p) ∧
    (pathsInC.Pairwise fun p q => p.same q = false) ∧
    Job.acmeInC.Separate .format (treeInC linkAside) pathsInC ∧
    ∃ n pool, Runs Job.acmeInC .format (start [pathsInC] 2 .format (treeInC linkAside)) n pool ∧
      pool.Ended Job.acmeInC .format ∧
      pool.report.outcomes.Perm [(⟨"/a.c".toList⟩, .replaced), (⟨"/b.c".toList⟩, .added)] ∧
      ∀ order : List Path, order.Perm pathsInC →
        pool.tree.SameFiles (Job.acmeInC.run .format order (treeInC linkAside)).2 := by
  have hcanonical : ∀ p ∈ [pathsInC].flatten, (treeInC linkAside).canonical p = .ok p := by
    rw [List.flatten_singleton]
    simp only [pathsInC, List.forall_mem_cons]
    exact ⟨rfl, rfl, by simp⟩
  have hdistinct : [pathsInC].flatten.Pairwise fun p q => p.same q = false := by decide +kernel
  obtain ⟨n, pool, hruns, hended, -⟩ :=
    exists_runs_sequence Job.acmeInC .format [pathsInC] 2 (treeInC linkAside)
  obtain ⟨-, hend⟩ := runs_as_sequence Job.acmeInC .format (treeInC linkAside) [pathsInC] 2 hcanonical
    hdistinct (fun _ => separate_linkAside) hruns
  obtain ⟨-, houtcomes, horders⟩ := hend hended
  have hresults : [pathsInC].flatten.map
        (fun p => (p, (Job.acmeInC.result .format (treeInC linkAside) p).1))
      = [(⟨"/a.c".toList⟩, .replaced), (⟨"/b.c".toList⟩, .added)] := by
    decide +kernel
  rw [hresults] at houtcomes
  exact ⟨hcanonical, hdistinct, separate_linkAside, n, pool, hruns, hended, houtcomes,
    fun order horder => (horders order horder).1⟩

/-- A link to another file. -/
def linkAcross : Text × Node := ("a.c.formatted".toList, .link ⟨"b.c".toList⟩)

/-- A link that leads nowhere, through what is going to be a file. -/
def linkBehind : Text × Node := ("b.c.formatted".toList, .link ⟨"a.c.formatted/b.c".toList⟩)

/-- In a dry run a result can get into another file although no path is the one that is written for
another: a link leads from there to the other file, which is formatted by the time it is read.  And a
result can turn up on the way of another one, which then fails for another reason. -/
theorem result_through_link :
    (∀ p ∈ pathsInC, (treeInC linkAcross).canonical p = .ok p) ∧
    (pathsInC.Pairwise fun p q => p.same q = false) ∧
    (∀ p ∈ pathsInC, ∀ q ∈ pathsInC, (Job.acmeInC.target .format p).same q = false) ∧
    (∃ n pool, Runs Job.acmeInC .format (start [pathsInC] 1 .format (treeInC linkAcross)) n pool ∧
      pool.Ended Job.acmeInC .format ∧ pool.report.get? ⟨"/b.c".toList⟩ = some .noop) ∧
    (Job.acmeInC.result .format (treeInC linkAcross) ⟨"/b.c".toList⟩).1 = .added ∧
    (Job.acmeInC.run .format pathsInC (treeInC linkBehind)).1.get? ⟨"/b.c".toList⟩
      ≠ some (Job.acmeInC.result .format (treeInC linkBehind) ⟨"/b.c".toList⟩).1 := by
  refine ⟨?_, ?_, ?_, ?_, ?_, ?_⟩
  · simp only [pathsInC, List.forall_mem_cons]
    exact ⟨rfl, rfl, by simp⟩
  · decide +kernel
  · decide +kernel
  · obtain ⟨n, pool, hruns, hended, hrun⟩ :=
      exists_runs_sequence Job.acmeInC .format [pathsInC] 1 (treeInC linkAcross)
    refine ⟨n, pool, hruns, hended, ?_⟩
    have hreport : pool.report
        = (Job.acmeInC.run .format [pathsInC].flatten (treeInC linkAcross)).1 :=
      congrArg Prod.fst hrun
    rw [hreport]
    decide +kernel
  · decide +kernel
  · decide +kernel

end Pool

end LicenseHeader
