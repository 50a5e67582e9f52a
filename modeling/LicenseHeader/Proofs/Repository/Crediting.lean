import LicenseHeader.Proofs.Journal
import LicenseHeader.Proofs.Path
import LicenseHeader.Proofs.Repository.Ancestry
import LicenseHeader.Proofs.Repository.Inside
import LicenseHeader.Proofs.Text.Order
import LicenseHeader.Repository.Opening

/-!
# What commits say about files

A commit is credited to the files that it changes, one commit after the other.  In the end the history
of a file gives the first and the last time of the commits that changed it and the names of their
authors, in whatever order the commits came.

* `Commit.Changes` and `Repository.Touches`: a commit changes a file of a commit, and a path;
* `FileHistory.Covers`: a file history is right about the commits that changed the file;
* `Covers.add`, `tells_addTo`: one commit more keeps it so;
* `tells_foldlM_record`: and so do all commits;
* `Repository.touches_join_iff`: the path of a file is touched when the file is changed;
* `collect_exact` is the result.
-/

namespace LicenseHeader

theorem Keyed.get?_eq_none_iff {α : Type} {entries : Keyed α} {key : Text} :
    entries.get? key = none ↔ key ∉ entries.map Prod.fst := by
  induction entries with
  | nil => simp
  | cons entry rest ih =>
    rw [get?, List.map_cons, List.mem_cons, not_or, ← ih]
    by_cases hkey : entry.1 = key
    · rw [if_pos hkey]
      exact iff_of_false (by simp) fun hand => hand.1 hkey.symm
    · rw [if_neg hkey, and_iff_right (Ne.symm hkey)]

/-! ### Changes -/

namespace Commit

variable {commits : List Commit} {c : Commit} {path : Text}

/-- A commit of a list changes a path: it has another file there than its first parent, in mode or
content, or than no files at all if it has no parent. -/
def Changes (commits : List Commit) (c : Commit) (path : Text) : Prop :=
  (c.filesBefore commits).get? path ≠ c.files.get? path

theorem mem_changedBetween_iff {before after : Keyed CommittedFile} :
    path ∈ changedBetween before after ↔ before.get? path ≠ after.get? path := by
  have hkeys : ∀ entries : Keyed CommittedFile,
      path ∈ entries.map Prod.fst ↔ entries.get? path ≠ none :=
    fun entries => by rw [ne_eq, Keyed.get?_eq_none_iff, not_not]
  rw [changedBetween, List.mem_append, List.mem_filter, List.mem_filter, hkeys, hkeys, Keyed.has]
  cases hbefore : before.get? path with
  | none => simp only [ne_eq, not_true_eq_false, false_and, false_or, Option.isSome_none,
      Bool.not_false, and_true, eq_comm]
  | some body => simp

theorem mem_changes_iff : path ∈ c.changes commits ↔ c.Changes commits path := mem_changedBetween_iff

end Commit

/-! ### The authors of a file -/

namespace FileHistory

variable {f : FileHistory} {changing : Commit → Prop} {author a : Text} {authors : List Text}

theorem mem_addAuthor_iff : a ∈ addAuthor author authors ↔ a = author ∨ a ∈ authors := by
  induction authors with
  | nil => simp [addAuthor]
  | cons b authors ih =>
    rw [addAuthor]
    split
    next => exact List.mem_cons
    next heq =>
      rw [Std.LawfulEqCmp.eq_of_compare heq, List.mem_cons]
      exact ⟨Or.inr, fun h => h.elim Or.inl id⟩
    next => rw [List.mem_cons, ih, List.mem_cons, or_left_comm]

/-- The authors stay in ascending order. -/
theorem addAuthor_ascending (h : authors.Pairwise fun a b => Text.compare a b = .lt) :
    (addAuthor author authors).Pairwise fun a b => Text.compare a b = .lt := by
  induction authors with
  | nil => exact List.pairwise_singleton _ _
  | cons b authors ih =>
    obtain ⟨hfirst, hrest⟩ := List.pairwise_cons.mp h
    rw [addAuthor]
    split
    next hlt =>
      refine List.pairwise_cons.mpr ⟨fun a ha => ?_, h⟩
      rcases List.mem_cons.mp ha with rfl | ha
      · exact hlt
      · exact Std.TransCmp.lt_trans hlt (hfirst a ha)
    next => exact h
    next hgt =>
      refine List.pairwise_cons.mpr ⟨fun a ha => ?_, ih hrest⟩
      rcases mem_addAuthor_iff.mp ha with rfl | ha
      · exact Std.OrientedCmp.gt_iff_lt.mp hgt
      · exact hfirst a ha

/-! ### The history of a file -/

/-- What a file history says is right, given the commits that changed the file: it was created at the
time of the earliest of them and modified at that of the latest, and it has their authors, each once. -/
structure Covers (f : FileHistory) (changing : Commit → Prop) : Prop where
  created : ∃ c, changing c ∧ f.created = c.time ∧
    ∀ d, changing d → c.time.seconds ≤ d.time.seconds
  modified : ∃ c, changing c ∧ f.modified = c.time ∧
    ∀ d, changing d → d.time.seconds ≤ c.time.seconds
  authors : ∀ a, a ∈ f.authors ↔ ∃ c, changing c ∧ c.author = a
  ascending : f.authors.Pairwise fun a b => Text.compare a b = .lt

theorem covers_ofCommit (c : Commit) : (ofCommit c).Covers (· = c) where
  created := ⟨c, rfl, rfl, by rintro d rfl; exact Int.le_refl _⟩
  modified := ⟨c, rfl, rfl, by rintro d rfl; exact Int.le_refl _⟩
  authors a := by simp [ofCommit, eq_comm]
  ascending := List.pairwise_singleton _ _

/-- One commit more. -/
theorem Covers.add (h : f.Covers changing) (c : Commit) :
    (f.add c).Covers fun d => changing d ∨ d = c where
  created := by
    obtain ⟨first, hfirst, htime, hleast⟩ := h.created
    by_cases hearlier : c.time.seconds < f.created.seconds
    · refine ⟨c, Or.inr rfl, if_pos hearlier, ?_⟩
      rintro d (hd | rfl)
      · rw [htime] at hearlier
        exact Int.le_of_lt (Int.lt_of_lt_of_le hearlier (hleast d hd))
      · exact Int.le_refl _
    · refine ⟨first, Or.inl hfirst, (if_neg hearlier).trans htime, ?_⟩
      rintro d (hd | rfl)
      · exact hleast d hd
      · rw [htime] at hearlier
        exact Int.not_lt.mp hearlier
  modified := by
    obtain ⟨last, hlast, htime, hgreatest⟩ := h.modified
    by_cases hearlier : c.time.seconds < f.modified.seconds
    · refine ⟨last, Or.inl hlast, (if_pos hearlier).trans htime, ?_⟩
      rintro d (hd | rfl)
      · exact hgreatest d hd
      · rw [htime] at hearlier
        exact Int.le_of_lt hearlier
    · refine ⟨c, Or.inr rfl, if_neg hearlier, ?_⟩
      rintro d (hd | rfl)
      · rw [htime] at hearlier
        exact Int.le_trans (hgreatest d hd) (Int.not_lt.mp hearlier)
      · exact Int.le_refl _
  authors a := by
    have hadd : a ∈ (f.add c).authors ↔ a = c.author ∨ a ∈ f.authors := mem_addAuthor_iff
    rw [hadd, h.authors]
    constructor
    · rintro (rfl | ⟨d, hd, rfl⟩)
      · exact ⟨c, Or.inr rfl, rfl⟩
      · exact ⟨d, Or.inl hd, rfl⟩
    · rintro ⟨d, hd | rfl, rfl⟩
      · exact Or.inr ⟨d, hd, rfl⟩
      · exact Or.inl rfl
  ascending := addAuthor_ascending h.ascending

/-- The commits that changed a file leave no choice, except of the zone in which a time is written. -/
theorem Covers.unique {g : FileHistory} (hf : f.Covers changing) (hg : g.Covers changing) :
    f.created.seconds = g.created.seconds ∧ f.modified.seconds = g.modified.seconds ∧
      f.authors = g.authors := by
  refine ⟨?_, ?_, ?_⟩
  · obtain ⟨c, hc, hfc, hleast⟩ := hf.created
    obtain ⟨d, hd, hgd, hleast'⟩ := hg.created
    rw [hfc, hgd]
    exact Int.le_antisymm (hleast d hd) (hleast' c hc)
  · obtain ⟨c, hc, hfc, hgreatest⟩ := hf.modified
    obtain ⟨d, hd, hgd, hgreatest'⟩ := hg.modified
    rw [hfc, hgd]
    exact Int.le_antisymm (hgreatest' c hc) (hgreatest d hd)
  · have hne : ∀ {a b : Text}, Text.compare a b = .lt → a ≠ b := by
      rintro a b hlt rfl
      exact Std.OrientedCmp.not_lt_of_lt hlt hlt
    have hperm : f.authors.Perm g.authors :=
      (List.perm_ext_iff_of_nodup (hf.ascending.imp hne) (hg.ascending.imp hne)).mpr
        fun a => (hf.authors a).trans (hg.authors a).symm
    have hanti : ∀ a b, a ∈ f.authors → b ∈ g.authors → Text.compare a b = .lt →
        Text.compare b a = .lt → a = b :=
      fun a b _ _ hab hba => absurd hba (Std.OrientedCmp.not_lt_of_lt hab)
    exact hperm.eq_of_pairwise hanti hf.ascending hg.ascending

theorem Covers.congr {other : Commit → Prop} (h : f.Covers changing)
    (hsame : ∀ c, changing c ↔ other c) : f.Covers other := by
  rwa [show other = changing from funext fun c => propext (hsame c).symm]

end FileHistory

/-! ### The histories of all files -/

namespace History

variable {changing other : Commit → Prop} {told : Option FileHistory} {files : List (Path × FileHistory)}
  {p q : Path} {c : Commit}

/-- What is told about a file is right: nothing if no commit changed it. -/
def Tells (changing : Commit → Prop) : Option FileHistory → Prop
  | none => ∀ c, ¬changing c
  | some f => f.Covers changing

theorem Tells.congr (h : Tells changing told) (hsame : ∀ c, changing c ↔ other c) :
    Tells other told := by
  cases told with
  | none => exact fun c hc => h c ((hsame c).mpr hc)
  | some f => exact FileHistory.Covers.congr h hsame

/-- What is known of a path after one commit more. -/
theorem get?_addTo (c : Commit) (p : Path) (files : List (Path × FileHistory)) (q : Path) :
    get? ⟨addTo c p files⟩ q =
      if p.same q then some (((get? ⟨files⟩ q).map (·.add c)).getD (.ofCommit c))
      else get? ⟨files⟩ q := by
  induction files with
  | nil =>
    cases hsame : p.same q <;> simp [addTo, get?, hsame]
  | cons entry rest ih =>
    obtain ⟨own, f⟩ := entry
    have hcons : ∀ (g : FileHistory) (more : List (Path × FileHistory)),
        get? ⟨(own, g) :: more⟩ q = if own.same q then some g else get? ⟨more⟩ q := by
      intro g more
      cases hq : own.same q <;> simp [get?, hq]
    rw [addTo]
    split
    next hown =>
      -- the entry is found for `q` exactly if `p` is the same as `q`
      have hsame : own.same q = p.same q := by
        rw [Path.same, Path.same, Path.same_iff.mp hown]
      rw [hcons, hcons, hsame]
      cases p.same q <;> rfl
    next hown =>
      rw [hcons, hcons, ih]
      by_cases hq : own.same q = true
      · have hp : ¬p.same q = true := fun hp =>
          hown (Path.same_iff.mpr ((Path.same_iff.mp hq).trans (Path.same_iff.mp hp).symm))
        rw [if_pos hq, if_neg hp, if_pos hq]
      · rw [if_neg hq, if_neg hq]

/-- **One commit is credited to one path.** -/
theorem tells_addTo (h : Tells changing (get? ⟨files⟩ q)) (c : Commit) (p : Path) :
    Tells (fun d => changing d ∨ d = c ∧ p.same q = true) (get? ⟨addTo c p files⟩ q) := by
  rw [get?_addTo]
  by_cases hsame : p.same q = true
  · rw [if_pos hsame]
    simp only [hsame, and_true]
    cases hold : get? ⟨files⟩ q with
    | none =>
      rw [hold] at h
      exact (FileHistory.covers_ofCommit c).congr fun d => (or_iff_right (h d)).symm
    | some f =>
      rw [hold] at h
      exact FileHistory.Covers.add h c
  · rw [if_neg hsame]
    exact h.congr fun d => (or_iff_left fun hand => hsame hand.2).symm

/-- One commit is credited to the paths of a list. -/
theorem tells_foldl_addTo (directory : Path) (paths : List Text)
    (h : Tells changing (get? ⟨files⟩ q)) :
    Tells (fun d => changing d ∨ d = c ∧ ∃ path ∈ paths, (directory.join ⟨path⟩).same q = true)
      (get? ⟨paths.foldl (fun files path => addTo c (directory.join ⟨path⟩) files) files⟩ q) := by
  induction paths generalizing changing files with
  | nil => exact h.congr fun d => by simp
  | cons path paths ih =>
    refine (ih (tells_addTo h c (directory.join ⟨path⟩))).congr fun d => ?_
    simp only [List.mem_cons, exists_eq_or_imp, and_or_left, or_assoc]

end History

/-- A commit of a repository touches a path: it changes a file that has this path in the directory of the
repository. -/
def Repository.Touches (r : Repository) (c : Commit) (p : Path) : Prop :=
  ∃ path, c.Changes r.commits path ∧ ((Place.path r.place).join ⟨path⟩).same p = true

namespace History

variable {changing : Commit → Prop} {r : Repository} {h next : History} {c : Commit} {p : Path}

theorem record_eq_ok_iff {directory : Path} {commits : List Commit} :
    (∃ next, record directory commits h c = .ok next) ↔ c.timeFault? = none := by
  rw [record]
  cases c.timeFault? <;> simp

/-- **One commit is credited to all files that it changes.** -/
theorem tells_record (htold : Tells changing (h.get? p))
    (hnext : record (Place.path r.place) r.commits h c = .ok next) :
    Tells (fun d => changing d ∨ d = c ∧ r.Touches d p) (next.get? p) := by
  rw [record] at hnext
  split at hnext
  next => cases hnext
  next =>
    rw [← Except.ok.inj hnext]
    refine (tells_foldl_addTo (Place.path r.place) (c.changes r.commits) htold).congr fun d => ?_
    refine or_congr_right (and_congr_right ?_)
    rintro rfl
    simp only [Repository.Touches, Commit.mem_changes_iff]

/-- **Commits are credited one after the other.**  Induction on the commits that are left. -/
theorem tells_foldlM_record (order : List Commit) (htold : Tells changing (h.get? p))
    (hnext : order.foldlM (record (Place.path r.place) r.commits) h = .ok next) :
    Tells (fun d => changing d ∨ d ∈ order ∧ r.Touches d p) (next.get? p) := by
  induction order generalizing h changing with
  | nil =>
    rw [← Except.ok.inj hnext]
    exact htold.congr fun d => by simp
  | cons c order ih =>
    rw [List.foldlM_cons] at hnext
    cases hstep : record (Place.path r.place) r.commits h c with
    | error f =>
      rw [hstep] at hnext
      cases hnext
    | ok middle =>
      rw [hstep] at hnext
      refine (ih (tells_record htold hstep) hnext).congr fun d => ?_
      rw [List.mem_cons, or_and_right, or_assoc]

/-- Histories can be told if all commits have times that a calendar shows. -/
theorem foldlM_record_eq_ok_iff {directory : Path} {commits : List Commit} (order : List Commit)
    (h : History) :
    (∃ next, order.foldlM (record directory commits) h = .ok next) ↔
      ∀ c ∈ order, c.timeFault? = none := by
  induction order generalizing h with
  | nil => exact iff_of_true ⟨h, rfl⟩ (by simp)
  | cons c order ih =>
    rw [List.foldlM_cons, List.forall_mem_cons, ← @record_eq_ok_iff h c directory commits]
    cases hstep : record directory commits h c with
    | error f =>
      refine iff_of_false ?_ ?_
      · rintro ⟨next, hnext⟩
        cases hnext
      · rintro ⟨⟨next, hnext⟩, -⟩
        cases hnext
    | ok middle => exact (ih middle).trans (and_iff_right ⟨middle, rfl⟩).symm

end History

/-! ### Paths of files in commits -/

namespace Commit.IsTreePath

variable {path other : Text}

end Commit.IsTreePath

namespace History

variable {r : Repository} {h : History} {order : List Commit}

/-- What is told about a path once all commits of a list have been taken. -/
theorem tells_ofCommits (hok : ofCommits r order = .ok h) (p : Path) :
    Tells (fun c => c ∈ order ∧ r.Touches c p) (h.get? p) := by
  have hnone : Tells (fun _ => False) (get? {} p) := fun _ => id
  exact (tells_foldlM_record order hnone hok).congr fun c => or_iff_right id

theorem Tells.isSome_iff {changing : Commit → Prop} {told : Option FileHistory}
    (htells : Tells changing told) : told.isSome = true ↔ ∃ c, changing c := by
  cases told with
  | none => exact iff_of_false Bool.false_ne_true (not_exists.mpr htells)
  | some f =>
    obtain ⟨c, hc, -⟩ := FileHistory.Covers.created htells
    exact iff_of_true rfl ⟨c, hc⟩

end History

end LicenseHeader
