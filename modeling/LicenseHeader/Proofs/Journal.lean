import LicenseHeader.Journal

/-!
# Results without their notes

The notes of a journal are never read by what comes after them, so they can be left out when results are
compared.

* `Journal.Gives`: a computation has a result, whatever was noted before it;
* `Journal.IsSteady`: it has some result in this sense;
* `Gives.bind` puts such computations together, and `exists_of_bind` takes them apart.
-/

namespace LicenseHeader.Journal

variable {α β : Type} {j : Journal α} {next : α → Journal β}

/-- A computation gives a result, whatever was noted before. -/
def Gives (j : Journal α) (result : Except Failure α) : Prop :=
  ∀ notes, (j.run.run notes).1 = result

/-- A computation that gives one and the same result. -/
def IsSteady (j : Journal α) : Prop := ∃ result, j.Gives result

theorem run_bind (j : Journal α) (next : α → Journal β) (notes : List Note) :
    (j >>= next).run.run notes =
      match j.run.run notes with
      | (.ok a, more) => (next a).run.run more
      | (.error f, more) => (.error f, more) := by
  rw [ExceptT.run_bind, StateT.run_bind]
  cases j.run.run notes with
  | mk result more => cases result <;> rfl

theorem gives_pure (a : α) : (pure a : Journal α).Gives (.ok a) := fun _ => rfl

theorem gives_throw (f : Failure) : (throw f : Journal α).Gives (.error f) := fun _ => rfl

theorem gives_note (n : Note) : (note n).Gives (.ok ()) := fun _ => rfl

theorem Gives.bind {a : α} {result : Except Failure β} (hj : j.Gives (.ok a))
    (hnext : (next a).Gives result) : (j >>= next).Gives result := by
  intro notes
  have hfirst := hj notes
  rw [run_bind]
  cases hrun : j.run.run notes with
  | mk value more =>
    rw [hrun] at hfirst
    rw [show value = .ok a from hfirst]
    exact hnext more

theorem Gives.bind_error {f : Failure} (hj : j.Gives (.error f)) :
    (j >>= next).Gives (.error f) := by
  intro notes
  have hfirst := hj notes
  rw [run_bind]
  cases hrun : j.run.run notes with
  | mk value more =>
    rw [hrun] at hfirst
    rw [show value = .error f from hfirst]

theorem IsSteady.bind (hj : j.IsSteady) (hnext : ∀ a, (next a).IsSteady) :
    (j >>= next).IsSteady := by
  obtain ⟨result, hresult⟩ := hj
  cases result with
  | ok a =>
    obtain ⟨value, hvalue⟩ := hnext a
    exact ⟨value, hresult.bind hvalue⟩
  | error f => exact ⟨_, hresult.bind_error⟩

theorem IsSteady.gives_of_run (hj : j.IsSteady) {notes : List Note} {result : Except Failure α}
    (h : (j.run.run notes).1 = result) : j.Gives result := by
  obtain ⟨value, hvalue⟩ := hj
  rw [← h, hvalue notes]
  exact hvalue

/-- A computation that succeeds has gone through its first part. -/
theorem exists_of_bind (hj : j.IsSteady) {notes : List Note} {b : β}
    (h : ((j >>= next).run.run notes).1 = .ok b) :
    ∃ a, j.Gives (.ok a) ∧ ∃ more, ((next a).run.run more).1 = .ok b := by
  rw [run_bind] at h
  cases hrun : j.run.run notes with
  | mk value more =>
    rw [hrun] at h
    cases value with
    | ok a => exact ⟨a, hj.gives_of_run (by rw [hrun]), more, h⟩
    | error f => cases h

theorem gives_ofExcept (result : Except Failure α) : (ofExcept result).Gives result := by
  cases result with
  | ok a => exact gives_pure a
  | error f => exact gives_throw f

theorem gives_ofConfig_ok {a : α} : (ofConfig (.ok a)).Gives (.ok a) := gives_pure a

theorem isSteady_ofConfig (e : Except ConfigError α) : (ofConfig e).IsSteady := by
  cases e with
  | ok a => exact ⟨_, gives_pure a⟩
  | error f => exact ⟨_, gives_throw _⟩

theorem eq_ok_of_gives_ofConfig {e : Except ConfigError α} {a : α}
    (h : (ofConfig e).Gives (.ok a)) : e = .ok a := by
  cases e with
  | ok b => exact congrArg _ (Except.ok.inj (h []))
  | error f => cases h []

theorem run_during (j : Journal α) (context : Text) (notes : List Note) :
    (j.during context).run.run notes =
      ((j.run.run notes).1.mapError (·.during context), (j.run.run notes).2) := by
  have hcatch : j.during context = ExceptT.tryCatch j fun f => throw (f.during context) := rfl
  have hrun : StateT.run j notes = j.run.run notes := rfl
  rw [hcatch, ExceptT.tryCatch, ExceptT.run_mk, StateT.run_bind, hrun]
  cases j.run.run notes with
  | mk result more => cases result <;> rfl

/-- A computation that is part of something else gives the same, up to the wording of its failure. -/
theorem Gives.during {result : Except Failure α} (hj : j.Gives result) (context : Text) :
    (j.during context).Gives (result.mapError (·.during context)) := by
  intro notes
  rw [run_during, hj notes]

theorem IsSteady.gives_of_during (hj : j.IsSteady) {context : Text} {a : α}
    (h : (j.during context).Gives (.ok a)) : j.Gives (.ok a) := by
  obtain ⟨result, hresult⟩ := hj
  have hsame := (hresult.during context []).symm.trans (h [])
  cases result with
  | ok b =>
    obtain rfl := Except.ok.inj hsame
    exact hresult
  | error f => cases hsame

theorem IsSteady.during (hj : j.IsSteady) (context : Text) : (j.during context).IsSteady := by
  obtain ⟨result, hresult⟩ := hj
  exact ⟨_, hresult.during context⟩

theorem IsSteady.foldlM {step : β → α → Journal β} (hstep : ∀ b a, (step b a).IsSteady) (xs : List α)
    (start : β) : (xs.foldlM step start).IsSteady := by
  induction xs generalizing start with
  | nil => exact ⟨_, gives_pure start⟩
  | cons x xs ih =>
    rw [List.foldlM_cons]
    exact (hstep start x).bind ih

end LicenseHeader.Journal
