import LicenseHeader.Proofs.Style.Registry

/-!
# The order of definitions

The definitions of a style document are a table, which has no order of its own, and they are taken in
any order.  The styles that come out are the same in all orders exactly if no two definitions whose names
are written differently, but are the same in lower case, give different styles.

* `Style.Clashes`: two definitions that get in each other's way;
* `Style.exists_ofModels`: definitions that are accepted one by one are accepted in every order;
* `get?_ofModels_concat`: of several definitions with one name the last that is taken counts;
* `get?_ofModels_perm`: without a clash the order does not matter;
* `Registry.get?_merge_perm`: nor does the order in which styles are merged into a registry;
* `Style.ofModels_order_iff` is the result, and `Style.ofModels_order_matters` a document with a clash.
-/

namespace LicenseHeader

namespace Style

variable {models order : Keyed StyleModel} {styles : Keyed Style}

/-- Two definitions have the same name in lower case and give different styles. -/
def Clashes (d e : Text × StyleModel) : Prop :=
  d.1.lower = e.1.lower ∧ ofModel d.1 d.2 ≠ ofModel e.1 e.2

/-! ### Definitions in some order -/

/-- Definitions that are accepted one by one are accepted together.  Induction on the definitions. -/
theorem exists_ofModels (haccepted : ∀ e ∈ order, ∃ s, ofModel e.1 e.2 = .ok s) :
    ∃ styles, ofModels order = .ok styles := by
  rw [ofModels, ofModelsWith]
  generalize ([] : Keyed Style) = start
  induction order generalizing start with
  | nil => exact ⟨start, rfl⟩
  | cons e order ih =>
    obtain ⟨name, m⟩ := e
    obtain ⟨⟨s, hs⟩, hrest⟩ := List.forall_mem_cons.mp haccepted
    rw [List.foldlM_cons]
    dsimp only [ofModel] at hs ⊢
    rw [hs]
    exact ih hrest _

/-- The last definition is found under its name. -/
theorem get?_ofModels_concat {e : Text × StyleModel} {s : Style} (hs : ofModel e.1 e.2 = .ok s)
    (h : ofModels (order ++ [e]) = .ok styles) : styles.get? e.1.lower = some s := by
  rw [ofModels, ofModelsWith, List.foldlM_append] at h
  obtain ⟨before, -, h⟩ := exists_of_bind_eq_ok h
  obtain ⟨name, m⟩ := e
  rw [List.foldlM_cons] at h
  dsimp only [ofModel] at hs h ⊢
  rw [hs] at h
  obtain rfl : before.put s.id s = styles := Except.ok.inj h
  rw [Keyed.get?_put, (ofModelWith_eq_ok hs).1, if_pos rfl]

/-- Without a clash a definition is found under its name, wherever it stands. -/
theorem get?_ofModels_of_mem (hclash : ∀ d ∈ order, ∀ e ∈ order, ¬Clashes d e)
    (h : ofModels order = .ok styles) {e : Text × StyleModel} (he : e ∈ order) {s : Style}
    (hs : ofModel e.1 e.2 = .ok s) : styles.get? e.1.lower = some s := by
  rcases get?_foldlM h e.1.lower with ⟨d, hd, hname, t, ht, hfound⟩ | ⟨hnone, -⟩
  · have hsame : ofModel d.1 d.2 = ofModel e.1 e.2 :=
      not_not.mp fun hne => hclash d hd e he ⟨hname, hne⟩
    rw [hfound, Except.ok.inj (ht.symm.trans (hsame.trans hs))]
  · exact absurd rfl (hnone e he)

/-- **Without a clash the order does not matter.** -/
theorem get?_ofModels_perm {other : Keyed StyleModel} {styles' : Keyed Style} (hperm : order.Perm other)
    (hclash : ∀ d ∈ order, ∀ e ∈ order, ¬Clashes d e) (h : ofModels order = .ok styles)
    (h' : ofModels other = .ok styles') (key : Text) : styles.get? key = styles'.get? key := by
  rcases get?_foldlM h' key with ⟨e, he, rfl, s, hs, hfound⟩ | ⟨hnone', hfound'⟩
  · rw [hfound]
    exact get?_ofModels_of_mem hclash h (hperm.mem_iff.mpr he) hs
  · rcases get?_foldlM h key with ⟨d, hd, hname, -⟩ | ⟨-, hfound⟩
    · exact absurd hname (hnone' d (hperm.mem_iff.mp hd))
    · rw [hfound, hfound']

/-- A definition can be taken last. -/
theorem perm_erase_concat {e : Text × StyleModel} (he : e ∈ models) :
    (models.erase e ++ [e]).Perm models :=
  List.perm_append_comm.trans (List.perm_cons_erase he).symm

end Style

/-! ### Styles in some order -/

/-- **The order in which styles are merged does not matter** if they stand under their own names, each
once. -/
theorem Registry.get?_merge_perm (r : Registry) {models : Keyed StyleModel} {styles listed : Keyed Style}
    (h : Style.ofModels models = .ok styles) (hperm : listed.Perm styles) {name : Text}
    (hunknown : name.lower ≠ Style.unknownId) :
    (r.merge listed).get? name = (styles.get? name.lower).or (r.get? name) := by
  have hlower : ∀ e ∈ styles, e.1.lower = e.1 := by
    intro e he
    obtain ⟨hid, hsound⟩ := Style.isSound_of_ofModelsWith h he
    rw [hid]
    exact hsound.lower
  rcases get?_merge_cases r listed hunknown with ⟨e, he, hname, hfound⟩ | ⟨hnone, hsame⟩
  · have hmem := hperm.mem_iff.mp he
    rw [hfound, ← hname, hlower e hmem, (Style.isFunctional_of_ofModelsWith h).get?_eq hmem]
    rfl
  · rw [hsame]
    cases hget : styles.get? name.lower with
    | none => rfl
    | some s =>
      have hmem := Keyed.mem_of_get? hget
      exact absurd (hlower _ hmem) (hnone _ (hperm.mem_iff.mpr hmem))

namespace Style

variable {models : Keyed StyleModel}

/-- **The order of definitions.**  Let all definitions be accepted.  They give the same styles under the
same names in whatever two orders they are taken, and the same registry when these are merged into one in
whatever orders, exactly if no two of them clash. -/
theorem ofModels_order_iff (haccepted : ∀ e ∈ models, ∃ s, ofModel e.1 e.2 = .ok s) :
    (∀ one other : Keyed StyleModel, one.Perm models → other.Perm models →
      ∃ styles styles' : Keyed Style, ofModels one = .ok styles ∧ ofModels other = .ok styles' ∧
        (∀ key, styles.get? key = styles'.get? key) ∧
        ∀ (r : Registry) (listed listed' : Keyed Style), listed.Perm styles → listed'.Perm styles' →
          ∀ name, (r.merge listed).get? name = (r.merge listed').get? name) ↔
      ∀ d ∈ models, ∀ e ∈ models, ¬Clashes d e := by
  have hok : ∀ order : Keyed StyleModel, order.Perm models → ∃ styles, ofModels order = .ok styles :=
    fun order hperm => exists_ofModels fun e he => haccepted e (hperm.mem_iff.mp he)
  constructor
  · -- of two definitions with one name, each can be taken last
    rintro hsame d hd e he ⟨hname, hne⟩
    obtain ⟨s, hs⟩ := haccepted d hd
    obtain ⟨t, ht⟩ := haccepted e he
    obtain ⟨styles, styles', hone, hother, hget, -⟩ :=
      hsame _ _ (perm_erase_concat hd) (perm_erase_concat he)
    have hlast := get?_ofModels_concat hs hone
    rw [hget, hname, get?_ofModels_concat ht hother] at hlast
    rw [hs, ht, Option.some.inj hlast] at hne
    exact hne rfl
  · intro hclash one other hperm hperm'
    obtain ⟨styles, hone⟩ := hok one hperm
    obtain ⟨styles', hother⟩ := hok other hperm'
    have hget : ∀ key, styles.get? key = styles'.get? key := by
      refine get?_ofModels_perm (hperm.trans hperm'.symm) ?_ hone hother
      exact fun d hd e he => hclash d (hperm.mem_iff.mp hd) e (hperm.mem_iff.mp he)
    refine ⟨styles, styles', hone, hother, hget, ?_⟩
    intro r listed listed' hlisted hlisted' name
    by_cases hunknown : name.lower = unknownId
    · rw [Registry.get?_merge_unknown r listed hunknown, Registry.get?_merge_unknown r listed' hunknown]
    · rw [r.get?_merge_perm hone hlisted hunknown, r.get?_merge_perm hother hlisted' hunknown, hget]

theorem exists_ok_of_any {ε α : Type} {step : Except ε α} {p : α → Bool}
    (h : step.toOption.any p = true) : ∃ a, step = .ok a ∧ p a = true := by
  cases step with
  | error e => cases h
  | ok a => exact ⟨a, rfl, h⟩

/-- Two spellings of one name with one definition, and another name. -/
theorem ofModels_order_iff_dash :
    ∃ models : Keyed StyleModel,
      models.map Prod.fst = ["Dash".toList, "DASH".toList, "star".toList] ∧
      (∀ e ∈ models, ∃ s, ofModel e.1 e.2 = .ok s) ∧
      ∃ styles styles' : Keyed Style,
        ofModels models = .ok styles ∧ ofModels models.reverse = .ok styles' ∧
        ∀ key, styles.get? key = styles'.get? key := by
  let dash : StyleModel := { first := some ['-'], last := some ['-'] }
  let star : StyleModel := { first := some ['a'], last := some ['a'] }
  let models : Keyed StyleModel := [("Dash".toList, dash), ("DASH".toList, dash), ("star".toList, star)]
  have haccepted : ∀ e ∈ models, ∃ s, ofModel e.1 e.2 = .ok s := by
    have hall : ∀ e ∈ models, (ofModel e.1 e.2).toOption.any (fun _ => true) = true := by
      decide +kernel
    intro e he
    obtain ⟨s, hs, -⟩ := exists_ok_of_any (hall e he)
    exact ⟨s, hs⟩
  have hclash : ∀ d ∈ models, ∀ e ∈ models, ¬Clashes d e := by
    have hsame : ∀ d ∈ models, ∀ e ∈ models, d.1.lower = e.1.lower → d.2 = e.2 := by decide +kernel
    rintro d hd e he ⟨hname, hne⟩
    refine hne ?_
    rw [ofModel, ofModel, ofModelWith, ofModelWith, hname, hsame d hd e he hname]
  obtain ⟨styles, styles', hone, hother, hget, -⟩ := (ofModels_order_iff haccepted).mpr hclash
    models models.reverse (List.Perm.refl _) (List.reverse_perm _)
  exact ⟨models, rfl, haccepted, styles, styles', hone, hother, hget⟩

/-- A document that defines one name in two ways: the two orders of its definitions give two styles. -/
theorem ofModels_order_matters :
    ∃ d e : Text × StyleModel,
      StyleModel.readAll? ("[Dash]\nfirstLineDetectionPattern='a'\nlastLineDetectionPattern='a'\n" ++
        "[dash]\nfirstLineDetectionPattern='b'\nlastLineDetectionPattern='b'").toList = some [d, e] ∧
      ∃ (styles styles' : Keyed Style) (s t : Style),
        ofModels [d, e] = .ok styles ∧ ofModels [e, d] = .ok styles' ∧
        styles.get? "dash".toList = some t ∧ styles'.get? "dash".toList = some s ∧
        t.isFirstLine ['b'] = true ∧ s.isFirstLine ['b'] = false := by
  let d : Text × StyleModel := ("Dash".toList, { first := some ['a'], last := some ['a'] })
  let e : Text × StyleModel := ("dash".toList, { first := some ['b'], last := some ['b'] })
  obtain ⟨s, hs, hsfirst⟩ : ∃ s, ofModel d.1 d.2 = .ok s ∧ (!s.isFirstLine ['b']) = true :=
    exists_ok_of_any (by decide +kernel)
  obtain ⟨t, ht, htfirst⟩ : ∃ t, ofModel e.1 e.2 = .ok t ∧ t.isFirstLine ['b'] = true :=
    exists_ok_of_any (by decide +kernel)
  have hname : d.1.lower = "dash".toList ∧ e.1.lower = "dash".toList := by decide +kernel
  obtain ⟨styles, hstyles⟩ : ∃ styles, ofModels ([d] ++ [e]) = .ok styles :=
    exists_ofModels (by simp [hs, ht])
  obtain ⟨styles', hstyles'⟩ : ∃ styles', ofModels ([e] ++ [d]) = .ok styles' :=
    exists_ofModels (by simp [hs, ht])
  have hlast := get?_ofModels_concat ht hstyles
  have hlast' := get?_ofModels_concat hs hstyles'
  rw [hname.2] at hlast
  rw [hname.1] at hlast'
  exact ⟨d, e, by decide +kernel, styles, styles', s, t, hstyles, hstyles', hlast, hlast', htfirst,
    by simpa using hsfirst⟩

end Style

end LicenseHeader
