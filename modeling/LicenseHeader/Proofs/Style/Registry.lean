import LicenseHeader.Proofs.Text.Case
import LicenseHeader.Style.Registry
import Mathlib.Data.List.Nodup

/-!
# What registries keep

A registry grows by style documents that are merged into it.  Whatever they define, the style of files
that have none stays as it was, every other style is stored under its own name, and of the documents
that define a name the last one counts.  It does not matter how definitions are read from a document or
regular expressions from their written form, nor in which order the styles of a document are merged.

* `StyleDocument`: a text that was accepted, with its styles in some order;
* `Style.IsSound`: what the check of a definition gives;
* `get?_add`, `get?_merge_cases`: where a name is found after one more style or one more document;
* `Registry.IsSound` is kept by every document;
* `mergeAll_keeps`: all of it, for any number of documents.
-/

namespace LicenseHeader

/-- A style document that was accepted.  Its styles are merged in some order. -/
structure StyleDocument (parse : Text → Option (Keyed StyleModel)) (compile : Text → Option Regex) where
  name : Path
  text : Text
  found : Keyed Style
  accepted : Style.readAllWith parse compile name text = .ok found
  styles : Keyed Style
  reordered : styles.Perm found

namespace StyleDocument

variable {parse : Text → Option (Keyed StyleModel)} {compile : Text → Option Regex}

/-- A document defines a style under a name, in any case. -/
def Defines (d : StyleDocument parse compile) (name : Text) (s : Style) : Prop :=
  ∃ models, parse d.text = some models ∧
    ∃ e ∈ models, e.1.lower = name.lower ∧ Style.ofModelWith compile e.1 e.2 = .ok s

/-- A document has a definition with a name, in any case. -/
def Names (d : StyleDocument parse compile) (name : Text) : Prop :=
  ∃ models, parse d.text = some models ∧ ∃ e ∈ models, e.1.lower = name.lower

end StyleDocument

/-! ### Definitions that are accepted -/

namespace Keyed

variable {α : Type} {entries : Keyed α} {key : Text} {value : α}

theorem eq_of_mem_put {e : Text × α} (h : e ∈ put entries key value) :
    e ∈ entries ∨ e = (key, value) := by
  induction entries with
  | nil => exact Or.inr (List.mem_singleton.mp h)
  | cons entry rest ih =>
    obtain ⟨k, v⟩ := entry
    rw [put] at h
    split at h
    next hkey =>
      rcases List.mem_cons.mp h with rfl | h
      · exact Or.inr (by rw [hkey])
      · exact Or.inl (List.mem_cons_of_mem _ h)
    next =>
      rcases List.mem_cons.mp h with rfl | h
      · exact Or.inl List.mem_cons_self
      · exact (ih h).imp_left (List.mem_cons_of_mem _)

/-- No key stands twice. -/
def IsFunctional (entries : Keyed α) : Prop := (entries.map (·.1)).Nodup

theorem IsFunctional.get?_eq (h : entries.IsFunctional) (hmem : (key, value) ∈ entries) :
    entries.get? key = some value := by
  induction entries with
  | nil => cases hmem
  | cons entry rest ih =>
    obtain ⟨hnew, hrest⟩ := List.nodup_cons.mp h
    rw [get?]
    rcases List.mem_cons.mp hmem with rfl | hmem
    · exact if_pos rfl
    · have hkey : entry.1 ≠ key := by
        rintro rfl
        exact hnew (List.mem_map.mpr ⟨_, hmem, rfl⟩)
      rw [if_neg hkey]
      exact ih hrest hmem

theorem IsFunctional.put (h : entries.IsFunctional) : (entries.put key value).IsFunctional := by
  induction entries with
  | nil => simp [IsFunctional, Keyed.put]
  | cons entry rest ih =>
    obtain ⟨hnew, hrest⟩ := List.nodup_cons.mp h
    rw [Keyed.put]
    split
    next => exact h
    next hkey =>
      refine List.nodup_cons.mpr ⟨?_, ih hrest⟩
      intro hmem
      obtain ⟨e, he, heq⟩ := List.mem_map.mp hmem
      rcases eq_of_mem_put he with he | rfl
      · exact hnew (heq ▸ List.mem_map_of_mem he)
      · exact hkey heq.symm

end Keyed

/-- What each step of a fold keeps holds at its end, if no step fails. -/
theorem keeps_of_foldlM {ε α β : Type} {step : α → β → Except ε α} {keeps : α → Prop} {xs : List β}
    (hstep : ∀ a, ∀ x ∈ xs, ∀ b, keeps a → step a x = .ok b → keeps b) {start result : α}
    (hstart : keeps start) (h : xs.foldlM step start = .ok result) : keeps result := by
  induction xs generalizing start with
  | nil =>
    rw [List.foldlM_nil] at h
    rw [← Except.ok.inj h]
    exact hstart
  | cons x xs ih =>
    rw [List.foldlM_cons] at h
    cases hx : step start x with
    | error e => simp [hx, bind, Except.bind] at h
    | ok b =>
      rw [hx] at h
      exact ih (fun a y hy => hstep a y (List.mem_cons_of_mem _ hy))
        (hstep start x List.mem_cons_self b hstart hx) h

theorem exists_of_bind_eq_ok {ε α β : Type} {step : Except ε α} {next : α → Except ε β} {b : β}
    (h : step >>= next = .ok b) : ∃ a, step = .ok a ∧ next a = .ok b := by
  cases step with
  | error e => cases h
  | ok a => exact ⟨a, rfl, h⟩

namespace Style

/-- What holds of a style whose definition is accepted. -/
structure IsSound (s : Style) : Prop where
  lower : s.id.lower = s.id
  first : s.first.isSome = true
  last : s.last.isSome = true
  blanks : s.allowsBlank = true → s.isBlock = true

variable {compile : Text → Option Regex} {models : Keyed StyleModel} {styles : Keyed Style}

theorem compilePattern_isSome {id : Text} {pattern : Option Text} {p : Option LinePattern}
    (h : compilePattern compile id pattern = .ok p) : p.isSome = pattern.isSome := by
  cases pattern with
  | none =>
    rw [compilePattern] at h
    rw [← Except.ok.inj h]
    rfl
  | some source =>
    rw [compilePattern] at h
    split at h
    · rw [← Except.ok.inj h]
      rfl
    · cases h

/-- **An accepted definition.**  The style has the name in lower case, both detection patterns, and blank
lines only in a block. -/
theorem ofModelWith_eq_ok {name : Text} {m : StyleModel} {s : Style}
    (h : ofModelWith compile name m = .ok s) : s.id = name.lower ∧ s.IsSound := by
  rw [ofModelWith] at h
  by_cases hblanks : m.allowsBlank ∧ ¬m.isBlock
  · rw [if_pos hblanks] at h
    cases h
  rw [if_neg hblanks] at h
  by_cases hmissing : m.first.isNone ∨ m.last.isNone
  · rw [if_pos hmissing] at h
    cases h
  rw [if_neg hmissing] at h
  obtain ⟨skip, -, h⟩ := exists_of_bind_eq_ok h
  obtain ⟨first, hfirst, h⟩ := exists_of_bind_eq_ok h
  obtain ⟨last, hlast, h⟩ := exists_of_bind_eq_ok h
  obtain rfl := Except.ok.inj h
  rw [not_or, Bool.not_eq_true, Bool.not_eq_true, Option.isNone_eq_false_iff,
    Option.isNone_eq_false_iff] at hmissing
  refine ⟨rfl, Text.lower_lower name, ?_, ?_, ?_⟩
  · rw [compilePattern_isSome hfirst, hmissing.1]
  · rw [compilePattern_isSome hlast, hmissing.2]
  · intro hallows
    exact not_not.mp fun hblock => hblanks ⟨hallows, hblock⟩

/-- What is found among the styles of accepted definitions: each stands under its own name and comes from
a definition, and the name of each definition is there.  Induction on the definitions. -/
theorem get?_foldlM {start : Keyed Style}
    (h : models.foldlM
      (fun styles (name, m) => do
        let s ← ofModelWith compile name m
        return styles.put s.id s) start = .ok styles) (key : Text) :
    (∃ e ∈ models, e.1.lower = key ∧
      ∃ s, ofModelWith compile e.1 e.2 = .ok s ∧ styles.get? key = some s) ∨
      (∀ e ∈ models, e.1.lower ≠ key) ∧ styles.get? key = start.get? key := by
  induction models generalizing start with
  | nil =>
    rw [List.foldlM_nil] at h
    rw [← Except.ok.inj h]
    exact Or.inr ⟨by simp, rfl⟩
  | cons e models ih =>
    rw [List.foldlM_cons] at h
    obtain ⟨next, hnext, h⟩ := exists_of_bind_eq_ok h
    obtain ⟨s, hs, hnext⟩ := exists_of_bind_eq_ok hnext
    obtain rfl := Except.ok.inj hnext
    rcases ih h with ⟨d, hd, hkey, hfound⟩ | ⟨hnone, hsame⟩
    · exact Or.inl ⟨d, List.mem_cons_of_mem _ hd, hkey, hfound⟩
    · rw [Keyed.get?_put, (ofModelWith_eq_ok hs).1] at hsame
      by_cases hkey : key = e.1.lower
      · rw [if_pos hkey] at hsame
        exact Or.inl ⟨e, List.mem_cons_self, hkey.symm, s, hs, hsame⟩
      · rw [if_neg hkey] at hsame
        exact Or.inr ⟨List.forall_mem_cons.mpr ⟨Ne.symm hkey, hnone⟩, hsame⟩

/-- The styles of accepted definitions stand under their own names, and each comes from a definition. -/
theorem mem_of_ofModelsWith (h : ofModelsWith compile models = .ok styles) : ∀ e ∈ styles,
    e.1 = e.2.id ∧ ∃ d ∈ models, ofModelWith compile d.1 d.2 = .ok e.2 := by
  refine @keeps_of_foldlM _ _ _ _
    (fun found => ∀ e ∈ found, e.1 = e.2.id ∧ ∃ d ∈ models, ofModelWith compile d.1 d.2 = .ok e.2)
    models ?_ [] styles (by simp) h
  intro found d hd next hfound hnext e he
  obtain ⟨s, hs, hnext⟩ := exists_of_bind_eq_ok hnext
  rw [← Except.ok.inj hnext] at he
  rcases Keyed.eq_of_mem_put he with he | rfl
  · exact hfound e he
  · exact ⟨rfl, d, hd, hs⟩

theorem isSound_of_ofModelsWith (h : ofModelsWith compile models = .ok styles) {e : Text × Style}
    (he : e ∈ styles) : e.1 = e.2.id ∧ e.2.IsSound := by
  obtain ⟨hid, d, -, hd⟩ := mem_of_ofModelsWith h e he
  exact ⟨hid, (ofModelWith_eq_ok hd).2⟩

theorem isFunctional_of_ofModelsWith (h : ofModelsWith compile models = .ok styles) :
    styles.IsFunctional := by
  refine @keeps_of_foldlM _ _ _ _ Keyed.IsFunctional models ?_ [] styles List.nodup_nil h
  intro found d hd next hfound hnext
  obtain ⟨s, hs, hnext⟩ := exists_of_bind_eq_ok hnext
  rw [← Except.ok.inj hnext]
  exact hfound.put

end Style

namespace StyleDocument

variable {parse : Text → Option (Keyed StyleModel)} {compile : Text → Option Regex}
  {d : StyleDocument parse compile}

/-- The definitions of a document, all of which are accepted. -/
theorem exists_models (d : StyleDocument parse compile) :
    ∃ models, parse d.text = some models ∧ Style.ofModelsWith compile models = .ok d.found := by
  have haccepted := d.accepted
  rw [Style.readAllWith] at haccepted
  split at haccepted
  next models hmodels => exact ⟨models, hmodels, haccepted⟩
  next => cases haccepted

/-- A style of a document is a sound one under its own name. -/
theorem isSound_of_mem {e : Text × Style} (he : e ∈ d.styles) : e.1 = e.2.id ∧ e.2.IsSound := by
  obtain ⟨models, -, hstyles⟩ := d.exists_models
  exact Style.isSound_of_ofModelsWith hstyles (d.reordered.mem_iff.mp he)

theorem isFunctional_styles (d : StyleDocument parse compile) : d.styles.IsFunctional := by
  obtain ⟨models, -, hstyles⟩ := d.exists_models
  exact (d.reordered.map Prod.fst).nodup_iff.mpr (Style.isFunctional_of_ofModelsWith hstyles)

theorem get?_of_mem {e : Text × Style} (he : e ∈ d.styles) : d.styles.get? e.1.lower = some e.2 := by
  obtain ⟨hid, hsound⟩ := isSound_of_mem he
  rw [hid, hsound.lower, ← hid]
  exact d.isFunctional_styles.get?_eq he

/-- The styles of a document are what it defines. -/
theorem defines_of_mem {e : Text × Style} (he : e ∈ d.styles) : d.Defines e.1 e.2 := by
  obtain ⟨models, hmodels, hstyles⟩ := d.exists_models
  obtain ⟨hid, model, hmem, hmodel⟩ :=
    Style.mem_of_ofModelsWith hstyles e (d.reordered.mem_iff.mp he)
  refine ⟨models, hmodels, model, hmem, ?_, hmodel⟩
  rw [hid, (Style.ofModelWith_eq_ok hmodel).1, Text.lower_lower]

/-- Every name that a document defines is among its styles. -/
theorem exists_of_names {name : Text} (h : d.Names name) : ∃ s, (name.lower, s) ∈ d.styles := by
  obtain ⟨models, hmodels, hstyles⟩ := d.exists_models
  obtain ⟨models', hmodels', e, he, hlower⟩ := h
  obtain rfl : models' = models := Option.some.inj (hmodels'.symm.trans hmodels)
  rcases Style.get?_foldlM hstyles name.lower with ⟨-, -, -, s, -, hs⟩ | ⟨hnone, -⟩
  · exact ⟨s, d.reordered.mem_iff.mpr (Keyed.mem_of_get? hs)⟩
  · exact absurd hlower (hnone e he)

theorem exists_of_accepted (name : Path) (text : Text)
    (h : (Style.readAllWith parse compile name text).toBool = true) :
    ∃ d : StyleDocument parse compile, d.text = text := by
  cases hread : Style.readAllWith parse compile name text with
  | error e =>
    rw [hread] at h
    cases h
  | ok styles => exact ⟨⟨name, text, styles, hread, styles, List.Perm.refl _⟩, rfl⟩

end StyleDocument

/-! ### Registries -/

namespace Registry

variable {parse : Text → Option (Keyed StyleModel)} {compile : Text → Option Regex}

/-- The registry with some documents merged into it, one after the other. -/
def mergeAll (r : Registry) (documents : List (StyleDocument parse compile)) : Registry :=
  documents.foldl (fun r d => r.merge d.styles) r

/-- Where a name is found after one more style. -/
theorem get?_add (r : Registry) (key : Text) (s : Style) (name : Text) :
    (r.add key s).get? name =
      if name.lower = key.lower ∧ name.lower ≠ Style.unknownId then some s else r.get? name := by
  rw [add]
  by_cases hkey : key.lower = Style.unknownId
  · rw [if_pos hkey, if_neg]
    rintro ⟨hsame, hne⟩
    exact hne (hsame.trans hkey)
  · rw [if_neg hkey, get?, get?, Keyed.get?_put]
    by_cases hsame : name.lower = key.lower
    · rw [if_pos hsame, if_pos ⟨hsame, hsame ▸ hkey⟩]
    · rw [if_neg hsame, if_neg fun h => hsame h.1]

/-- No style is ever put under the name of the style of files that have none. -/
theorem get?_merge_unknown (r : Registry) (styles : Keyed Style) {name : Text}
    (h : name.lower = Style.unknownId) : (r.merge styles).get? name = r.get? name := by
  induction styles generalizing r with
  | nil => rfl
  | cons e styles ih =>
    have hadd : (r.add e.1 e.2).get? name = r.get? name := by
      rw [get?_add, if_neg fun hkey => hkey.2 h]
    exact (ih (r.add e.1 e.2)).trans hadd

/-- **Where a name is found after one more document.**  Induction on its styles. -/
theorem get?_merge_cases (r : Registry) (styles : Keyed Style) {name : Text}
    (hunknown : name.lower ≠ Style.unknownId) :
    (∃ e ∈ styles, e.1.lower = name.lower ∧ (r.merge styles).get? name = some e.2) ∨
      (∀ e ∈ styles, e.1.lower ≠ name.lower) ∧ (r.merge styles).get? name = r.get? name := by
  induction styles generalizing r with
  | nil => exact Or.inr ⟨by simp, rfl⟩
  | cons e styles ih =>
    rcases ih (r.add e.1 e.2) with ⟨d, hd, hkey, hfound⟩ | ⟨hnone, hsame⟩
    · exact Or.inl ⟨d, List.mem_cons_of_mem _ hd, hkey, hfound⟩
    · rw [get?_add] at hsame
      by_cases hkey : name.lower = e.1.lower
      · rw [if_pos ⟨hkey, hunknown⟩] at hsame
        exact Or.inl ⟨e, List.mem_cons_self, hkey.symm, hsame⟩
      · rw [if_neg fun h => hkey h.1] at hsame
        exact Or.inr ⟨List.forall_mem_cons.mpr ⟨Ne.symm hkey, hnone⟩, hsame⟩

/-- A registry that has the style of files that have none under its name, and every other style under
its own, each once. -/
structure IsSound (r : Registry) : Prop where
  unknown : r.styles.get? Style.unknownId = some Style.unknown
  entries : ∀ e ∈ r.styles, e = (Style.unknownId, Style.unknown) ∨
    e.1 = e.2.id ∧ e.2.isUnknown = false ∧ e.2.IsSound
  functional : r.styles.IsFunctional

theorem isSound_empty : empty.IsSound :=
  ⟨rfl, by simp [empty], by simp [empty, Keyed.IsFunctional]⟩

/-- One more sound style under its own name. -/
theorem IsSound.add {r : Registry} (hr : r.IsSound) {s : Style} (hs : s.IsSound) :
    (r.add s.id s).IsSound := by
  rw [Registry.add, hs.lower]
  split
  next => exact hr
  next hknown =>
    refine ⟨?_, ?_, hr.functional.put⟩
    · rw [Keyed.get?_put, if_neg (Ne.symm hknown)]
      exact hr.unknown
    · intro e he
      rcases Keyed.eq_of_mem_put he with he | rfl
      · exact hr.entries e he
      · exact Or.inr ⟨rfl, decide_eq_false hknown, hs⟩

/-- **Merging keeps a registry sound.**  Induction on the styles. -/
theorem IsSound.merge {r : Registry} (hr : r.IsSound) {styles : Keyed Style}
    (hstyles : ∀ e ∈ styles, e.1 = e.2.id ∧ e.2.IsSound) : (r.merge styles).IsSound := by
  induction styles generalizing r with
  | nil => exact hr
  | cons e styles ih =>
    obtain ⟨⟨hid, hsound⟩, hrest⟩ := List.forall_mem_cons.mp hstyles
    have hadd : (r.add e.1 e.2).IsSound := by
      rw [hid]
      exact hr.add hsound
    exact ih hadd hrest

theorem isSound_builtinWith {r : Registry} (h : builtinWith compile = .ok r) : r.IsSound := by
  rw [builtinWith] at h
  cases hstyles : Style.ofModelsWith compile builtinModels with
  | error e =>
    rw [hstyles] at h
    cases h
  | ok styles =>
    rw [hstyles] at h
    obtain rfl := Except.ok.inj h
    exact isSound_empty.merge fun e he => Style.isSound_of_ofModelsWith hstyles he

theorem IsSound.mergeAll {r : Registry} (hr : r.IsSound)
    (documents : List (StyleDocument parse compile)) : (r.mergeAll documents).IsSound := by
  induction documents generalizing r with
  | nil => exact hr
  | cons d documents ih => exact ih (hr.merge fun _ he => StyleDocument.isSound_of_mem he)

/-- A document without a name leaves it as it was. -/
theorem get?_merge_of_not_names {r : Registry} {d : StyleDocument parse compile} {name : Text}
    (h : ¬d.Names name) : (r.merge d.styles).get? name = r.get? name := by
  by_cases hunknown : name.lower = Style.unknownId
  · exact get?_merge_unknown r d.styles hunknown
  · rcases get?_merge_cases r d.styles hunknown with ⟨e, he, hkey, -⟩ | ⟨-, hsame⟩
    · obtain ⟨models, hmodels, m, hm, hlower, -⟩ := StyleDocument.defines_of_mem he
      exact absurd ⟨models, hmodels, m, hm, hlower.trans hkey⟩ h
    · exact hsame

theorem get?_mergeAll_of_not_names {r : Registry} {documents : List (StyleDocument parse compile)}
    {name : Text} (h : ∀ d ∈ documents, ¬d.Names name) :
    (r.mergeAll documents).get? name = r.get? name := by
  induction documents generalizing r with
  | nil => rfl
  | cons d documents ih =>
    obtain ⟨hd, hrest⟩ := List.forall_mem_cons.mp h
    exact (ih hrest).trans (get?_merge_of_not_names hd)

/-- A document with a name gives its style. -/
theorem get?_merge_of_names {r : Registry} {d : StyleDocument parse compile} {name : Text}
    (hunknown : name.lower ≠ Style.unknownId) (h : d.Names name) :
    ∃ s, (r.merge d.styles).get? name = some s ∧ d.styles.get? name.lower = some s ∧
      d.Defines name s := by
  rcases get?_merge_cases r d.styles hunknown with ⟨e, he, hkey, hfound⟩ | ⟨hnone, -⟩
  · have hown := StyleDocument.get?_of_mem he
    rw [hkey] at hown
    obtain ⟨models, hmodels, m, hm, hlower, hmodel⟩ := StyleDocument.defines_of_mem he
    exact ⟨e.2, hfound, hown, models, hmodels, m, hm, hlower.trans hkey, hmodel⟩
  · obtain ⟨s, hs⟩ := StyleDocument.exists_of_names h
    exact absurd (Text.lower_lower name) (hnone _ hs)

theorem mergeAll_append (r : Registry) (before after : List (StyleDocument parse compile)) :
    r.mergeAll (before ++ after) = (r.mergeAll before).mergeAll after :=
  List.foldl_append

/-- **What a registry keeps through any number of documents**, however definitions and regular
expressions are read.  It starts with the style of files that have none alone, or with the built-in
styles.  The style of files that have none stays as it is, and is found under its name in any case.
Every other style stands under its own name in lower case, with both detection patterns and with blank
lines only in a block; no name stands twice.  A name gives the style of the last document that defines
it, and what it gave before if none does. -/
theorem mergeAll_keeps {parse : Text → Option (Keyed StyleModel)} {compile : Text → Option Regex}
    {start : Registry} (hstart : start = empty ∨ builtinWith compile = .ok start)
    (documents : List (StyleDocument parse compile)) :
    (∀ name : Text, name.lower = Style.unknownId →
      (start.mergeAll documents).get? name = some Style.unknown) ∧
    (start.mergeAll documents).unknown = Style.unknown ∧
    (∀ e ∈ (start.mergeAll documents).styles, e = (Style.unknownId, Style.unknown) ∨
      e.1 = e.2.id ∧ e.2.isUnknown = false ∧ e.2.IsSound) ∧
    (start.mergeAll documents).styles.IsFunctional ∧
    (∀ (before after : List (StyleDocument parse compile)) (d : StyleDocument parse compile)
        (name : Text),
      documents = before ++ d :: after → name.lower ≠ Style.unknownId → d.Names name →
      (∀ other ∈ after, ¬other.Names name) →
      ∃ s, (start.mergeAll documents).get? name = some s ∧ d.styles.get? name.lower = some s ∧
        d.Defines name s) ∧
    (∀ name : Text, (∀ d ∈ documents, ¬d.Names name) →
      (start.mergeAll documents).get? name = start.get? name) := by
  have hsound : start.IsSound := by
    rcases hstart with rfl | hbuiltin
    · exact isSound_empty
    · exact isSound_builtinWith hbuiltin
  have hmerged := hsound.mergeAll documents
  refine ⟨?_, ?_, hmerged.entries, hmerged.functional, ?_, fun name => get?_mergeAll_of_not_names⟩
  · intro name hname
    rw [get?, hname]
    exact hmerged.unknown
  · rw [unknown, hmerged.unknown]
    rfl
  · intro before after d name hdocuments hunknown hnames hafter
    obtain ⟨s, hs, hdefines⟩ := get?_merge_of_names (r := start.mergeAll before) hunknown hnames
    refine ⟨s, ?_, hdefines⟩
    rw [hdocuments, mergeAll_append]
    exact (get?_mergeAll_of_not_names hafter).trans hs

/-- Two documents that write one name in two ways, the second one with a definition for the style of
files that have none as well. -/
theorem mergeAll_keeps_dash :
    ∃ d₁ d₂ : StyleDocument StyleModel.readAll? Regex.read?,
      d₁.text = "[Dash]\nfirstLineDetectionPattern='a'\nlastLineDetectionPattern='a'".toList ∧
      d₂.text = ("[DASH]\nfirstLineDetectionPattern='b'\nlastLineDetectionPattern='b'\n" ++
        "[Unknown]\nfirstLineDetectionPattern='b'\nlastLineDetectionPattern='b'").toList ∧
      (empty.mergeAll [d₁, d₂]).get? "UNKNOWN".toList = some Style.unknown ∧
      (empty.mergeAll [d₁, d₂]).unknown = Style.unknown ∧
      ∃ s, (empty.mergeAll [d₁, d₂]).get? "dasH".toList = some s ∧
        d₂.styles.get? "dash".toList = some s ∧ d₂.Defines "dasH".toList s := by
  obtain ⟨d₁, h₁⟩ := @StyleDocument.exists_of_accepted StyleModel.readAll? Regex.read? ⟨[]⟩
    "[Dash]\nfirstLineDetectionPattern='a'\nlastLineDetectionPattern='a'".toList
    (by decide +kernel)
  obtain ⟨d₂, h₂⟩ := @StyleDocument.exists_of_accepted StyleModel.readAll? Regex.read? ⟨[]⟩
    ("[DASH]\nfirstLineDetectionPattern='b'\nlastLineDetectionPattern='b'\n" ++
      "[Unknown]\nfirstLineDetectionPattern='b'\nlastLineDetectionPattern='b'").toList
    (by decide +kernel)
  obtain ⟨hunknown, hown, -, -, hlast, -⟩ :=
    mergeAll_keeps (Or.inl rfl) [d₁, d₂]
  have hnames : d₂.Names "dasH".toList := by
    rw [StyleDocument.Names, h₂]
    exact ⟨[("DASH".toList, { first := some ['b'], last := some ['b'] }),
      ("Unknown".toList, { first := some ['b'], last := some ['b'] })], by decide +kernel, _,
      List.mem_cons_self, by decide +kernel⟩
  exact ⟨d₁, d₂, h₁, h₂, hunknown _ (by decide +kernel), hown,
    hlast [d₁] [] d₂ _ rfl (by decide +kernel) hnames (by simp)⟩

end Registry

end LicenseHeader
