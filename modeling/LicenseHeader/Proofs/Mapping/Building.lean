import LicenseHeader.Mapping.Table
import LicenseHeader.Proofs.Style.Registry
import LicenseHeader.Proofs.Text.Order
import Mathlib.Data.List.Nodup

/-!
# Building a mapping table

Configured entries are added one by one.  The table that comes out knows the configured keys and, if
they are wanted, the built-in ones that are left.  It cannot be built if an entry has a style that is
not known, or another style than an earlier entry with the same key; then the first such entry is
reported.

* `MappingTable.Maps`: a configuration gives a key a style;
* `MappingTable.IsConsistent`: entries that can stand in one table;
* `MappingTable.Holds`: a table has exactly some entries;
* `addChecked_cases` and `foldlM_addChecked`: what one entry does and what all of them do;
* `build_exact` is the result.
-/

namespace LicenseHeader

theorem Registry.has_lower (r : Registry) (name : Text) : r.has name.lower = r.has name := by
  rw [has, has, get?, get?, Text.lower_lower]

namespace MappingTable

variable {t : MappingTable} {r : Registry} {before : List MappingEntry} {e : MappingEntry}

/-! ### Keys and styles -/

theorem get?_put (t : MappingTable) (key : MappingKey) (style : Text) (other : MappingKey) :
    (t.put key style).get? other = if other = key then some style else t.get? other := by
  cases key <;> cases other <;> simp [put, get?, Keyed.get?_put]

/-- A table has some entries, and no others. -/
def Holds (t : MappingTable) (entries : List MappingEntry) : Prop :=
  ∀ e : MappingEntry, t.get? e.key = some e.style ↔ e ∈ entries

/-- A table with one more entry, whose key is new. -/
theorem Holds.put (h : t.Holds before) (hnew : t.get? e.key = none) :
    (t.put e.key e.style).Holds (before ++ [e]) := by
  intro d
  rw [get?_put, List.mem_append, List.mem_singleton, ← h d]
  split
  next hkey =>
    rw [hkey, hnew, Option.some_inj]
    constructor
    · intro hstyle
      exact Or.inr (by cases d; cases e; simp_all)
    · rintro (hnone | rfl)
      · cases hnone
      · rfl
  next hkey =>
    refine ⟨Or.inl, ?_⟩
    rintro (hold | rfl)
    · exact hold
    · exact absurd rfl hkey

/-- An entry that the table has already changes nothing. -/
theorem Holds.again (h : t.Holds before) (hold : e ∈ before) : t.Holds (before ++ [e]) := by
  intro d
  rw [h d, List.mem_append, List.mem_singleton]
  refine ⟨Or.inl, ?_⟩
  rintro (hd | rfl)
  · exact hd
  · exact hold

/-! ### Configured entries -/

/-- Entries that can stand in one table: their styles are known, and no key has two styles. -/
structure IsConsistent (r : Registry) (entries : List MappingEntry) : Prop where
  known : ∀ e ∈ entries, r.has e.style = true
  agree : ∀ d ∈ entries, ∀ e ∈ entries, d.key = e.key → d.style = e.style

/-- The fault with which an entry is reported, given those before it.  It names the entry, and for a
conflict both styles that the key was given. -/
inductive Reports (r : Registry) (before : List MappingEntry) (e : MappingEntry) :
    ConfigError → Prop where
  | unknown : r.has e.style = false → Reports r before e (.unknownStyle e.style e.key.text)
  | conflict {first : MappingEntry} : r.has e.style = true → first ∈ before → first.key = e.key →
      first.style ≠ e.style →
      Reports r before e (.conflictingMapping e.key.text first.style e.style)

theorem isConsistent_nil (r : Registry) : IsConsistent r [] := ⟨by simp, by simp⟩

theorem IsConsistent.concat (h : IsConsistent r before) (hknown : r.has e.style = true)
    (hagree : ∀ d ∈ before, d.key = e.key → d.style = e.style) : IsConsistent r (before ++ [e]) where
  known d hd := by
    rcases List.mem_append.mp hd with hd | hd
    · exact h.known d hd
    · rw [List.mem_singleton.mp hd]
      exact hknown
  agree c hc d hd hkey := by
    rcases List.mem_append.mp hc with hc | hc <;> rcases List.mem_append.mp hd with hd | hd
    · exact h.agree c hc d hd hkey
    · rw [List.mem_singleton.mp hd] at hkey ⊢
      exact hagree c hc hkey
    · rw [List.mem_singleton.mp hc] at hkey ⊢
      exact (hagree d hd hkey.symm).symm
    · rw [List.mem_singleton.mp hc, List.mem_singleton.mp hd]

/-- An entry that is reported cannot stand in a table with those before it. -/
theorem Reports.not_isConsistent {fault : ConfigError} (h : Reports r before e fault)
    (after : List MappingEntry) : ¬IsConsistent r (before ++ e :: after) := by
  intro hall
  have he : e ∈ before ++ e :: after := List.mem_append_right _ List.mem_cons_self
  cases h with
  | unknown hunknown =>
    have hknown := hall.known e he
    rw [hunknown] at hknown
    cases hknown
  | conflict _ hfirst hkey hstyle =>
    exact hstyle (hall.agree _ (List.mem_append_left _ hfirst) e he hkey)

/-- **One more entry.**  It is added, or reported. -/
theorem addChecked_cases (ht : t.Holds before) (hbefore : IsConsistent r before)
    (e : MappingEntry) :
    (∃ t', t.addChecked r e = .ok t' ∧ t'.Holds (before ++ [e]) ∧ IsConsistent r (before ++ [e])) ∨
      ∃ fault, t.addChecked r e = .error fault ∧ Reports r before e fault := by
  unfold addChecked
  cases hknown : r.has e.style with
  | false => exact Or.inr ⟨_, if_neg Bool.false_ne_true, .unknown hknown⟩
  | true =>
    rw [if_pos rfl, addConfigured]
    cases hstyle : t.get? e.key with
    | none =>
      refine Or.inl ⟨_, rfl, ht.put hstyle, hbefore.concat hknown fun d hd hkey => ?_⟩
      have hold := (ht d).mpr hd
      rw [hkey, hstyle] at hold
      cases hold
    | some style =>
      have hfirst : (⟨e.key, style⟩ : MappingEntry) ∈ before := (ht _).mp hstyle
      dsimp only
      by_cases hsame : style = e.style
      · rw [if_pos hsame]
        subst hsame
        refine Or.inl ⟨t, rfl, ht.again hfirst, hbefore.concat hknown fun d hd hkey => ?_⟩
        exact hbefore.agree d hd _ hfirst hkey
      · rw [if_neg hsame]
        exact Or.inr ⟨_, rfl, .conflict hknown hfirst rfl hsame⟩

/-- **All entries.**  They are added, or the first one that cannot be added is reported. -/
theorem foldlM_addChecked (ht : t.Holds before) (hbefore : IsConsistent r before)
    (entries : List MappingEntry) :
    (∃ t', entries.foldlM (addChecked r) t = .ok t' ∧ t'.Holds (before ++ entries) ∧
        IsConsistent r (before ++ entries)) ∨
      ∃ fault front e after, entries.foldlM (addChecked r) t = .error fault ∧
        entries = front ++ e :: after ∧ IsConsistent r (before ++ front) ∧
        Reports r (before ++ front) e fault := by
  induction entries generalizing t before with
  | nil => exact Or.inl ⟨t, rfl, by rwa [List.append_nil], by rwa [List.append_nil]⟩
  | cons e entries ih =>
    rw [List.foldlM_cons]
    rcases addChecked_cases ht hbefore e with ⟨t', hadd, ht', hnext⟩ | ⟨fault, hadd, hreport⟩
    · rw [hadd]
      have happend : before ++ e :: entries = before ++ [e] ++ entries := by simp
      rw [happend]
      rcases ih ht' hnext with hok | ⟨fault, front, d, after, hfault, rfl, hfront, hreport⟩
      · exact Or.inl hok
      · refine Or.inr ⟨fault, e :: front, d, after, hfault, rfl, ?_, ?_⟩
        · rwa [List.append_assoc] at hfront
        · rwa [List.append_assoc] at hreport
    · rw [hadd]
      refine Or.inr ⟨fault, [], e, entries, rfl, rfl, ?_, ?_⟩
      · rwa [List.append_nil]
      · rwa [List.append_nil]

/-! ### Built-in entries -/

/-- The first built-in entry of a key counts, and only if the key has no style yet. -/
theorem get?_foldl_addBuiltin (entries : List MappingEntry) (t : MappingTable) (key : MappingKey) :
    (entries.foldl addBuiltin t).get? key =
      (t.get? key).or ((entries.find? (·.key = key)).map MappingEntry.style) := by
  induction entries generalizing t with
  | nil => simp
  | cons e entries ih =>
    rw [List.foldl_cons, ih, addBuiltin]
    cases hold : t.get? e.key with
    | some style =>
      rw [Option.isSome_some, if_pos rfl]
      by_cases hkey : e.key = key
      · rw [← hkey, hold, Option.some_or, Option.some_or]
      · rw [List.find?_cons_of_neg (by simpa using hkey)]
    | none =>
      rw [Option.isSome_none, if_neg Bool.false_ne_true, get?_put]
      by_cases hkey : e.key = key
      · rw [if_pos hkey.symm, List.find?_cons_of_pos (by simpa using hkey), ← hkey, hold]
        rfl
      · rw [if_neg (Ne.symm hkey), List.find?_cons_of_neg (by simpa using hkey)]

theorem nodup_builtinMapping : (builtinMapping.map MappingEntry.key).Nodup := by
  decide +kernel

/-- No built-in key stands twice, so the first entry of a key is the only one. -/
theorem find?_builtinMapping (key : MappingKey) (style : Text) :
    (builtinMapping.find? (·.key = key)).map MappingEntry.style = some style ↔
      ⟨key, style⟩ ∈ builtinMapping := by
  constructor
  · intro h
    obtain ⟨e, he, rfl⟩ := Option.map_eq_some_iff.mp h
    have hkey : e.key = key := by simpa using List.find?_some he
    rw [← hkey]
    exact List.mem_of_find?_eq_some he
  · intro h
    cases hfind : builtinMapping.find? (·.key = key) with
    | none =>
      have hnone := List.find?_eq_none.mp hfind _ h
      simp at hnone
    | some e =>
      have hkey : e.key = key := by simpa using List.find?_some hfind
      have hsame : e = ⟨key, style⟩ :=
        List.inj_on_of_nodup_map nodup_builtinMapping (List.mem_of_find?_eq_some hfind) h hkey
      rw [hsame]
      rfl

/-! ### The table of a configuration -/

/-- The entries of the configured groups, in the order in which they are added. -/
def configured (groups : Keyed MappingGroup) : List MappingEntry :=
  groups.sorted.flatMap fun g => MappingEntry.ofGroup g.1 g.2

/-- A group gives a key to its style: one of its extensions, without the dots in front, or one of its
file names, all in lower case. -/
def Maps (groups : Keyed MappingGroup) (key : MappingKey) (style : Text) : Prop :=
  ∃ g ∈ groups, style = g.1.lower ∧
    ((∃ ext ∈ g.2.extensions, key = .extension (Text.lower (ext.dropWhile (· == '.')))) ∨
      ∃ name ∈ g.2.fileNames, key = .fileName name.lower)

theorem mem_ofGroup_iff {style : Text} {g : MappingGroup} :
    e ∈ MappingEntry.ofGroup style g ↔ e.style = style.lower ∧
      ((∃ ext ∈ g.extensions, e.key = .extension (Text.lower (ext.dropWhile (· == '.')))) ∨
        ∃ name ∈ g.fileNames, e.key = .fileName name.lower) := by
  obtain ⟨key, own⟩ := e
  rw [MappingEntry.ofGroup, List.mem_append, List.mem_map, List.mem_map]
  simp only [MappingEntry.ofExtension, MappingEntry.ofFileName, MappingEntry.mk.injEq]
  constructor
  · rintro (⟨ext, hext, rfl, rfl⟩ | ⟨name, hname, rfl, rfl⟩)
    · exact ⟨rfl, Or.inl ⟨ext, hext, rfl⟩⟩
    · exact ⟨rfl, Or.inr ⟨name, hname, rfl⟩⟩
  · rintro ⟨rfl, ⟨ext, hext, rfl⟩ | ⟨name, hname, rfl⟩⟩
    · exact Or.inl ⟨ext, hext, rfl, rfl⟩
    · exact Or.inr ⟨name, hname, rfl, rfl⟩

theorem mem_configured_iff {groups : Keyed MappingGroup} :
    e ∈ configured groups ↔ Maps groups e.key e.style := by
  rw [configured, List.mem_flatMap]
  simp only [Keyed.mem_sorted_iff, mem_ofGroup_iff, Maps]

/-- The configured entries are consistent if the style of every group that has an entry is known and
no key is given two styles. -/
theorem isConsistent_configured_iff {groups : Keyed MappingGroup} :
    IsConsistent r (configured groups) ↔
      (∀ g ∈ groups, g.2.extensions ≠ [] ∨ g.2.fileNames ≠ [] → r.has g.1 = true) ∧
        ∀ key style other, Maps groups key style → Maps groups key other → style = other := by
  constructor
  · intro h
    refine ⟨fun g hg hentry => ?_, fun key style other hstyle hother => ?_⟩
    · have hknown : ∀ key, Maps groups key g.1.lower → r.has g.1 = true := by
        intro key hmaps
        rw [← r.has_lower]
        exact h.known ⟨key, g.1.lower⟩ (mem_configured_iff.mpr hmaps)
      rcases hentry with hext | hname
      · obtain ⟨ext, hmem⟩ := List.exists_mem_of_ne_nil _ hext
        exact hknown _ ⟨g, hg, rfl, Or.inl ⟨ext, hmem, rfl⟩⟩
      · obtain ⟨name, hmem⟩ := List.exists_mem_of_ne_nil _ hname
        exact hknown _ ⟨g, hg, rfl, Or.inr ⟨name, hmem, rfl⟩⟩
    · exact h.agree ⟨key, style⟩ (mem_configured_iff.mpr hstyle) ⟨key, other⟩
        (mem_configured_iff.mpr hother) rfl
  · rintro ⟨hknown, hagree⟩
    refine ⟨fun e he => ?_, fun d hd e he hkey => ?_⟩
    · obtain ⟨g, hg, hstyle, hkeys⟩ := mem_configured_iff.mp he
      rw [hstyle, r.has_lower]
      refine hknown g hg (hkeys.imp ?_ ?_)
      · rintro ⟨ext, hext, -⟩
        exact List.ne_nil_of_mem hext
      · rintro ⟨name, hname, -⟩
        exact List.ne_nil_of_mem hname
    · refine hagree e.key d.style e.style ?_ (mem_configured_iff.mp he)
      rw [← hkey]
      exact mem_configured_iff.mp hd

theorem build_eq (groups : Keyed MappingGroup) (useBuiltin : Bool) (r : Registry) :
    build groups useBuiltin r = (configured groups).foldlM (addChecked r) {} >>= fun t =>
      pure (if useBuiltin then builtinMapping.foldl addBuiltin t else t) := rfl

theorem build_cases (groups : Keyed MappingGroup) (useBuiltin : Bool) (r : Registry) :
    (∃ t, build groups useBuiltin r =
          .ok (if useBuiltin then builtinMapping.foldl addBuiltin t else t) ∧
        t.Holds (configured groups) ∧ IsConsistent r (configured groups)) ∨
      ∃ fault before e after, build groups useBuiltin r = .error fault ∧
        configured groups = before ++ e :: after ∧ IsConsistent r before ∧
        Reports r before e fault := by
  have hempty : ({} : MappingTable).Holds [] := by
    rintro ⟨key, style⟩
    cases key <;> simp [get?]
  rw [build_eq]
  rcases foldlM_addChecked hempty (isConsistent_nil r) (configured groups) with
    ⟨t, hfold, ht, hall⟩ | ⟨fault, front, e, after, hfold, hsplit, hfront, hreport⟩
  · rw [hfold]
    exact Or.inl ⟨t, rfl, ht, hall⟩
  · rw [hfold]
    exact Or.inr ⟨fault, front, e, after, rfl, hsplit, hfront, hreport⟩

/-- What is in a table with the built-in entries, or without them. -/
theorem get?_withBuiltin {groups : Keyed MappingGroup} (ht : t.Holds (configured groups))
    (useBuiltin : Bool) (key : MappingKey) (style : Text) :
    (if useBuiltin then builtinMapping.foldl addBuiltin t else t).get? key = some style ↔
      Maps groups key style ∨
        (∀ other, ¬Maps groups key other) ∧ useBuiltin = true ∧ ⟨key, style⟩ ∈ builtinMapping := by
  have hmaps : ∀ style, t.get? key = some style ↔ Maps groups key style := fun style =>
    (ht ⟨key, style⟩).trans mem_configured_iff
  have hnone : t.get? key = none ↔ ∀ other, ¬Maps groups key other := by
    rw [Option.eq_none_iff_forall_ne_some]
    exact forall_congr' fun other => not_congr (hmaps other)
  rw [← hmaps, ← hnone]
  cases useBuiltin with
  | false => simp
  | true =>
    rw [if_pos rfl, get?_foldl_addBuiltin, Option.or_eq_some_iff, find?_builtinMapping]
    simp

/-- **Building a table is exact.**  Whatever is configured, and whichever styles are known:

* a table comes out if and only if the style of every group with an entry is known and no two entries
  give one key different styles;
* a key in it has the configured style, or else the built-in one if these are wanted;
* otherwise the first entry that cannot be added to those before it is reported, the groups being taken
  in ascending order of their styles. -/
theorem build_exact (groups : Keyed MappingGroup) (useBuiltin : Bool) (r : Registry) :
    ((∃ t, build groups useBuiltin r = .ok t) ↔
      (∀ g ∈ groups, g.2.extensions ≠ [] ∨ g.2.fileNames ≠ [] → r.has g.1 = true) ∧
        ∀ key style other, Maps groups key style → Maps groups key other → style = other) ∧
    (∀ t, build groups useBuiltin r = .ok t → ∀ key style, t.get? key = some style ↔
      Maps groups key style ∨
        (∀ other, ¬Maps groups key other) ∧ useBuiltin = true ∧ ⟨key, style⟩ ∈ builtinMapping) ∧
    (∀ fault, build groups useBuiltin r = .error fault →
      ∃ before e after, configured groups = before ++ e :: after ∧ IsConsistent r before ∧
        Reports r before e fault) ∧
    groups.sorted.Perm groups ∧
    groups.sorted.Pairwise fun a b => Text.compare a.1 b.1 ≠ .gt := by
  rw [← isConsistent_configured_iff]
  refine ⟨?_, ?_, ?_, Keyed.sorted_perm groups, Keyed.sorted_ascending groups⟩
  · rcases build_cases groups useBuiltin r with
      ⟨t, hbuild, -, hall⟩ | ⟨fault, before, e, after, hbuild, hsplit, -, hreport⟩
    · exact iff_of_true ⟨_, hbuild⟩ hall
    · refine iff_of_false ?_ ?_
      · rintro ⟨t, ht⟩
        rw [hbuild] at ht
        cases ht
      · rw [hsplit]
        exact hreport.not_isConsistent after
  · intro t hok
    rcases build_cases groups useBuiltin r with ⟨start, hbuild, hstart, -⟩ | ⟨_, _, _, _, hbuild, -⟩
    · rw [hbuild] at hok
      rw [← Except.ok.inj hok]
      exact get?_withBuiltin hstart useBuiltin
    · rw [hbuild] at hok
      cases hok
  · intro fault herror
    rcases build_cases groups useBuiltin r with
      ⟨t, hbuild, -⟩ | ⟨other, before, e, after, hbuild, hsplit, hbefore, hreport⟩
    · rw [hbuild] at herror
      cases herror
    · rw [hbuild] at herror
      rw [← Except.error.inj herror]
      exact ⟨before, e, after, hsplit, hbefore, hreport⟩

end MappingTable

end LicenseHeader
