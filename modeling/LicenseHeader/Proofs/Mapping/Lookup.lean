import LicenseHeader.Proofs.Mapping.Building

/-!
# Looking up a file name

A table does not try its entries one by one.  It looks up the whole name and then what follows each dot
of it, from the first dot on.  The entry that is found is the one that the entries themselves ask for:
an entry for the whole name, or else the entry with the longest extension that the name ends in.

* `MappingTable.entries`: what stands in a table, as entries;
* `MappingTable.Decides`: the entry that the style of a name comes from;
* `mem_suffixes_iff`, `suffixes_shrink`: the texts that are looked up, in their order;
* `resolve?_decided` is the result.
-/

namespace LicenseHeader

namespace MappingTable

variable {t : MappingTable} {r : Registry} {name ext style : Text}

/-! ### The entries of a table -/

/-- The entries of a table. -/
def entries (t : MappingTable) : List MappingEntry :=
  t.fileNames.map (fun e => ⟨.fileName e.1, e.2⟩) ++ t.extensions.map fun e => ⟨.extension e.1, e.2⟩

/-- No key stands twice in a table. -/
structure IsFunctional (t : MappingTable) : Prop where
  fileNames : Keyed.IsFunctional t.fileNames
  extensions : Keyed.IsFunctional t.extensions

theorem IsFunctional.put (h : t.IsFunctional) (key : MappingKey) (style : Text) :
    (t.put key style).IsFunctional := by
  cases key with
  | extension ext => exact ⟨h.fileNames, h.extensions.put⟩
  | fileName name => exact ⟨h.fileNames.put, h.extensions⟩

theorem IsFunctional.addChecked {e : MappingEntry} {t' : MappingTable} (h : t.IsFunctional)
    (hadd : t.addChecked r e = .ok t') : t'.IsFunctional := by
  unfold MappingTable.addChecked at hadd
  split at hadd
  · unfold addConfigured at hadd
    split at hadd
    · rw [← Except.ok.inj hadd]
      exact h.put e.key e.style
    · split at hadd
      · rw [← Except.ok.inj hadd]
        exact h
      · cases hadd
  · cases hadd

theorem IsFunctional.foldl_addBuiltin (h : t.IsFunctional) (entries : List MappingEntry) :
    (entries.foldl addBuiltin t).IsFunctional := by
  refine List.foldlRecOn entries addBuiltin h fun next hnext e _ => ?_
  unfold addBuiltin
  split
  · exact hnext
  · exact hnext.put e.key e.style

/-- No key stands twice in a table that was built. -/
theorem isFunctional_build {groups : Keyed MappingGroup} {useBuiltin : Bool}
    (h : build groups useBuiltin r = .ok t) : t.IsFunctional := by
  obtain ⟨start, hfold, hrest⟩ := exists_of_bind_eq_ok h
  have hempty : ({} : MappingTable).IsFunctional := ⟨List.nodup_nil, List.nodup_nil⟩
  have hstart : start.IsFunctional :=
    keeps_of_foldlM (fun _ _ _ _ hkeeps hadd => hkeeps.addChecked hadd) hempty hfold
  rw [← Except.ok.inj hrest]
  split
  · exact hstart.foldl_addBuiltin builtinMapping
  · exact hstart

theorem mem_entries_fileName (h : t.IsFunctional) :
    ⟨.fileName name, style⟩ ∈ t.entries ↔ t.fileNames.get? name = some style := by
  have hmem : ⟨.fileName name, style⟩ ∈ t.entries ↔ (name, style) ∈ t.fileNames := by
    simp [entries]
  rw [hmem]
  exact ⟨h.fileNames.get?_eq, Keyed.mem_of_get?⟩

theorem mem_entries_extension (h : t.IsFunctional) :
    ⟨.extension ext, style⟩ ∈ t.entries ↔ t.extensions.get? ext = some style := by
  have hmem : ⟨.extension ext, style⟩ ∈ t.entries ↔ (ext, style) ∈ t.extensions := by
    simp [entries]
  rw [hmem]
  exact ⟨h.extensions.get?_eq, Keyed.mem_of_get?⟩

/-! ### What is looked up -/

/-- What follows a dot of a text is what the text ends in after a dot. -/
theorem mem_suffixes_iff : ext ∈ suffixes name ↔ '.' :: ext <:+ name := by
  induction name with
  | nil => simp [suffixes]
  | cons c name ih =>
    rw [suffixes, List.suffix_cons_iff, ← ih]
    by_cases hc : c = '.'
    · rw [if_pos hc, List.mem_cons, hc, List.cons_inj_right]
    · rw [if_neg hc, or_iff_right]
      intro heq
      exact hc (List.cons.inj heq).1.symm

theorem length_lt_of_mem_suffixes (h : ext ∈ suffixes name) : ext.length < name.length :=
  (mem_suffixes_iff.mp h).length_le

/-- The texts that are looked up get shorter. -/
theorem suffixes_shrink (name : Text) : (suffixes name).Pairwise fun a b => b.length < a.length := by
  induction name with
  | nil => exact List.Pairwise.nil
  | cons c name ih =>
    rw [suffixes]
    split
    · exact List.Pairwise.cons (fun ext hext => length_lt_of_mem_suffixes hext) ih
    · exact ih

/-- An entry for an extension is about the names that end in a dot and the extension. -/
theorem resolve?_extension_iff {found : Text} :
    (MappingEntry.mk (.extension ext) style).resolve? name = some found ↔
      '.' :: ext <:+ name ∧ found = style := by
  rw [MappingEntry.resolve?]
  dsimp only
  split
  next h => rw [and_iff_right (List.isSuffixOf_iff_suffix.mp h), Option.some_inj, eq_comm]
  next h => exact iff_of_false (by simp) fun hand => h (List.isSuffixOf_iff_suffix.mpr hand.1)

/-- An extension that is found is the longest one of the table that the name ends in. -/
theorem findSome?_suffixes_iff {found : Text} :
    (suffixes name).findSome? t.extensions.get? = some found ↔
      ∃ ext, '.' :: ext <:+ name ∧ t.extensions.get? ext = some found ∧
        ∀ other, '.' :: other <:+ name → t.extensions.get? other ≠ none → other ≠ ext →
          other.length < ext.length := by
  have hshrink := suffixes_shrink name
  constructor
  · intro h
    obtain ⟨longer, ext, shorter, hsplit, hext, hlonger⟩ := List.findSome?_eq_some_iff.mp h
    have hmem : ext ∈ suffixes name := by simp [hsplit]
    refine ⟨ext, mem_suffixes_iff.mp hmem, hext, fun other hother hstyle hne => ?_⟩
    -- a longer text was looked up before and has no style
    have hplace := mem_suffixes_iff.mpr hother
    rw [hsplit] at hplace hshrink
    rcases List.mem_append.mp hplace with hlong | hrest
    · exact absurd (hlonger other hlong) hstyle
    · rcases List.mem_cons.mp hrest with rfl | hshort
      · exact absurd rfl hne
      · exact List.rel_of_pairwise_cons (List.pairwise_append.mp hshrink).2.1 hshort
  · rintro ⟨ext, hends, hext, hlongest⟩
    obtain ⟨longer, shorter, hsplit⟩ := List.append_of_mem (mem_suffixes_iff.mpr hends)
    refine List.findSome?_eq_some_iff.mpr ⟨longer, ext, shorter, hsplit, hext, fun other hother => ?_⟩
    rw [hsplit] at hshrink
    have hlength : ext.length < other.length :=
      (List.pairwise_append.mp hshrink).2.2 other hother ext List.mem_cons_self
    by_contra hstyle
    have hends' : '.' :: other <:+ name :=
      mem_suffixes_iff.mp (hsplit ▸ List.mem_append_left _ hother)
    have hne : other ≠ ext := by
      rintro rfl
      exact Nat.lt_irrefl _ hlength
    exact Nat.lt_asymm hlength (hlongest other hends' hstyle hne)

/-! ### The style of a name -/

/-- The entry of a table from which the style of a name in lower case comes: the one for the whole name,
or else the one that applies to the name with the longest extension. -/
inductive Decides (t : MappingTable) (name : Text) : MappingEntry → Prop where
  | fileName {style : Text} : ⟨.fileName name, style⟩ ∈ t.entries →
      Decides t name ⟨.fileName name, style⟩
  | extension {ext style : Text} : (∀ other, ⟨.fileName name, other⟩ ∉ t.entries) →
      ⟨.extension ext, style⟩ ∈ t.entries →
      (MappingEntry.mk (.extension ext) style).resolve? name = some style →
      (∀ other own, ⟨.extension other, own⟩ ∈ t.entries →
        (MappingEntry.mk (.extension other) own).resolve? name ≠ none → other ≠ ext →
        other.length < ext.length) →
      Decides t name ⟨.extension ext, style⟩

theorem Decides.mem {e : MappingEntry} (h : t.Decides name e) : e ∈ t.entries := by
  cases h with
  | fileName hmem => exact hmem
  | extension _ hmem => exact hmem

/-- An entry that decides on a name is about it. -/
theorem Decides.resolve?_eq {e : MappingEntry} (h : t.Decides name e) :
    e.resolve? name = some e.style := by
  cases h with
  | fileName => exact if_pos rfl
  | extension _ _ happlies => exact happlies

theorem resolve?_eq_some_iff (h : t.IsFunctional) :
    t.resolve? name = some style ↔ ∃ e, t.Decides name.lower e ∧ e.style = style := by
  unfold resolve?
  cases hname : t.fileNames.get? name.lower with
  | some own =>
    dsimp only
    rw [Option.some_inj]
    have hmem := (mem_entries_fileName h).mpr hname
    constructor
    · rintro rfl
      exact ⟨_, .fileName hmem, rfl⟩
    · rintro ⟨e, hdecides, rfl⟩
      cases hdecides with
      | fileName hother =>
        have hstyle := (mem_entries_fileName h).mp hother
        rw [hname] at hstyle
        exact Option.some_inj.mp hstyle
      | extension hnone => exact absurd hmem (hnone own)
  | none =>
    dsimp only
    rw [findSome?_suffixes_iff]
    have hnone : ∀ other, ⟨.fileName name.lower, other⟩ ∉ t.entries := by
      intro other hother
      have hstyle := (mem_entries_fileName h).mp hother
      rw [hname] at hstyle
      cases hstyle
    constructor
    · rintro ⟨ext, hends, hext, hlongest⟩
      refine ⟨_, .extension hnone ((mem_entries_extension h).mpr hext)
        (resolve?_extension_iff.mpr ⟨hends, rfl⟩) fun other own hother happlies => ?_, rfl⟩
      obtain ⟨found, hfound⟩ := Option.ne_none_iff_exists'.mp happlies
      refine hlongest other (resolve?_extension_iff.mp hfound).1 ?_
      rw [(mem_entries_extension h).mp hother]
      exact Option.some_ne_none own
    · rintro ⟨e, hdecides, rfl⟩
      cases hdecides with
      | fileName hother => exact absurd hother (hnone _)
      | @extension ext own _ hmem happlies hlongest =>
        refine ⟨ext, (resolve?_extension_iff.mp happlies).1, (mem_entries_extension h).mp hmem,
          fun other hends hstyle => ?_⟩
        obtain ⟨own, hother⟩ := Option.ne_none_iff_exists'.mp hstyle
        refine hlongest other own ((mem_entries_extension h).mpr hother) ?_
        rw [resolve?_extension_iff.mpr ⟨hends, rfl⟩]
        exact Option.some_ne_none own

/-- A name has no style if no entry is about it. -/
theorem resolve?_eq_none_iff (h : t.IsFunctional) :
    t.resolve? name = none ↔ ∀ e ∈ t.entries, e.resolve? name.lower = none := by
  constructor
  · intro hnone e he
    rw [resolve?] at hnone
    split at hnone
    next => cases hnone
    next hname =>
      obtain ⟨key, style⟩ := e
      cases key with
      | fileName key =>
        rw [mem_entries_fileName h] at he
        refine if_neg ?_
        rintro rfl
        rw [hname] at he
        cases he
      | extension ext =>
        rw [mem_entries_extension h] at he
        rw [Option.eq_none_iff_forall_ne_some]
        intro found hfound
        have hends := (resolve?_extension_iff.mp hfound).1
        rw [List.findSome?_eq_none_iff.mp hnone ext (mem_suffixes_iff.mpr hends)] at he
        cases he
  · intro hnone
    rw [Option.eq_none_iff_forall_ne_some]
    intro style hstyle
    obtain ⟨e, hdecides, -⟩ := (resolve?_eq_some_iff h).mp hstyle
    have hfound := hdecides.resolve?_eq
    rw [hnone e hdecides.mem] at hfound
    cases hfound

/-- **The lookup agrees with the entries.**  For every table that was built and every file name, the
style that is found is that of the entry that decides on the name in lower case, and none is found if no
entry is about the name. -/
theorem resolve?_decided {groups : Keyed MappingGroup} {useBuiltin : Bool}
    (hbuild : build groups useBuiltin r = .ok t) (name : Text) :
    (∀ style, t.resolve? name = some style ↔ ∃ e, t.Decides name.lower e ∧ e.style = style) ∧
      (t.resolve? name = none ↔ ∀ e ∈ t.entries, e.resolve? name.lower = none) := by
  have hfunctional := isFunctional_build hbuild
  exact ⟨fun style => resolve?_eq_some_iff hfunctional, resolve?_eq_none_iff hfunctional⟩

/-- A configuration with extensions that overlap, one of them empty. -/
def overlapping : Keyed MappingGroup :=
  [("Script_Style".toList,
      { extensions := ["..CMake.in".toList, ".".toList], fileNames := ["Build.in".toList] }),
    ("xml_style".toList, { extensions := ["in".toList] })]

/-- The styles of the configuration. -/
def overlappingStyles : Registry :=
  (Registry.empty.add "script_style".toList .unknown).add "XML_style".toList .unknown

/-- The table of the configuration. -/
def overlappingTable : MappingTable where
  fileNames := [("build.in".toList, "script_style".toList)]
  extensions :=
    [("cmake.in".toList, "script_style".toList), ([], "script_style".toList),
      ("in".toList, "xml_style".toList)]

/-- A name with repeated dots that ends in two of the extensions, and one that ends in none. -/
theorem resolve?_decided_overlapping :
    build overlapping false overlappingStyles = .ok overlappingTable ∧
      overlappingTable.resolve? "A..CMake.In".toList = some "script_style".toList ∧
      overlappingTable.resolve? "in".toList = none := by
  have hsorted : overlapping.sorted = overlapping := List.mergeSort_of_pairwise (by decide)
  have hbuild : build overlapping false overlappingStyles = .ok overlappingTable := by
    rw [build_eq, configured, hsorted]
    decide +kernel
  refine ⟨hbuild, ?_, ?_⟩
  · refine ((resolve?_decided hbuild _).1 _).mpr ⟨⟨.extension "cmake.in".toList, _⟩, ?_, rfl⟩
    have hlower : Text.lower "A..CMake.In".toList = "a..cmake.in".toList := by decide +kernel
    rw [hlower]
    refine .extension ?_ (by decide) (by decide) fun other own hother _ hne => ?_
    · simp [entries, overlappingTable]
    · have hextensions : (other, own) ∈ overlappingTable.extensions := by
        simpa [entries] using hother
      simp only [overlappingTable, List.mem_cons, Prod.mk.injEq, List.not_mem_nil, or_false]
        at hextensions
      rcases hextensions with ⟨rfl, -⟩ | ⟨rfl, -⟩ | ⟨rfl, -⟩
      · exact absurd rfl hne
      · decide
      · decide
  · refine (resolve?_decided hbuild _).2.mpr ?_
    decide +kernel

end MappingTable

end LicenseHeader
