import LicenseHeader.Header.Properties
import LicenseHeader.Proofs.Text.Basic
import Mathlib.Data.List.Chain

/-!
# What expansion does

A text is read from left to right as characters and references.  Expansion goes into the value of a
property for each reference to it, and into the values that this refers to, and keeps the keys on the way.
It ends because a key that comes twice is refused, so that each value brings a new property into the chain.
What it gives is said here without any chain.

* `Piece.Reads`: how a text is read, and `Piece.reads_iff`, that `Piece.split` reads it so;
* `Properties.Expands`: what a text becomes, by the rules of expansion alone.  They give no result for a
  property that leads back to itself;
* `Properties.RefersTo` and `Properties.LeadsTo`: which properties a text and the value of a property
  refer to; `Properties.ReachesCycle`: a property leads to one that leads back to itself;
* `Properties.expands_of_writeReference` and `Properties.isPath_of_writeReference`: what is written for one
  reference, and what is reported;
* `Properties.IsTrueOf`: what a report of a cycle has to say;
* `Properties.expand_spec` is the result.
-/

namespace LicenseHeader

/-! ### Reading a text -/

namespace Piece

/-- How a text is read.  A reference begins with a dollar sign and a brace, and its key ends before the
first closing brace.  A character with which no reference begins stands for itself. -/
inductive Reads : Text → List Piece → Prop where
  | nil : Reads [] []
  | reference {key t : Text} {pieces : List Piece} :
      '}' ∉ key → Reads t pieces → Reads (text (reference key) ++ t) (reference key :: pieces)
  | char {c : Char} {t : Text} {pieces : List Piece} :
      (∀ key rest, '}' ∉ key → c :: t ≠ text (reference key) ++ rest) →
      Reads t pieces → Reads (c :: t) (char c :: pieces)

theorem takeWhile_closing {key : Text} (hkey : '}' ∉ key) (rest : Text) :
    (key ++ '}' :: rest).takeWhile (· != '}') = key := by
  have hall : ∀ c ∈ key, (c != '}') = true := by
    intro c hc
    rw [bne_iff_ne]
    rintro rfl
    exact hkey hc
  rw [List.takeWhile_append_of_pos hall]
  simp

/-- The key of a reference is closed by the first brace after it. -/
theorem key?_eq_some_iff {t key : Text} :
    key? t = some key ↔ '}' ∉ key ∧ ∃ rest, t = text (reference key) ++ rest := by
  constructor
  · intro h
    unfold key? at h
    split at h
    · split at h
      · rename_i u hclosed
        obtain ⟨front, rest, rfl, hfront⟩ :=
          List.eq_append_cons_of_mem (List.contains_iff_mem.mp hclosed)
        rw [takeWhile_closing hfront] at h
        obtain rfl := Option.some.inj h
        exact ⟨hfront, rest, by simp [text]⟩
      · cases h
    · cases h
  · rintro ⟨hkey, rest, rfl⟩
    show key? ('$' :: '{' :: ((key ++ ['}']) ++ rest)) = some key
    rw [List.append_assoc, key?, if_pos (by simp)]
    exact congrArg some (takeWhile_closing hkey rest)

theorem splitFrom_skip (skipped t : Text) : splitFrom skipped.length (skipped ++ t) = split t := by
  induction skipped with
  | nil => rfl
  | cons c skipped ih => exact ih

theorem split_reference {key : Text} (hkey : '}' ∉ key) (t : Text) :
    split (text (reference key) ++ t) = reference key :: split t := by
  have hstart : key? (text (reference key) ++ t) = some key := key?_eq_some_iff.mpr ⟨hkey, t, rfl⟩
  have hskip := splitFrom_skip ('{' :: (key ++ ['}'])) t
  rw [List.length_cons, List.length_append, List.length_singleton] at hskip
  show splitFrom 0 ('$' :: ('{' :: (key ++ ['}']) ++ t)) = _
  rw [splitFrom, show key? ('$' :: ('{' :: (key ++ ['}']) ++ t)) = some key from hstart]
  dsimp only
  rw [hskip]

theorem split_char {c : Char} {t : Text} (h : key? (c :: t) = none) :
    split (c :: t) = char c :: split t := by
  rw [split, splitFrom, h]
  rfl

/-- **A text is read as it is split**, and in no other way. -/
theorem reads_iff {t : Text} {pieces : List Piece} : Reads t pieces ↔ pieces = split t := by
  constructor
  · intro h
    induction h with
    | nil => rfl
    | reference hkey _ ih => rw [split_reference hkey, ih]
    | @char c t pieces hchar _ ih =>
      have hnone : key? (c :: t) = none := by
        rw [Option.eq_none_iff_forall_ne_some]
        intro key hsome
        obtain ⟨hkey, rest, hstart⟩ := key?_eq_some_iff.mp hsome
        exact hchar key rest hkey hstart
      rw [split_char hnone, ih]
  · rintro rfl
    -- a reference takes more than one character, so the induction is on the length
    induction hlength : t.length using Nat.strong_induction_on generalizing t with
    | _ n ih =>
      cases t with
      | nil => exact .nil
      | cons c t =>
        cases hstart : key? (c :: t) with
        | none =>
          rw [split_char hstart]
          refine .char ?_ (ih t.length (by rw [← hlength, List.length_cons]; omega) rfl)
          intro key rest hkey heq
          rw [key?_eq_some_iff.mpr ⟨hkey, rest, heq⟩] at hstart
          cases hstart
        | some key =>
          obtain ⟨hkey, rest, heq⟩ := key?_eq_some_iff.mp hstart
          rw [heq] at hlength ⊢
          rw [split_reference hkey]
          refine .reference hkey (ih rest.length ?_ rfl)
          have hpos : 0 < (text (reference key)).length := Nat.succ_pos _
          rw [← hlength, List.length_append]
          omega

end Piece

namespace Properties

variable {properties : Properties} {t key : Text} {pieces : List Piece}

/-! ### The rules of expansion -/

/-- What a text becomes, given how it is read: the expansion of its value is put for each reference to a
property, and everything else stays. -/
inductive Expands (properties : Properties) : List Piece → Text → Prop where
  | nil : Expands properties [] []
  | char {c : Char} {pieces : List Piece} {result : Text} :
      Expands properties pieces result → Expands properties (.char c :: pieces) (c :: result)
  | unknown {key result : Text} {pieces : List Piece} :
      Keyed.get? properties key = none → Expands properties pieces result →
      Expands properties (.reference key :: pieces) (Piece.text (.reference key) ++ result)
  | known {key value expansion result : Text} {inner pieces : List Piece} :
      Keyed.get? properties key = some value → Piece.Reads value inner →
      Expands properties inner expansion → Expands properties pieces result →
      Expands properties (.reference key :: pieces) (expansion ++ result)

theorem Expands.append {front back : List Piece} {u v : Text} (hfront : Expands properties front u)
    (hback : Expands properties back v) : Expands properties (front ++ back) (u ++ v) := by
  induction hfront with
  | nil => exact hback
  | char _ ih => exact .char ih
  | unknown hnone _ ih =>
    rw [List.append_assoc]
    exact .unknown hnone ih
  | known hvalue hreads hinner _ _ ih =>
    rw [List.append_assoc]
    exact .known hvalue hreads hinner ih

/-- The rules give at most one result. -/
theorem Expands.unique {u v : Text} (hu : Expands properties pieces u)
    (hv : Expands properties pieces v) : u = v := by
  induction hu generalizing v with
  | nil =>
    cases hv
    rfl
  | char _ ih =>
    cases hv with
    | char hv => rw [ih hv]
  | unknown hnone _ ih =>
    cases hv with
    | unknown _ hv => rw [ih hv]
    | known hvalue => simp [hnone] at hvalue
  | known hvalue hreads _ _ ihinner ih =>
    cases hv with
    | unknown hnone => simp [hnone] at hvalue
    | known hvalue' hreads' hinner' hv =>
      rw [hvalue, Option.some.injEq] at hvalue'
      subst hvalue'
      rw [Piece.reads_iff] at hreads hreads'
      subst hreads hreads'
      rw [ihinner hinner', ih hv]

/-! ### Which properties refer to which -/

/-- A text has a reference to a property that has a value. -/
def RefersTo (properties : Properties) (t key : Text) : Prop :=
  Keyed.has properties key = true ∧ ∃ pieces, Piece.Reads t pieces ∧ .reference key ∈ pieces

/-- The value of a property refers to another one. -/
def LeadsTo (properties : Properties) (key other : Text) : Prop :=
  ∃ value, Keyed.get? properties key = some value ∧ properties.RefersTo value other

/-- A property leads, over any number of others, to one that leads back to itself. -/
def ReachesCycle (properties : Properties) (key : Text) : Prop :=
  ∃ other, Relation.ReflTransGen properties.LeadsTo key other ∧
    Relation.TransGen properties.LeadsTo other other

theorem refersTo_iff :
    properties.RefersTo t key ↔ Keyed.has properties key = true ∧ .reference key ∈ Piece.split t := by
  unfold RefersTo
  simp only [Piece.reads_iff, exists_eq_left]

/-- Whatever leads to a cycle goes on to something that does. -/
theorem exists_leadsTo_of_reachesCycle (h : properties.ReachesCycle key) :
    ∃ other, properties.LeadsTo key other ∧ properties.ReachesCycle other := by
  obtain ⟨back, hreach, hcycle⟩ := h
  rcases Relation.ReflTransGen.cases_head hreach with rfl | ⟨other, hfirst, hrest⟩
  · obtain ⟨other, hfirst, hrest⟩ := Relation.TransGen.head'_iff.mp hcycle
    exact ⟨other, hfirst, key, hrest, hcycle⟩
  · exact ⟨other, hfirst, back, hrest, hcycle⟩

/-- **What has an expansion leads to no cycle.**  Induction on the rules: a cycle that a property leads to
would be reached from its value as well. -/
theorem Expands.not_reachesCycle {result : Text} (h : Expands properties pieces result)
    (hmem : .reference key ∈ pieces) : ¬properties.ReachesCycle key := by
  induction h generalizing key with
  | nil => simp at hmem
  | char _ ih =>
    rcases List.mem_cons.mp hmem with heq | hmem
    · cases heq
    · exact ih hmem
  | unknown hnone _ ih =>
    rcases List.mem_cons.mp hmem with heq | hmem
    · cases heq
      intro hcycle
      obtain ⟨other, ⟨value, hvalue, -⟩, -⟩ := exists_leadsTo_of_reachesCycle hcycle
      simp [hnone] at hvalue
    · exact ih hmem
  | known hvalue hreads _ _ ihinner ih =>
    rcases List.mem_cons.mp hmem with heq | hmem
    · cases heq
      intro hcycle
      obtain ⟨other, ⟨value, hvalue', hrefers⟩, hother⟩ := exists_leadsTo_of_reachesCycle hcycle
      rw [hvalue, Option.some.injEq] at hvalue'
      subst hvalue'
      rw [Piece.reads_iff] at hreads
      subst hreads
      exact ihinner (refersTo_iff.mp hrefers).2 hother
    · exact ih hmem

/-! ### What is written for one reference -/

theorem writeReference_unknown (hnone : Keyed.get? properties key = none) (chain : List Text) :
    writeReference properties chain key = .ok (Piece.text (.reference key)) := by
  rw [writeReference]
  split
  · rfl
  · simp_all

theorem writeReference_again {value : Text} {chain : List Text}
    (hvalue : Keyed.get? properties key = some value) (hin : key ∈ chain) :
    writeReference properties chain key = .error ⟨key, chain ++ [key]⟩ := by
  rw [writeReference]
  split
  · simp_all
  · rw [dif_pos hin]

theorem writeReference_value {value : Text} {chain : List Text}
    (hvalue : Keyed.get? properties key = some value) (hnot : key ∉ chain) :
    writeReference properties chain key
      = writePieces (writeReference properties (chain ++ [key])) (Piece.split value) := by
  rw [writeReference]
  split
  · simp_all
  · rename_i value' hvalue'
    rw [hvalue, Option.some.injEq] at hvalue'
    rw [dif_neg hnot, hvalue']

theorem exists_of_map_eq_ok {f : Text → Text} {written : Except PropertyCycle Text} {result : Text}
    (h : written.map f = .ok result) : ∃ v, written = .ok v ∧ f v = result := by
  cases written with
  | error cycle => cases h
  | ok v => exact ⟨v, rfl, Except.ok.inj h⟩

theorem eq_error_of_map_eq_error {f : Text → Text} {written : Except PropertyCycle Text}
    {cycle : PropertyCycle} (h : written.map f = .error cycle) : written = .error cycle := by
  cases written with
  | error other => exact congrArg _ (Except.error.inj h)
  | ok v => cases h

/-- Pieces are written by the rules if the references among them are. -/
theorem expands_of_writePieces {write : Text → Except PropertyCycle Text} {result : Text}
    (hwrite : ∀ key v, write key = .ok v → Expands properties [.reference key] v)
    (h : writePieces write pieces = .ok result) : Expands properties pieces result := by
  induction pieces generalizing result with
  | nil =>
    cases h
    exact .nil
  | cons piece pieces ih =>
    cases piece with
    | char c =>
      obtain ⟨rest, hrest, rfl⟩ := exists_of_map_eq_ok h
      exact .char (ih hrest)
    | reference key =>
      rw [writePieces] at h
      split at h
      · cases h
      · rename_i v hv
        obtain ⟨rest, hrest, rfl⟩ := exists_of_map_eq_ok h
        exact (hwrite key v hv).append (ih hrest)

/-- What stops the writing of pieces is one of the references among them. -/
theorem exists_of_writePieces {write : Text → Except PropertyCycle Text} {cycle : PropertyCycle}
    (h : writePieces write pieces = .error cycle) :
    ∃ key, .reference key ∈ pieces ∧ write key = .error cycle := by
  induction pieces with
  | nil => cases h
  | cons piece pieces ih =>
    cases piece with
    | char c =>
      obtain ⟨key, hmem, hkey⟩ := ih (eq_error_of_map_eq_error h)
      exact ⟨key, List.mem_cons_of_mem _ hmem, hkey⟩
    | reference first =>
      rw [writePieces] at h
      split at h
      · rename_i c hc
        cases h
        exact ⟨first, List.mem_cons_self, hc⟩
      · obtain ⟨key, hmem, hkey⟩ := ih (eq_error_of_map_eq_error h)
        exact ⟨key, List.mem_cons_of_mem _ hmem, hkey⟩

/-- **What is written for a reference** is its expansion, whatever the chain is. -/
theorem expands_of_writeReference (properties : Properties) (chain : List Text) (key : Text) :
    ∀ v, writeReference properties chain key = .ok v → Expands properties [.reference key] v := by
  induction chain, key using writeReference.induct properties with
  | case1 chain key hnone =>
    intro v h
    rw [writeReference_unknown hnone] at h
    cases h
    rw [← List.append_nil (Piece.text _)]
    exact .unknown hnone .nil
  | case2 chain key value hvalue hin =>
    intro v h
    rw [writeReference_again hvalue hin] at h
    cases h
  | case3 chain key value hvalue hnot ih =>
    intro v h
    rw [writeReference_value hvalue hnot] at h
    rw [← List.append_nil v]
    exact .known hvalue (Piece.reads_iff.mpr rfl) (expands_of_writePieces ih h) .nil

/-- **What is reported for a reference**: the chain so far, and a way on from the key of the reference to
one that is in it. -/
theorem isPath_of_writeReference (properties : Properties) (chain : List Text) (key : Text) :
    ∀ c, writeReference properties chain key = .error c →
      Keyed.has properties key = true ∧ ∃ more, c.chain = chain ++ key :: more ∧
        (key :: more).IsChain properties.LeadsTo ∧ (key :: more).getLast? = some c.key ∧
        c.key ∈ c.chain.dropLast := by
  induction chain, key using writeReference.induct properties with
  | case1 chain key hnone =>
    intro c h
    rw [writeReference_unknown hnone] at h
    cases h
  | case2 chain key value hvalue hin =>
    intro c h
    rw [writeReference_again hvalue hin] at h
    cases h
    refine ⟨by rw [Keyed.has, hvalue]; rfl, [], rfl, List.IsChain.singleton key, rfl, ?_⟩
    rw [List.dropLast_concat]
    exact hin
  | case3 chain key value hvalue hnot ih =>
    intro c h
    rw [writeReference_value hvalue hnot] at h
    obtain ⟨next, hmem, hnext⟩ := exists_of_writePieces h
    obtain ⟨hhas, more, hchain, hpath, hlast, hback⟩ := ih next c hnext
    have hleads : properties.LeadsTo key next := ⟨value, hvalue, refersTo_iff.mpr ⟨hhas, hmem⟩⟩
    refine ⟨by rw [Keyed.has, hvalue]; rfl, next :: more, ?_, hpath.cons_cons hleads, ?_, hback⟩
    · rw [hchain, List.append_assoc]
      rfl
    · rw [List.getLast?_cons_cons]
      exact hlast

/-! ### Expansion -/

/-- A report of a cycle that is true of a text: its chain starts with a property of the text, each key
leads to the next, and the last one, which is reported, has come before. -/
structure IsTrueOf (properties : Properties) (t : Text) (c : PropertyCycle) : Prop where
  starts : ∃ key ∈ c.chain.head?, properties.RefersTo t key
  leads : c.chain.IsChain properties.LeadsTo
  ends : c.chain.getLast? = some c.key
  returns : c.key ∈ c.chain.dropLast

theorem isTrueOf_of_expand {c : PropertyCycle} (h : properties.expand t = .error c) :
    properties.IsTrueOf t c := by
  obtain ⟨key, hmem, hkey⟩ := exists_of_writePieces h
  obtain ⟨hhas, more, hchain, hpath, hlast, hback⟩ := isPath_of_writeReference properties [] key c hkey
  rw [List.nil_append] at hchain
  rw [← hchain] at hpath hlast
  exact ⟨⟨key, by rw [hchain]; rfl, refersTo_iff.mpr ⟨hhas, hmem⟩⟩, hpath, hlast, hback⟩

/-- Keys that lead from one to the next lead from the first to the last. -/
theorem transGen_of_isChain {a b : Text} {middle : List Text}
    (h : (a :: (middle ++ [b])).IsChain properties.LeadsTo) :
    Relation.TransGen properties.LeadsTo a b := by
  induction middle generalizing a with
  | nil => exact .single (List.isChain_cons_cons.mp h).1
  | cons next middle ih =>
    obtain ⟨hfirst, hrest⟩ := List.isChain_cons_cons.mp h
    exact .head hfirst (ih hrest)

/-- The chain of a true report goes into a cycle. -/
theorem IsTrueOf.exists_reachesCycle {c : PropertyCycle} (h : properties.IsTrueOf t c) :
    ∃ key, properties.RefersTo t key ∧ properties.ReachesCycle key := by
  obtain ⟨key, hhead, hrefers⟩ := h.starts
  obtain ⟨front, hfront⟩ := List.getLast?_eq_some_iff.mp h.ends
  have hback := h.returns
  rw [hfront, List.dropLast_concat] at hback
  -- the key that is reported stands twice in the chain
  obtain ⟨before, between, rfl⟩ := List.append_of_mem hback
  have hleads := h.leads
  rw [hfront, List.append_assoc, List.cons_append] at hleads
  have hcycle := transGen_of_isChain hleads.right_of_append
  refine ⟨key, hrefers, c.key, ?_, hcycle⟩
  cases before with
  | nil =>
    rw [hfront] at hhead
    cases hhead
    exact .refl
  | cons first before =>
    rw [hfront] at hhead
    cases hhead
    have hway : (key :: (before ++ [c.key])).IsChain properties.LeadsTo :=
      hleads.infix ⟨[], between ++ [c.key], by simp⟩
    exact (transGen_of_isChain hway).to_reflTransGen

/-- **Expansion finds exactly the cycles.**  It fails if and only if the text refers to a property that
leads to a cycle.  What it then reports is a way from the text into a cycle.  Otherwise it gives what the
rules of expansion give for the text. -/
theorem expand_spec (properties : Properties) (t : Text) :
    ((∃ c, properties.expand t = .error c) ↔
      ∃ key, properties.RefersTo t key ∧ properties.ReachesCycle key) ∧
    (∀ c, properties.expand t = .error c → properties.IsTrueOf t c) ∧
    ∀ result, properties.expand t = .ok result ↔
      ∃ pieces, Piece.Reads t pieces ∧ properties.Expands pieces result := by
  have hok : ∀ result, properties.expand t = .ok result →
      properties.Expands (Piece.split t) result := by
    intro result h
    exact expands_of_writePieces (expands_of_writeReference properties []) h
  refine ⟨⟨?_, ?_⟩, fun c h => isTrueOf_of_expand h, fun result => ⟨?_, ?_⟩⟩
  · rintro ⟨c, h⟩
    exact (isTrueOf_of_expand h).exists_reachesCycle
  · rintro ⟨key, hrefers, hcycle⟩
    cases h : properties.expand t with
    | error c => exact ⟨c, rfl⟩
    | ok result => exact absurd hcycle ((hok result h).not_reachesCycle (refersTo_iff.mp hrefers).2)
  · intro h
    exact ⟨Piece.split t, Piece.reads_iff.mpr rfl, hok result h⟩
  · rintro ⟨pieces, hreads, hexpands⟩
    rw [Piece.reads_iff] at hreads
    subst hreads
    cases h : properties.expand t with
    | error c =>
      obtain ⟨key, hrefers, hcycle⟩ := (isTrueOf_of_expand h).exists_reachesCycle
      exact absurd hcycle (hexpands.not_reachesCycle (refersTo_iff.mp hrefers).2)
    | ok other => rw [(hok other h).unique hexpands]

-- `c` leads into the cycle of `a` and `b` and is not a part of it
example :
    Properties.expand
      [("c".toList, "of $\x7ba\x7d".toList), ("a".toList, "$\x7bb\x7d".toList),
        ("b".toList, "$\x7bx\x7d $\x7ba\x7d".toList)] "by $\x7bc\x7d".toList
      = .error ⟨"a".toList, ["c".toList, "a".toList, "b".toList, "a".toList]⟩ := by
  decide +kernel

end Properties

end LicenseHeader
