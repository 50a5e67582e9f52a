import LicenseHeader.Proofs.Glob.Matching

/-!
# Matching wildcards by places

`wildcardMatches` cuts a pattern at its stars and takes the name apart with it.  Here neither is taken
apart: a window is kept on the pattern and one on the name, each by the places where it starts and
stops.  Both are made smaller from the front, then from the end, and then run by run.  Every item is
read at a place that could lie outside, and the places could be in the wrong order.

* `scanFront`, `scanBack`, `findRun` and `scanRuns` are the loops, each of which ends because a window
  gets smaller, and `scanGaps` is the whole search;
* `Shows` and `Windows.Show`: what a window shows of its list;
* `Peels`: a question about a pattern and a list that the loops may take apart, such as whether the
  pattern stands for the list (`spans_peels`);
* `Narrows`: a loop never reads outside, and such a question has the same answer for what the windows
  show afterwards;
* `scanGaps_eq_some`: the search never fails, and `scanName_eq_some`: for wildcards it is right.
-/

namespace LicenseHeader.Glob

/-- The places where the windows on a pattern and on a list start and stop. -/
structure Windows where
  patternStart : Nat
  patternStop : Nat
  listStart : Nat
  listStop : Nat

section Scan

variable {α β : Type} [DecidableEq α] (gap : α) (ok : α → β → Bool) (xs : List α) (ys : List β)

/-- The part of a list between two places, if they lie in it in this order. -/
def slice? {α : Type} (xs : List α) (start stop : Nat) : Option (List α) :=
  if start ≤ stop ∧ stop ≤ xs.length then some ((xs.take stop).drop start) else none

/-- Compares items from the front, up to a gap or the end of the list.  The inner `none` says that two
items differ. -/
def scanFront (w : Windows) : Option (Option Windows) :=
  match xs[w.patternStart]? with
  | none => none
  | some x =>
    if x ≠ gap ∧ w.listStart < w.listStop then
      match ys[w.listStart]? with
      | none => none
      | some y =>
        if ok x y then
          scanFront { w with patternStart := w.patternStart + 1, listStart := w.listStart + 1 }
        else some none
    else some (some w)
  termination_by w.listStop - w.listStart

/-- Compares items from the end, down to a gap or the start of the list. -/
def scanBack (w : Windows) : Option (Option Windows) :=
  if w.patternStop = 0 then none
  else
    match xs[w.patternStop - 1]? with
    | none => none
    | some x =>
      if x ≠ gap ∧ w.listStart < w.listStop then
        if w.listStop = 0 then none
        else
          match ys[w.listStop - 1]? with
          | none => none
          | some y =>
            if ok x y then
              scanBack { w with patternStop := w.patternStop - 1, listStop := w.listStop - 1 }
            else some none
      else some (some w)
  termination_by w.listStop - w.listStart

/-- Whether a run matches a list from the place `i` on, its items from the `j`-th on being left. -/
def matchesAt (run : List α) (window : List β) (i j : Nat) : Option Bool :=
  if j < run.length then
    match run[j]?, window[i + j]? with
    | some x, some y => if ok x y then matchesAt run window i (j + 1) else some false
    | _, _ => none
  else some true
  termination_by run.length - j

/-- The first place from `i` on where a run matches a list. -/
def findRun (run : List α) (window : List β) (i : Nat) : Option (Option Nat) :=
  if i + run.length ≤ window.length then
    match matchesAt ok run window i 0 with
    | none => none
    | some true => some (some i)
    | some false => findRun run window (i + 1)
  else some none
  termination_by window.length + 1 - i

/-- Looks for the runs between the gaps, one after the other, from a window on the pattern that starts
with a gap. -/
def scanRuns (w : Windows) : Option (Option Windows) :=
  if w.patternStart + 1 < w.patternStop ∧ w.listStart < w.listStop then
    match slice? xs (w.patternStart + 1) w.patternStop with
    | none => none
    | some rest =>
      match rest.findIdx? (· = gap) with
      | none => some (some w)
      | some 0 => scanRuns { w with patternStart := w.patternStart + 1 }
      | some (n + 1) =>
        let next := w.patternStart + 1 + (n + 1)
        match slice? xs (w.patternStart + 1) next, slice? ys w.listStart w.listStop with
        | some run, some window =>
          match findRun ok run window 0 with
          | none => none
          | some none => some none
          | some (some found) =>
            scanRuns { w with
              patternStart := next
              listStart := w.listStart + (found + run.length) }
        | _, _ => none
  else some (some w)
  termination_by w.patternStop - w.patternStart

/-- Whether the window on the pattern shows nothing but gaps. -/
def onlyGaps (w : Windows) : Option Bool :=
  (slice? xs w.patternStart w.patternStop).map (·.all (· = gap))

/-- What the windows that a loop leaves are asked; a loop that found a difference has answered. -/
def proceed (answer : Option (Option Windows)) (next : Windows → Option Bool) : Option Bool :=
  match answer with
  | none => none
  | some none => some false
  | some (some w) => next w

/-- Whether a pattern with gaps matches a list.  Without a gap, or with nothing else, this is seen at
once; a list that is used up leaves only gaps to be matched. -/
def scanGaps : Option Bool :=
  if gap ∉ xs then some (xs.length = ys.length && (xs.zip ys).all fun (x, y) => ok x y)
  else if xs.length = 1 then some true
  else
    proceed (scanFront gap ok xs ys ⟨0, xs.length, 0, ys.length⟩) fun w =>
      if w.listStart = w.listStop then onlyGaps gap xs w
      else
        proceed (scanBack gap ok xs ys w) fun w =>
          if w.listStart = w.listStop then onlyGaps gap xs w
          else proceed (scanRuns gap ok xs ys w) (onlyGaps gap xs)

end Scan

/-- Whether a wildcard matches a name, found by places alone. -/
def scanName (caseSensitive : Bool) (pattern name : Text) : Option Bool :=
  scanGaps '*' (sameChar caseSensitive) pattern name

/-! ### What a window shows -/

/-- The window between two places of a list shows a part of it. -/
def Shows {α : Type} (xs : List α) (start stop : Nat) (part : List α) : Prop :=
  ∃ front back, xs = front ++ (part ++ back) ∧ start = front.length ∧
    stop = front.length + part.length

namespace Shows

variable {α : Type} {xs part : List α} {start stop : Nat}

theorem whole (xs : List α) : Shows xs 0 xs.length xs := ⟨[], [], by simp, rfl, by simp⟩

theorem slice?_eq (h : Shows xs start stop part) : slice? xs start stop = some part := by
  obtain ⟨front, back, rfl, rfl, rfl⟩ := h
  have hstop : front.length + part.length ≤ (front ++ (part ++ back)).length := by
    simp only [List.length_append]
    omega
  rw [slice?, if_pos ⟨Nat.le_add_right _ _, hstop⟩, ← List.append_assoc, List.take_left' (by simp),
    List.drop_left]

/-- A window is open exactly if it shows something. -/
theorem lt_iff (h : Shows xs start stop part) : start < stop ↔ part ≠ [] := by
  obtain ⟨front, back, rfl, rfl, rfl⟩ := h
  rw [← List.length_pos_iff]
  omega

theorem eq_iff (h : Shows xs start stop part) : start = stop ↔ part = [] := by
  obtain ⟨front, back, rfl, rfl, rfl⟩ := h
  rw [← List.length_eq_zero_iff]
  omega

/-- A window can be cut in two. -/
theorem append {fst snd : List α} (h : Shows xs start stop (fst ++ snd)) :
    Shows xs start (start + fst.length) fst ∧ Shows xs (start + fst.length) stop snd := by
  obtain ⟨front, back, rfl, rfl, rfl⟩ := h
  refine ⟨⟨front, snd ++ back, by simp, rfl, rfl⟩, ⟨front ++ fst, back, by simp, by simp, ?_⟩⟩
  simp only [List.length_append]
  omega

/-- The item at the start of a window. -/
theorem head {x : α} (h : Shows xs start stop (x :: part)) :
    xs[start]? = some x ∧ Shows xs (start + 1) stop part := by
  have hcut : Shows xs start stop ([x] ++ part) := h
  refine ⟨?_, hcut.append.2⟩
  obtain ⟨front, back, rfl, rfl, -⟩ := h
  simp

/-- The item before the end of a window. -/
theorem last {x : α} (h : Shows xs start stop (part ++ [x])) :
    stop ≠ 0 ∧ xs[stop - 1]? = some x ∧ Shows xs start (stop - 1) part := by
  obtain ⟨hpart, hlast⟩ := h.append
  have hstop : stop = start + part.length + 1 := by
    obtain ⟨front, back, -, hstart, hstop⟩ := hlast
    rw [hstart, hstop]
    rfl
  have hpred : stop - 1 = start + part.length := by omega
  rw [hpred]
  exact ⟨by omega, hlast.head.1, hpart⟩

end Shows

/-- What both windows show. -/
structure Windows.Show {α β : Type} (w : Windows) (xs : List α) (ys : List β) (pattern : List α)
    (part : List β) : Prop where
  pattern : Shows xs w.patternStart w.patternStop pattern
  list : Shows ys w.listStart w.listStop part

/-! ### What patterns stand for, from both ends -/

section Spans

variable {α β : Type} {gap : α} {ok : α → β → Bool}

theorem spans_nil_iff {okay : α → β → Prop} {pattern : List α} :
    Spans gap okay pattern [] ↔ ∀ x ∈ pattern, x = gap := by
  induction pattern with
  | nil => exact ⟨fun _ => by simp, fun _ => .nil⟩
  | cons x pattern ih =>
    rw [List.forall_mem_cons, ← ih]
    constructor
    · intro h
      generalize hys : ([] : List β) = ys at h
      cases h with
      | gap skipped h =>
        obtain ⟨rfl, rfl⟩ := List.append_eq_nil_iff.mp hys.symm
        exact ⟨rfl, h⟩
      | item => cases hys
    · rintro ⟨rfl, h⟩
      exact .gap [] h

theorem spans_cons_iff {okay : α → β → Prop} {x : α} (hx : x ≠ gap) {pattern : List α} {y : β}
    {ys : List β} :
    Spans gap okay (x :: pattern) (y :: ys) ↔ okay x y ∧ Spans gap okay pattern ys := by
  constructor
  · intro h
    generalize hys : y :: ys = zs at h
    cases h with
    | gap => exact absurd rfl hx
    | item _ hok h =>
      obtain ⟨rfl, rfl⟩ := List.cons.inj hys
      exact ⟨hok, h⟩
  · rintro ⟨hok, h⟩
    exact .item hx hok h

/-- A pattern and one item more at its end.  Induction on what the pattern stands for. -/
theorem Spans.concat {okay : α → β → Prop} {x : α} (hx : x ≠ gap) {y : β} (hok : okay x y)
    {pattern : List α} {ys : List β} (h : Spans gap okay pattern ys) :
    Spans gap okay (pattern ++ [x]) (ys ++ [y]) := by
  induction h with
  | nil => exact .item hx hok .nil
  | gap skipped _ ih =>
    rw [List.append_assoc]
    exact .gap skipped ih
  | item hne hitem _ ih => exact .item hne hitem ih

/-- The last item of a pattern stands for the last item of a list. -/
theorem spans_concat_iff {okay : α → β → Prop} {x : α} (hx : x ≠ gap) {pattern : List α} {y : β}
    {ys : List β} :
    Spans gap okay (pattern ++ [x]) (ys ++ [y]) ↔ okay x y ∧ Spans gap okay pattern ys := by
  refine ⟨?_, fun ⟨hok, h⟩ => h.concat hx hok⟩
  induction pattern generalizing ys with
  | nil =>
    intro h
    cases ys with
    | nil => exact (spans_cons_iff hx).mp h
    | cons z ys =>
      rw [List.nil_append, List.cons_append] at h
      obtain ⟨-, hrest⟩ := (spans_cons_iff hx).mp h
      generalize hys : ys ++ [y] = zs at hrest
      cases hrest with
      | nil => simp at hys
  | cons p pattern ih =>
    intro h
    generalize hys : ys ++ [y] = zs at h
    cases h with
    | @gap _ rest skipped h =>
      -- the gap leaves something, since the last item needs an item of its own
      rcases List.eq_nil_or_concat rest with rfl | ⟨front, z, rfl⟩
      · exact absurd (spans_nil_iff.mp h x (by simp)) hx
      · rw [List.concat_eq_append, ← List.append_assoc] at hys
        obtain ⟨rfl, hz⟩ := List.append_inj' hys rfl
        obtain rfl := List.singleton_inj.mp hz
        rw [List.concat_eq_append] at h
        exact (ih h).imp_right (.gap skipped)
    | @item _ z _ rest hne hitem h =>
      cases ys with
      | nil =>
        obtain ⟨rfl, rfl⟩ := List.cons.inj hys
        exact absurd (spans_nil_iff.mp h x (by simp)) hx
      | cons z ys =>
        obtain ⟨rfl, rfl⟩ := List.cons.inj hys
        exact (ih h).imp_right (.item hne hitem)

/-- A gap alone stands for every list. -/
theorem spans_gap {okay : α → β → Prop} (ys : List β) : Spans gap okay [gap] ys := by
  have h : Spans gap okay [gap] (ys ++ []) := .gap ys .nil
  rwa [List.append_nil] at h

/-- What is put in front of a list falls into a gap. -/
theorem Spans.gap_append {okay : α → β → Prop} {pattern : List α} {ys : List β}
    (h : Spans gap okay (gap :: pattern) ys) (more : List β) :
    Spans gap okay (gap :: pattern) (more ++ ys) := by
  generalize hpattern : gap :: pattern = p at h
  cases h with
  | nil => cases hpattern
  | gap skipped h =>
    obtain ⟨-, rfl⟩ := List.cons.inj hpattern
    rw [← List.append_assoc]
    exact .gap _ h
  | item hne => exact absurd (List.cons.inj hpattern).1.symm hne

theorem spans_gap_gap_iff {okay : α → β → Prop} {pattern : List α} {ys : List β} :
    Spans gap okay (gap :: gap :: pattern) ys ↔ Spans gap okay (gap :: pattern) ys := by
  constructor
  · intro h
    generalize hpattern : gap :: gap :: pattern = p at h
    cases h with
    | nil => cases hpattern
    | gap skipped h =>
      obtain ⟨-, rfl⟩ := List.cons.inj hpattern
      exact h.gap_append skipped
    | item hne => exact absurd (List.cons.inj hpattern).1.symm hne
  · exact .gap []

/-- Items other than gaps in front of a pattern stand for a run. -/
theorem spans_append_iff {run : List α} (hrun : gap ∉ run) {pattern : List α} {ys : List β} :
    Spans gap (fun x y => ok x y = true) (run ++ pattern) ys ↔
      ∃ part rest, ys = part ++ rest ∧ IsRun ok run part ∧
        Spans gap (fun x y => ok x y = true) pattern rest := by
  induction run generalizing ys with
  | nil =>
    constructor
    · exact fun h => ⟨[], ys, rfl, .nil, h⟩
    · rintro ⟨part, rest, rfl, hpart, h⟩
      cases hpart
      exact h
  | cons x run ih =>
    obtain ⟨hx, hrun⟩ := not_or.mp (List.mem_cons.not.mp hrun)
    constructor
    · intro h
      cases ys with
      | nil => exact absurd (spans_nil_iff.mp h x (by simp)) (Ne.symm hx)
      | cons y ys =>
        obtain ⟨hok, h⟩ := (spans_cons_iff (Ne.symm hx)).mp h
        obtain ⟨part, rest, rfl, hpart, h⟩ := (ih hrun).mp h
        exact ⟨y :: part, rest, rfl, .cons hok hpart, h⟩
    · rintro ⟨part, rest, rfl, hpart, h⟩
      cases hpart with
      | cons hok hpart => exact .item (Ne.symm hx) hok ((ih hrun).mpr ⟨_, rest, rfl, hpart, h⟩)

/-- **The first place of a run is as good as any.**  A run between two gaps is taken at its first place;
what another place would skip falls into the second gap. -/
theorem spans_run_iff {run : List α} (hrun : gap ∉ run) {pattern : List α} {ys : List β} :
    Spans gap (fun x y => ok x y = true) (gap :: (run ++ gap :: pattern)) ys ↔
      ∃ left, afterRun ok run ys = some left ∧
        Spans gap (fun x y => ok x y = true) (gap :: pattern) left := by
  constructor
  · intro h
    generalize hpattern : gap :: (run ++ gap :: pattern) = p at h
    cases h with
    | nil => cases hpattern
    | gap skipped h =>
      obtain ⟨-, rfl⟩ := List.cons.inj hpattern
      obtain ⟨part, rest, rfl, hpart, h⟩ := (spans_append_iff hrun).mp h
      obtain ⟨left, hleft, more, rfl⟩ := exists_afterRun hpart skipped rest
      exact ⟨_, hleft, h.gap_append more⟩
    | item hne => exact absurd (List.cons.inj hpattern).1.symm hne
  · rintro ⟨left, hleft, h⟩
    obtain ⟨skipped, part, rfl, hpart⟩ := exists_of_afterRun hleft
    exact .gap skipped ((spans_append_iff hrun).mpr ⟨part, left, rfl, hpart, h⟩)

/-- A pattern without gaps stands for the lists of its length that match it item by item. -/
theorem spans_iff_zip {xs : List α} {ys : List β} (hgap : gap ∉ xs) :
    Spans gap (fun x y => ok x y = true) xs ys ↔
      xs.length = ys.length ∧ ∀ p ∈ xs.zip ys, ok p.1 p.2 = true := by
  rw [← List.append_nil xs, spans_append_iff hgap, List.append_nil]
  constructor
  · rintro ⟨part, rest, rfl, hpart, h⟩
    cases h
    rw [List.append_nil]
    exact List.forall₂_iff_zip.mp hpart |>.imp_right fun h p hp => h hp
  · rintro ⟨hlength, hall⟩
    exact ⟨ys, [], by simp, List.forall₂_iff_zip.mpr ⟨hlength, fun hp => hall _ hp⟩, .nil⟩

end Spans

/-! ### The loops -/

section Loops

variable {α β : Type} [DecidableEq α] {gap : α} {ok : α → β → Bool} {xs : List α} {ys : List β}
  {asks : List α → List β → Prop} {w : Windows} {pattern : List α} {part : List β}

/-- A question about a pattern and a list that the loops may take apart: item by item up to a gap, gaps
next to each other as one, and a run between two gaps at its first place. -/
structure Peels (gap : α) (ok : α → β → Bool) (asks : List α → List β → Prop) : Prop where
  item : ∀ {x y pattern part}, x ≠ gap →
    (asks (x :: pattern) (y :: part) ↔ ok x y = true ∧ asks pattern part)
  gaps : ∀ {pattern part}, asks (gap :: gap :: pattern) part ↔ asks (gap :: pattern) part
  run : ∀ {run pattern part}, gap ∉ run → (asks (gap :: (run ++ gap :: pattern)) part ↔
    ∃ left, afterRun ok run part = some left ∧ asks (gap :: pattern) left)

omit [DecidableEq α] in
/-- Whether a pattern stands for a list is such a question. -/
theorem spans_peels : Peels gap ok (Spans gap fun x y => ok x y = true) where
  item := fun hx => spans_cons_iff hx
  gaps := spans_gap_gap_iff
  run := fun hrun => spans_run_iff hrun

/-- A loop that does not fail.  It answers no only if this is the answer for what its windows show;
otherwise it leaves windows that ask the same question. -/
def Narrows (asks : List α → List β → Prop) (xs : List α) (ys : List β) (pattern : List α)
    (part : List β) (ends : List α → List β → Prop) (answer : Option (Option Windows)) : Prop :=
  (answer = some none ∧ ¬asks pattern part) ∨
    ∃ w pattern' part', answer = some (some w) ∧ w.Show xs ys pattern' part' ∧
      (asks pattern part ↔ asks pattern' part') ∧ ends pattern' part'

omit [DecidableEq α] in
/-- A loop that goes on with a smaller question. -/
theorem Narrows.of_iff {pattern' : List α} {part' : List β} {ends : List α → List β → Prop}
    {answer : Option (Option Windows)} (h : Narrows asks xs ys pattern' part' ends answer)
    (hiff : asks pattern part ↔ asks pattern' part') :
    Narrows asks xs ys pattern part ends answer := by
  rcases h with ⟨hanswer, hno⟩ | ⟨w, pattern'', part'', hanswer, hshow, hsame, hends⟩
  · exact Or.inl ⟨hanswer, fun h => hno (hiff.mp h)⟩
  · exact Or.inr ⟨w, pattern'', part'', hanswer, hshow, hiff.trans hsame, hends⟩

omit [DecidableEq α] in
theorem Narrows.imp {ends ends' : List α → List β → Prop} {answer : Option (Option Windows)}
    (h : Narrows asks xs ys pattern part ends answer)
    (himp : ∀ {pattern part}, ends pattern part → ends' pattern part) :
    Narrows asks xs ys pattern part ends' answer := by
  rcases h with hno | ⟨w, pattern', part', hanswer, hshow, hsame, hends⟩
  · exact Or.inl hno
  · exact Or.inr ⟨w, pattern', part', hanswer, hshow, hsame, himp hends⟩

/-- **From the front.**  Induction on what the window on the list shows. -/
theorem scanFront_narrows (hasks : Peels gap ok asks) (h : w.Show xs ys pattern part)
    (hgap : gap ∈ pattern) : Narrows asks xs ys pattern part
      (fun left part => left <:+ pattern ∧ gap ∈ left ∧ (part ≠ [] → left.head? = some gap))
      (scanFront gap ok xs ys w) := by
  induction part generalizing w pattern with
  | nil =>
    obtain ⟨x, rest, rfl⟩ := List.exists_cons_of_ne_nil (List.ne_nil_of_mem hgap)
    have hclosed : ¬w.listStart < w.listStop := fun hlt => h.list.lt_iff.mp hlt rfl
    rw [scanFront, h.pattern.head.1]
    dsimp only
    rw [if_neg fun hopen => hclosed hopen.2]
    exact Or.inr ⟨w, _, _, rfl, h, Iff.rfl, List.suffix_rfl, hgap, fun hne => absurd rfl hne⟩
  | cons y part ih =>
    obtain ⟨x, rest, rfl⟩ := List.exists_cons_of_ne_nil (List.ne_nil_of_mem hgap)
    obtain ⟨hx, hrest⟩ := h.pattern.head
    obtain ⟨hy, hpart⟩ := h.list.head
    have hopen : w.listStart < w.listStop := h.list.lt_iff.mpr (by simp)
    rw [scanFront, hx]
    dsimp only
    by_cases hgapped : x = gap
    · rw [if_neg fun hne => hne.1 hgapped, hgapped]
      exact Or.inr ⟨w, _, _, rfl, hgapped ▸ h, Iff.rfl, List.suffix_rfl, by simp, fun _ => rfl⟩
    · rw [if_pos ⟨hgapped, hopen⟩, hy]
      dsimp only
      have hiff : asks (x :: rest) (y :: part) ↔ ok x y = true ∧ asks rest part :=
        hasks.item hgapped
      by_cases hok : ok x y = true
      · rw [if_pos hok]
        have hleft : gap ∈ rest := (List.mem_cons.mp hgap).resolve_left (Ne.symm hgapped)
        have hsame : asks (x :: rest) (y :: part) ↔ asks rest part := hiff.trans (and_iff_right hok)
        exact ((ih ⟨hrest, hpart⟩ hleft).of_iff hsame).imp fun hends =>
          ⟨hends.1.trans (List.suffix_cons x rest), hends.2⟩
      · rw [if_neg hok]
        exact Or.inl ⟨rfl, fun hyes => hok (hiff.mp hyes).1⟩

/-- **From the end.**  The gap in front stays, and there is a gap at the end unless the list is used
up.  Induction on the number of items in the list. -/
theorem scanBack_narrows (h : w.Show xs ys (gap :: pattern) part) :
    Narrows (Spans gap fun x y => ok x y = true) xs ys (gap :: pattern) part
      (fun pattern part => part ≠ [] → ∃ middle, pattern = gap :: middle ∧
        (gap :: middle).getLast? = some gap)
      (scanBack gap ok xs ys w) := by
  induction part using List.reverseRecOn generalizing w pattern with
  | nil =>
    obtain ⟨front, x, hfront⟩ : ∃ front x, gap :: pattern = front ++ [x] :=
      ⟨_, _, (List.dropLast_append_getLast (List.cons_ne_nil gap pattern)).symm⟩
    have hclosed : ¬w.listStart < w.listStop := fun hlt => h.list.lt_iff.mp hlt rfl
    obtain ⟨hstop, hx, -⟩ := (hfront ▸ h.pattern).last
    rw [scanBack, if_neg hstop, hx]
    dsimp only
    rw [if_neg fun hopen => hclosed hopen.2]
    exact Or.inr ⟨w, _, _, rfl, h, Iff.rfl, fun hne => absurd rfl hne⟩
  | append_singleton part y ih =>
    obtain ⟨front, x, hfront⟩ : ∃ front x, gap :: pattern = front ++ [x] :=
      ⟨_, _, (List.dropLast_append_getLast (List.cons_ne_nil gap pattern)).symm⟩
    obtain ⟨hstop, hx, hrest⟩ := (hfront ▸ h.pattern).last
    obtain ⟨hend, hy, hpart⟩ := h.list.last
    have hopen : w.listStart < w.listStop := h.list.lt_iff.mpr (by simp)
    rw [scanBack, if_neg hstop, hx]
    dsimp only
    by_cases hgapped : x = gap
    · rw [if_neg fun hne => hne.1 hgapped]
      refine Or.inr ⟨w, _, _, rfl, h, Iff.rfl, fun _ => ⟨pattern, rfl, ?_⟩⟩
      rw [hfront, hgapped]
      exact List.getLast?_concat
    · rw [if_pos ⟨hgapped, hopen⟩, if_neg hend, hy]
      dsimp only
      have hiff : Spans gap (fun x y => ok x y = true) (front ++ [x]) (part ++ [y]) ↔
          ok x y = true ∧ Spans gap (fun x y => ok x y = true) front part :=
        spans_concat_iff hgapped
      by_cases hok : ok x y = true
      · rw [if_pos hok, hfront]
        -- the last item is no gap, so the gap in front is another item
        cases front with
        | nil => exact absurd (List.cons.inj hfront).1.symm hgapped
        | cons g front =>
          obtain rfl := (List.cons.inj hfront).1
          exact (ih ⟨hrest, hpart⟩).of_iff (hiff.trans (and_iff_right hok))
      · rw [if_neg hok, hfront]
        exact Or.inl ⟨rfl, fun hspans => hok (hiff.mp hspans).1⟩

omit [DecidableEq α] in
/-- A run is compared with what stands at a place, item by item. -/
theorem matchesAt_eq {run : List α} {window : List β} {i j : Nat}
    (hle : i + run.length ≤ window.length) (hj : j ≤ run.length) :
    matchesAt ok run window i j = some (stripRun ok (run.drop j) (window.drop (i + j))).isSome := by
  induction hn : run.length - j generalizing j with
  | zero =>
    have hend : j = run.length := by omega
    rw [matchesAt, if_neg (by omega), hend, List.drop_length, stripRun]
    rfl
  | succ n ih =>
    have hlt : j < run.length := by omega
    have hin : i + j < window.length := by omega
    rw [matchesAt, if_pos hlt, List.getElem?_eq_getElem hlt, List.getElem?_eq_getElem hin,
      List.drop_eq_getElem_cons hlt, List.drop_eq_getElem_cons hin, stripRun]
    dsimp only
    split
    · rw [ih hlt (by omega), Nat.add_assoc]
    · rfl

omit [DecidableEq α] in
/-- **The first place of a run.**  It is found by its number, and what is left after it is what is left
after the search without numbers.  Induction on the places that are left. -/
theorem findRun_eq {run : List α} {window : List β} {i : Nat} (hi : i ≤ window.length) :
    (findRun ok run window i = some none ∧ afterRun ok run (window.drop i) = none) ∨
      ∃ found, findRun ok run window i = some (some found) ∧
        found + run.length ≤ window.length ∧
        afterRun ok run (window.drop i) = some (window.drop (found + run.length)) := by
  induction hn : window.length - i generalizing i with
  | zero =>
    have hend : i = window.length := by omega
    rw [findRun, hend, List.drop_length, afterRun]
    cases run with
    | nil =>
      refine Or.inr ⟨window.length, ?_, by simp, ?_⟩
      · rw [if_pos (by simp), matchesAt_eq (by simp) (by simp)]
        rfl
      · rw [stripRun, List.length_nil, Nat.add_zero, List.drop_length]
    | cons x run =>
      rw [if_neg (by simp), stripRun]
      exact Or.inl ⟨rfl, rfl⟩
  | succ n ih =>
    have hlt : i < window.length := by omega
    have hstep := ih (i := i + 1) hlt (by omega)
    rw [findRun, List.drop_eq_getElem_cons hlt, afterRun, ← List.drop_eq_getElem_cons hlt]
    by_cases hle : i + run.length ≤ window.length
    · rw [if_pos hle, matchesAt_eq hle (Nat.zero_le _), List.drop_zero, Nat.add_zero]
      cases hstrip : stripRun ok run (window.drop i) with
      | none => exact hstep
      | some rest =>
        refine Or.inr ⟨i, rfl, hle, ?_⟩
        obtain ⟨front, hwindow, hfront⟩ := stripRun_eq_some_iff.mp hstrip
        have hleft : window.drop (i + run.length) = rest := by
          rw [← List.drop_drop, hwindow, hfront.length_eq, List.drop_left]
        rw [hleft]
    · -- no room is left for the run, here or further on
      have hnone : stripRun ok run (window.drop i) = none := by
        rw [← Option.not_isSome_iff_eq_none, Option.isSome_iff_exists]
        rintro ⟨rest, hstrip⟩
        obtain ⟨front, hwindow, hfront⟩ := stripRun_eq_some_iff.mp hstrip
        have hlength := congrArg List.length hwindow
        rw [List.length_drop, List.length_append, ← hfront.length_eq] at hlength
        omega
      rw [if_neg hle, hnone]
      rw [findRun, if_neg (by omega)] at hstep
      exact hstep

/-- The gap after a run is found at the run's length. -/
theorem findIdx?_gap {run rest : List α} (hrun : gap ∉ run) :
    (run ++ gap :: rest).findIdx? (· = gap) = some run.length := by
  have hnone : run.findIdx? (· = gap) = none := by
    rw [List.findIdx?_eq_none_iff]
    intro x hx
    exact decide_eq_false fun heq => hrun (heq ▸ hx)
  rw [List.findIdx?_append, hnone, List.findIdx?_cons]
  simp

/-- **Run by run.**  Each round takes the pattern from one gap to the next.  Induction on the part of the
pattern after the gap in front. -/
theorem scanRuns_narrows (hasks : Peels gap ok asks) (h : w.Show xs ys (gap :: pattern) part)
    (hlast : (gap :: pattern).getLast? = some gap) :
    Narrows asks xs ys (gap :: pattern) part
      (fun pattern part => pattern ≠ [] ∧ (part ≠ [] → pattern = [gap])) (scanRuns gap ok xs ys w) := by
  induction hn : pattern.length using Nat.strong_induction_on generalizing w pattern part with
  | h n ih =>
    obtain ⟨-, hpattern⟩ := h.pattern.head
    rw [scanRuns]
    by_cases hopen : w.patternStart + 1 < w.patternStop ∧ w.listStart < w.listStop
    · rw [if_pos hopen, hpattern.slice?_eq]
      dsimp only
      have hne : pattern ≠ [] := hpattern.lt_iff.mp hopen.1
      have hmem : gap ∈ pattern := by
        rw [List.getLast?_cons_of_ne_nil hne] at hlast
        exact List.mem_of_getLast? hlast
      obtain ⟨run, rest, rfl, hrun⟩ := List.eq_append_cons_of_mem hmem
      have hnext : (gap :: rest).getLast? = some gap := by
        rw [← hlast, ← List.cons_append, List.getLast?_append_cons]
      have hless : rest.length < n := by
        rw [← hn, List.length_append, List.length_cons]
        omega
      obtain ⟨hshown, hleft⟩ := hpattern.append
      rw [findIdx?_gap hrun]
      cases run with
      | nil =>
        have hshow : Windows.Show { w with patternStart := w.patternStart + 1 } xs ys (gap :: rest)
            part := ⟨hpattern, h.list⟩
        exact (ih _ hless hshow hnext rfl).of_iff hasks.gaps
      | cons x run =>
        dsimp only [List.length_cons]
        rw [← List.length_cons (a := x), hshown.slice?_eq, h.list.slice?_eq]
        dsimp only
        have hiff := @hasks.run _ rest part hrun
        rcases @findRun_eq _ _ ok (x :: run) part 0 (Nat.zero_le _) with
          ⟨hfound, hafter⟩ | ⟨found, hfound, hle, hafter⟩
        · rw [hfound]
          refine Or.inl ⟨rfl, fun hyes => ?_⟩
          obtain ⟨left, hsome, -⟩ := hiff.mp hyes
          rw [← List.drop_zero (l := part), hafter] at hsome
          cases hsome
        · rw [hfound]
          have hcut : part = part.take (found + (x :: run).length) ++
              part.drop (found + (x :: run).length) := (List.take_append_drop _ _).symm
          have hrest := (hcut ▸ h.list).append.2
          rw [List.length_take, Nat.min_eq_left hle] at hrest
          refine (ih _ hless ⟨hleft, hrest⟩ hnext rfl).of_iff (hiff.trans ?_)
          rw [← List.drop_zero (l := part), hafter]
          simp
    · rw [if_neg hopen]
      refine Or.inr ⟨w, _, _, rfl, h, Iff.rfl, List.cons_ne_nil gap pattern, fun hne => ?_⟩
      have hclosed : ¬w.patternStart + 1 < w.patternStop := fun hlt =>
        hopen ⟨hlt, h.list.lt_iff.mpr hne⟩
      rw [hpattern.lt_iff, not_not] at hclosed
      rw [hclosed]

/-- What is left of the pattern stands for what is left of the list exactly if it is nothing but gaps. -/
theorem onlyGaps_eq_some (h : w.Show xs ys pattern part) (hends : part ≠ [] → pattern = [gap]) :
    ∃ answer, onlyGaps gap xs w = some answer ∧
      (answer = true ↔ Spans gap (fun x y => ok x y = true) pattern part) := by
  refine ⟨_, by rw [onlyGaps, h.pattern.slice?_eq, Option.map_some], ?_⟩
  simp only [List.all_eq_true, decide_eq_true_eq]
  by_cases hpart : part = []
  · rw [hpart, spans_nil_iff]
  · obtain rfl := hends hpart
    exact iff_of_true (by simp) (spans_gap part)

omit [DecidableEq α] in
/-- After a loop that asks for less, it is enough to answer what its windows show. -/
theorem Narrows.proceed_eq_some {ends : List α → List β → Prop} {answer : Option (Option Windows)}
    (h : Narrows asks xs ys pattern part ends answer) {next : Windows → Option Bool}
    (hnext : ∀ {w pattern part}, Windows.Show w xs ys pattern part → ends pattern part →
      ∃ b, next w = some b ∧ (b = true ↔ asks pattern part)) :
    ∃ b, proceed answer next = some b ∧ (b = true ↔ asks pattern part) := by
  rcases h with ⟨rfl, hno⟩ | ⟨w, pattern', part', rfl, hshow, hsame, hends⟩
  · exact ⟨false, rfl, iff_of_false (by simp) hno⟩
  · rw [hsame]
    exact hnext hshow hends

/-- **The search by places never fails.**  No item outside is read, no two places are in the wrong order,
and the answer says whether the pattern stands for the list. -/
theorem scanGaps_eq_some (gap : α) (ok : α → β → Bool) (xs : List α) (ys : List β) :
    ∃ answer, scanGaps gap ok xs ys = some answer ∧
      (answer = true ↔ Spans gap (fun x y => ok x y = true) xs ys) := by
  rw [scanGaps]
  by_cases hgap : gap ∈ xs
  swap
  · rw [if_pos hgap, spans_iff_zip hgap]
    exact ⟨_, rfl, by simp⟩
  rw [if_neg (not_not.mpr hgap)]
  by_cases hone : xs.length = 1
  · rw [if_pos hone]
    obtain ⟨x, rfl⟩ := List.length_eq_one_iff.mp hone
    obtain rfl := List.mem_singleton.mp hgap
    exact ⟨true, rfl, iff_of_true rfl (spans_gap ys)⟩
  rw [if_neg hone]
  refine (scanFront_narrows spans_peels ⟨.whole xs, .whole ys⟩ hgap).proceed_eq_some fun hfront hhead => ?_
  split
  next hused => exact onlyGaps_eq_some hfront fun hne => absurd (hfront.list.eq_iff.mp hused) hne
  next hused =>
  obtain ⟨rest, rfl⟩ := List.head?_eq_some_iff.mp
    (hhead.2.2 fun hnil => hused (hfront.list.eq_iff.mpr hnil))
  refine (scanBack_narrows hfront).proceed_eq_some fun hback hends => ?_
  split
  next hused => exact onlyGaps_eq_some hback fun hne => absurd (hback.list.eq_iff.mp hused) hne
  next hused =>
  obtain ⟨middle, rfl, hlast⟩ := hends fun hnil => hused (hback.list.eq_iff.mpr hnil)
  exact (scanRuns_narrows spans_peels hback hlast).proceed_eq_some fun hruns hends =>
    onlyGaps_eq_some hruns hends.2

end Loops

/-- **A wildcard is matched without leaving the pattern or the name.**  The search by places ends with an
answer.  It is yes exactly if the name can be written with a run of characters for every `*`, one
character for every `?`, and for every other character of the pattern this character or, where case does
not count, one with the same lower case; and this is the answer of `wildcardMatches`. -/
theorem scanName_eq_some (caseSensitive : Bool) (pattern name : Text) :
    ∃ answer, scanName caseSensitive pattern name = some answer ∧
      (answer = true ↔ NameMatches caseSensitive pattern name) ∧
      wildcardMatches caseSensitive pattern name = answer := by
  obtain ⟨answer, hscan, hanswer⟩ := scanGaps_eq_some '*' (sameChar caseSensitive) pattern name
  have hmatches : answer = true ↔ NameMatches caseSensitive pattern name := by
    rw [hanswer, NameMatches]
    simp only [sameChar_iff]
  refine ⟨answer, hscan, hmatches, ?_⟩
  rw [Bool.eq_iff_iff, hmatches, wildcardMatches_iff]

end LicenseHeader.Glob
