import LicenseHeader.Report.Writing
import Mathlib.Data.List.Basic

/-!
# Reading the table of a report

A reader of tables goes through a text character by character.  Fields are separated by commas and records
end with a line feed; a field may stand in quotes, and then a quote in it is doubled.  Any other quote is
refused.  The table of a report gives such a reader one record with the names of the columns and one for
each file, whatever characters are in the paths and messages, and then the blank line before the summary.

* `Csv.Reader.step`, `Csv.Reader.run` and `Csv.read?`: one character, a text, a whole table;
* `run_withRecords`: what has been read before does not matter;
* `run_field`: a written field is read as the field;
* `run_line`: a line of fields is read as a record;
* `isSome_read?_of_noQuote`: a text without quotes can be read;
* `Report.read?_toCsv` is the result.
-/

namespace LicenseHeader

namespace Csv

/-! ### The reader -/

/-- Where a reader stands in a field. -/
inductive Mode where
  /-- Before its first character. -/
  | fresh
  /-- In a field without quotes. -/
  | plain
  /-- Behind the quote that begins a field. -/
  | quoted
  /-- Behind a quote in such a field, which is its end or the first of two. -/
  | closed
  deriving DecidableEq, Repr

/-- What a reader has read. -/
structure Reader where
  /-- The records that have ended. -/
  records : List (List Text) := []
  /-- The fields of the current record that have ended. -/
  fields : List Text := []
  /-- The characters of the current field. -/
  field : Text := []
  mode : Mode := .fresh
  deriving DecidableEq, Repr

namespace Reader

/-- A character that is no quote is read outside of quotes. -/
def stepPlain (r : Reader) (c : Char) : Reader :=
  if c = ',' then { r with fields := r.fields ++ [r.field], field := [], mode := .fresh }
  else if c = '\n' then { records := r.records ++ [r.fields ++ [r.field]] }
  else { r with field := r.field ++ [c], mode := .plain }

/-- One character is read. -/
def step (r : Reader) (c : Char) : Option Reader :=
  match r.mode with
  | .fresh => some (if c = '"' then { r with mode := .quoted } else r.stepPlain c)
  | .plain => if c = '"' then none else some (r.stepPlain c)
  | .quoted =>
    some (if c = '"' then { r with mode := .closed } else { r with field := r.field ++ [c] })
  | .closed =>
    if c = '"' then some { r with field := r.field ++ [c], mode := .quoted }
    else if c = ',' ∨ c = '\n' then some (r.stepPlain c)
    else none

/-- A text is read. -/
def run (r : Reader) (t : Text) : Option Reader := t.foldlM step r

/-- The records at the end of a text.  The last line may lack its line feed, but not a quote. -/
def finish (r : Reader) : Option (List (List Text)) :=
  if r.mode = .quoted then none
  else if r.mode = .fresh ∧ r.fields = [] then some r.records
  else some (r.records ++ [r.fields ++ [r.field]])

theorem run_cons {r next : Reader} {c : Char} (h : r.step c = some next) (t : Text) :
    r.run (c :: t) = next.run t := by
  rw [run, List.foldlM_cons, h]
  rfl

/-! ### Records that have been read before -/

/-- The reader with some records in front of its own. -/
def withRecords (before : List (List Text)) (r : Reader) : Reader :=
  { r with records := before ++ r.records }

theorem stepPlain_withRecords (before : List (List Text)) (r : Reader) (c : Char) :
    (r.withRecords before).stepPlain c = (r.stepPlain c).withRecords before := by
  unfold stepPlain withRecords
  split
  · rfl
  · split
    · simp
    · rfl

theorem step_withRecords (before : List (List Text)) (r : Reader) (c : Char) :
    (r.withRecords before).step c = (r.step c).map (withRecords before) := by
  have hplain := stepPlain_withRecords before r c
  have hmode : (r.withRecords before).mode = r.mode := rfl
  unfold step
  rw [hmode, hplain]
  cases r.mode with
  | fresh => by_cases hquote : c = '"' <;> simp [hquote, withRecords]
  | plain => by_cases hquote : c = '"' <;> simp [hquote]
  | quoted => by_cases hquote : c = '"' <;> simp [hquote, withRecords]
  | closed =>
    by_cases hquote : c = '"'
    · simp [hquote, withRecords]
    · by_cases hend : c = ',' ∨ c = '\n' <;> simp [hquote, hend]

theorem run_withRecords (before : List (List Text)) (r : Reader) (t : Text) :
    (r.withRecords before).run t = (r.run t).map (withRecords before) := by
  induction t generalizing r with
  | nil => rfl
  | cons c t ih =>
    have hstep := step_withRecords before r c
    cases hnext : r.step c with
    | none =>
      rw [hnext] at hstep
      simp [run, hstep, hnext]
    | some next =>
      rw [hnext] at hstep
      rw [run_cons hstep, run_cons hnext, ih]

theorem finish_withRecords (before : List (List Text)) (r : Reader) :
    (r.withRecords before).finish = r.finish.map (before ++ ·) := by
  unfold finish withRecords
  dsimp only
  split
  · rfl
  · split
    · rfl
    · simp

/-! ### Fields -/

theorem needsQuotes_cons_eq_false_iff {c : Char} {t : Text} :
    needsQuotes (c :: t) = false ↔ (c ≠ ',' ∧ c ≠ '"' ∧ c ≠ '\n') ∧ needsQuotes t = false := by
  simp only [needsQuotes, List.any_cons, Bool.or_eq_false_iff, beq_eq_false_iff_ne, and_assoc]

/-- A text without commas, quotes and line feeds is read in a field without quotes. -/
theorem run_plain (records : List (List Text)) (fields : List Text) (field : Text) {t : Text}
    (h : needsQuotes t = false) (rest : Text) :
    run ⟨records, fields, field, .plain⟩ (t ++ rest) = run ⟨records, fields, field ++ t, .plain⟩ rest := by
  induction t generalizing field with
  | nil => simp
  | cons c t ih =>
    obtain ⟨hc, ht⟩ := needsQuotes_cons_eq_false_iff.mp h
    have hstep : step ⟨records, fields, field, .plain⟩ c =
        some ⟨records, fields, field ++ [c], .plain⟩ := by
      simp [step, stepPlain, hc]
    rw [List.cons_append, run_cons hstep, ih _ ht, List.append_assoc]
    rfl

/-- A text with its quotes doubled is read in a field with quotes. -/
theorem run_quoted (records : List (List Text)) (fields : List Text) (field t rest : Text) :
    run ⟨records, fields, field, .quoted⟩
        (t.flatMap (fun c => if c = '"' then ['"', '"'] else [c]) ++ rest) =
      run ⟨records, fields, field ++ t, .quoted⟩ rest := by
  induction t generalizing field with
  | nil => simp
  | cons c t ih =>
    rw [List.flatMap_cons, List.append_assoc]
    by_cases hquote : c = '"'
    · subst hquote
      have hfirst : step ⟨records, fields, field, .quoted⟩ '"' =
          some ⟨records, fields, field, .closed⟩ := rfl
      have hsecond : step ⟨records, fields, field, .closed⟩ '"' =
          some ⟨records, fields, field ++ ['"'], .quoted⟩ := rfl
      rw [if_pos rfl, List.cons_append, run_cons hfirst, List.cons_append, run_cons hsecond,
        List.nil_append, ih, List.append_assoc]
      rfl
    · have hstep : step ⟨records, fields, field, .quoted⟩ c =
          some ⟨records, fields, field ++ [c], .quoted⟩ := by
        simp [step, hquote]
      rw [if_neg hquote, List.cons_append, run_cons hstep, List.nil_append, ih, List.append_assoc]
      rfl

/-- **A field is read back**, whatever is in it, when a comma or a line feed ends it. -/
theorem run_field (records : List (List Text)) (fields : List Text) (t : Text) {c : Char}
    (hc : c = ',' ∨ c = '\n') (rest : Text) :
    run ⟨records, fields, [], .fresh⟩ (Csv.field t ++ c :: rest) =
      run (stepPlain ⟨records, fields, t, .plain⟩ c) rest := by
  have hquote : c ≠ '"' := by rcases hc with rfl | rfl <;> decide
  -- the character that ends the field does away with the mode
  have hends : ∀ mode, stepPlain ⟨records, fields, t, mode⟩ c =
      stepPlain ⟨records, fields, t, .plain⟩ c := by
    intro mode
    rcases hc with rfl | rfl <;> rfl
  rw [Csv.field]
  split
  · have hopen : step ⟨records, fields, [], .fresh⟩ '"' = some ⟨records, fields, [], .quoted⟩ := rfl
    have hclose : step ⟨records, fields, t, .quoted⟩ '"' = some ⟨records, fields, t, .closed⟩ := rfl
    have hend : step ⟨records, fields, t, .closed⟩ c =
        some (stepPlain ⟨records, fields, t, .plain⟩ c) := by
      simp only [step, hquote, if_false, if_pos hc, hends]
    rw [quote, List.cons_append, List.cons_append, run_cons hopen, List.append_assoc, run_quoted,
      List.nil_append, List.cons_append, run_cons hclose, List.nil_append, run_cons hend]
  next hplain =>
    have hend : step ⟨records, fields, t, .plain⟩ c =
        some (stepPlain ⟨records, fields, t, .plain⟩ c) := if_neg hquote
    cases t with
    | nil =>
      have hstart : step ⟨records, fields, [], .fresh⟩ c =
          some (stepPlain ⟨records, fields, [], .plain⟩ c) := by
        simp only [step, hquote, if_false, hends]
      rw [List.nil_append, run_cons hstart]
    | cons first t =>
      obtain ⟨hfirst, ht⟩ := needsQuotes_cons_eq_false_iff.mp (Bool.eq_false_iff.mpr hplain)
      have hstart : step ⟨records, fields, [], .fresh⟩ first =
          some ⟨records, fields, [first], .plain⟩ := by
        simp [step, stepPlain, hfirst]
      rw [List.cons_append, run_cons hstart, run_plain _ _ _ ht, List.singleton_append, run_cons hend]

/-! ### Lines -/

/-- **A line is read back** as a record with its fields.  Induction on the fields, with those that have
been read before. -/
theorem run_line (records : List (List Text)) (fields : List Text) {texts : List Text}
    (h : texts ≠ []) (rest : Text) :
    run ⟨records, fields, [], .fresh⟩ (line (texts.map Csv.field) ++ rest) =
      run { records := records ++ [fields ++ texts] } rest := by
  induction texts generalizing fields with
  | nil => exact absurd rfl h
  | cons t texts ih =>
    cases texts with
    | nil =>
      have hline : line (List.map Csv.field [t]) ++ rest = Csv.field t ++ '\n' :: rest := by
        simp [line, Text.joinWith]
      rw [hline, run_field _ _ _ (Or.inr rfl)]
      rfl
    | cons next texts =>
      have hline : line (List.map Csv.field (t :: next :: texts)) ++ rest =
          Csv.field t ++ ',' :: (line (List.map Csv.field (next :: texts)) ++ rest) := by
        simp [line, Text.joinWith]
      have hcomma : stepPlain ⟨records, fields, t, .plain⟩ ',' =
          ⟨records, fields ++ [t], [], .fresh⟩ := rfl
      rw [hline, run_field _ _ _ (Or.inl rfl), hcomma, ih _ (List.cons_ne_nil _ _),
        List.append_assoc, List.singleton_append]

/-- A text without quotes is never refused. -/
theorem exists_run_of_noQuote {t : Text} (h : '"' ∉ t) {r : Reader}
    (hmode : r.mode = .fresh ∨ r.mode = .plain) :
    ∃ last, r.run t = some last ∧ last.mode ≠ .quoted := by
  induction t generalizing r with
  | nil => exact ⟨r, rfl, by rcases hmode with hmode | hmode <;> rw [hmode] <;> decide⟩
  | cons c t ih =>
    obtain ⟨hquote, ht⟩ := List.ne_and_not_mem_of_not_mem_cons h
    have hstep : r.step c = some (r.stepPlain c) := by
      unfold step
      rcases hmode with hmode | hmode <;> simp [hmode, Ne.symm hquote]
    have hnext : (r.stepPlain c).mode = .fresh ∨ (r.stepPlain c).mode = .plain := by
      unfold stepPlain
      split
      · exact Or.inl rfl
      · split
        · exact Or.inl rfl
        · exact Or.inr rfl
    rw [run_cons hstep]
    exact ih ht hnext

end Reader

/-! ### Whole tables -/

/-- The records of a table. -/
def read? (t : Text) : Option (List (List Text)) := (Reader.run {} t).bind Reader.finish

-- a comma, a quote and a line feed in one field; a quote that ends a field too early
example : read? "a,\",\"\"\n\"\n".toList = some [["a".toList, ",\"\n".toList]] ∧
    read? "\"a\"b\n".toList = none := by
  decide

theorem read?_line_append {texts : List Text} (h : texts ≠ []) (rest : Text) :
    read? (line (texts.map field) ++ rest) = (read? rest).map (texts :: ·) := by
  have hrun : Reader.run {} (line (texts.map field) ++ rest) =
      (Reader.run {} rest).map (Reader.withRecords [texts]) := by
    rw [Reader.run_line [] [] h]
    exact Reader.run_withRecords [texts] {} rest
  rw [read?, hrun, read?]
  cases Reader.run {} rest with
  | none => rfl
  | some r => exact Reader.finish_withRecords [texts] r

theorem read?_feed (rest : Text) : read? ('\n' :: rest) = (read? rest).map ([[]] :: ·) :=
  read?_line_append (List.cons_ne_nil [] []) rest

theorem isSome_read?_of_noQuote {t : Text} (h : '"' ∉ t) : (read? t).isSome = true := by
  obtain ⟨last, hrun, hmode⟩ := Reader.exists_run_of_noQuote h (r := {}) (Or.inl rfl)
  rw [read?, hrun, Option.bind_some, Reader.finish, if_neg hmode]
  split <;> rfl

end Csv

/-! ### Tables of reports -/

theorem Text.noQuote_ofNat (n : Nat) : '"' ∉ ofNat n := by
  intro h
  exact absurd (Nat.isDigit_of_mem_toDigits (by decide) (by decide) h) (by decide)

theorem Double.noQuote_fixed (places : Nat) (d : Double) : '"' ∉ d.fixed places := by
  cases d with
  | nan => simp [fixed]
  | infinite negative => cases negative <;> simp [fixed]
  | finite negative mantissa exponent =>
    have hpadded : ∀ width n, '"' ∉ Text.ofNatPadded width n := by
      intro width n
      simp [Text.ofNatPadded, Text.noQuote_ofNat, List.mem_replicate]
    cases negative <;> simp [fixed, hpadded, Text.noQuote_ofNat]

namespace Report

/-- The names of the columns. -/
def csvHeading : List Text := ["file_path".toList, "outcome".toList, "message".toList]

/-- The record of a file: its path as shown, the name of its outcome and the message, if it has one. -/
def csvRecord (base : Path) (entry : Path × Outcome) : List Text :=
  [Path.shownFrom base entry.1, entry.2.name, entry.2.message?.getD []]

theorem csvLine_eq (base : Path) (entry : Path × Outcome) :
    csvLine base entry.1 entry.2 = Csv.line ((csvRecord base entry).map Csv.field) := by
  obtain ⟨path, o⟩ := entry
  cases o <;> rfl

theorem read?_csvLines (base : Path) (entries : List (Path × Outcome)) (rest : Text) :
    Csv.read? (entries.flatMap (fun e => csvLine base e.1 e.2) ++ rest) =
      (Csv.read? rest).map (entries.map (csvRecord base) ++ ·) := by
  induction entries with
  | nil => simp
  | cons entry entries ih =>
    have hne : csvRecord base entry ≠ [] := List.cons_ne_nil _ _
    rw [List.flatMap_cons, List.append_assoc, csvLine_eq, Csv.read?_line_append hne, ih, Option.map_map]
    rfl

/-- The lines of a table above its blank line. -/
def csvRows (base : Path) (entries : List (Path × Outcome)) : Text :=
  Csv.line csvHeading ++ entries.flatMap fun e => csvLine base e.1 e.2

theorem toCsv_eq (r : Report) (timing : Timing) (base : Path) :
    r.toCsv timing base = csvRows base r.entries ++ '\n' :: r.csvSummary timing := rfl

theorem read?_csvRows (base : Path) (entries : List (Path × Outcome)) (rest : Text) :
    Csv.read? (csvRows base entries ++ rest) =
      (Csv.read? rest).map (csvHeading :: entries.map (csvRecord base) ++ ·) := by
  have hheading : csvHeading = csvHeading.map Csv.field := by decide
  have hne : csvHeading ≠ [] := List.cons_ne_nil _ _
  rw [csvRows, List.append_assoc, hheading, Csv.read?_line_append hne, read?_csvLines, Option.map_map,
    ← hheading]
  rfl

theorem noQuote_csvSummary (r : Report) {timing : Timing} (hdate : '"' ∉ timing.date) :
    '"' ∉ r.csvSummary timing := by
  have hline : ∀ s t : Text, '"' ∉ s → '"' ∉ t → '"' ∉ Csv.line [s, t] := by
    intro s t hs ht
    simp [Csv.line, Text.joinWith, hs, ht]
  have haction : ∀ action : Action, '"' ∉ action.text := by
    intro action
    cases action <;> decide
  have hcounts : ∀ s : Summary,
      '"' ∉ s.counts.flatMap (fun count => Csv.line [count.1, Text.ofNat count.2]) := by
    intro s h
    obtain ⟨e, he, hquote⟩ := List.mem_flatMap.mp h
    have hlabel : '"' ∉ e.1 := by
      have hlabels : s.counts.map Prod.fst = (Summary.counts { action := .check }).map Prod.fst := rfl
      have hnone : ∀ label ∈ (Summary.counts { action := .check }).map Prod.fst, '"' ∉ label := by decide
      exact hnone e.1 (hlabels ▸ List.mem_map_of_mem he)
    exact hline _ _ hlabel (Text.noQuote_ofNat _) hquote
  have hdate' : '"' ∉ (Summary.ofReport r timing).timing.date := by
    rw [Summary.ofReport, Summary.timing_foldl_add]
    exact hdate
  simp only [csvSummary, List.mem_append, not_or]
  refine ⟨⟨⟨⟨⟨by decide, hline _ _ (by decide) (haction _)⟩, ?_⟩, hcounts _⟩, ?_⟩, ?_⟩
  · exact hline _ _ (by decide) (Text.noQuote_ofNat _)
  · exact hline _ _ (by decide) (Double.noQuote_fixed _ _)
  · exact hline _ _ (by decide) hdate'

/-- **The table of a report is read back.**  For every list of files, with whatever paths and messages,
and every text below the blank line, a reader finds the record with the names of the columns, then the
record of each file, and then the blank line.  The table of a report is such a text, with a summary below
the blank line that can be read as well unless a quote is in the date. -/
theorem read?_toCsv (base : Path) :
    (∀ (entries : List (Path × Outcome)) (rest : Text),
      Csv.read? (csvRows base entries ++ '\n' :: rest) =
        (Csv.read? rest).map fun more =>
          csvHeading :: entries.map (csvRecord base) ++ [[]] :: more) ∧
    ∀ (r : Report) (timing : Timing),
      r.toCsv timing base = csvRows base r.entries ++ '\n' :: r.csvSummary timing ∧
      ('"' ∉ timing.date → ∃ summary, Csv.read? (r.csvSummary timing) = some summary ∧
        Csv.read? (r.toCsv timing base) =
          some (csvHeading :: r.entries.map (csvRecord base) ++ [[]] :: summary)) := by
  refine ⟨fun entries rest => ?_, fun r timing => ⟨toCsv_eq r timing base, fun hdate => ?_⟩⟩
  · rw [read?_csvRows, Csv.read?_feed, Option.map_map]
    rfl
  · obtain ⟨summary, hsummary⟩ :=
      Option.isSome_iff_exists.mp (Csv.isSome_read?_of_noQuote (r.noQuote_csvSummary hdate))
    refine ⟨summary, hsummary, ?_⟩
    rw [toCsv_eq, read?_csvRows, Csv.read?_feed, hsummary]
    rfl

/-- A path with a comma and quotes, and a message of two lines. -/
theorem read?_toCsv_quotes :
    let r : Report := {
      action := .check
      outcomes := [
        (⟨"/w/a,\"1\".c".toList⟩, .missing),
        (⟨"/w/b.c".toList⟩, .error "no \"b\",\nor no right".toList)] }
    let timing : Timing := { date := "2026-01-01 00:00:00".toList }
    '"' ∉ timing.date ∧
    ∃ summary, Csv.read? (r.toCsv timing ⟨"/w".toList⟩) = some ([
      ["file_path".toList, "outcome".toList, "message".toList],
      ["a,\"1\".c".toList, "missing".toList, []],
      ["b.c".toList, "error".toList, "no \"b\",\nor no right".toList],
      [[]]] ++ summary) := by
  intro r timing
  have hdate : '"' ∉ timing.date := by decide
  have hentries : r.entries = r.outcomes := List.mergeSort_of_pairwise (by decide)
  have hrecords : r.outcomes.map (csvRecord ⟨"/w".toList⟩) = [
      ["a,\"1\".c".toList, "missing".toList, []],
      ["b.c".toList, "error".toList, "no \"b\",\nor no right".toList]] := by decide +kernel
  obtain ⟨summary, -, hread⟩ := ((read?_toCsv ⟨"/w".toList⟩).2 r timing).2 hdate
  rw [hentries, hrecords] at hread
  exact ⟨hdate, summary, hread⟩

end Report

end LicenseHeader
