import LicenseHeader.Proofs.Repository.Crediting
import Mathlib.Data.Int.Init
import Mathlib.Tactic.ByContra
import Std.Data.String.ToInt

/-!
# The years of a file

A file was created in the year of the first commit that changed it and modified in the year of the last
one.  Which of two commits came first is a matter of instants, but the year of a commit is the one that
the clock of its own time zone shows.  So the two years can stand in the wrong order, if the clock of the
last commit shows an earlier time than that of the first and a new year lies between the two times.

* `CalendarDay.newYear`: the day on which a year begins, from the lengths of the years;
* `EraDay`: the days of four hundred years, told by centuries, groups of four years, years and days;
* `CalendarDay.le_year_iff`: the year of a day is the last one that has begun;
* `Instant.toInt?_yearNumber`: the year is written as a number;
* `FileHistory.created_year_le_iff`: when the two years of a file are in order;
* `History.years_of_commits` is the result, and `History.years_inverted` a file whose years are not.
-/

namespace LicenseHeader

/-! ### The start of a year -/

namespace CalendarDay

/-- Whether a year has one day more: every fourth year has it, but of the full centuries only every
fourth. -/
def IsLeap (year : Int) : Prop := 4 ∣ year ∧ (100 ∣ year → 400 ∣ year)

instance (year : Int) : Decidable (IsLeap year) := inferInstanceAs (Decidable (_ ∧ _))

/-- The number of days from the first of January 1970 to that of a year. -/
def newYear (year : Int) : Int :=
  365 * (year - 1970) + ((year - 1) / 4 - (year - 1) / 100 + (year - 1) / 400 - 477)

example : newYear 1970 = 0 := by decide

theorem newYear_succ (year : Int) :
    newYear (year + 1) = newYear year + if IsLeap year then 366 else 365 := by
  unfold newYear
  by_cases hleap : IsLeap year
  · rw [if_pos hleap]
    obtain ⟨hfourth, hcentury⟩ := hleap
    omega
  · rw [if_neg hleap]
    unfold IsLeap at hleap
    omega

/-- Years have 365 days or more.  Induction on the years between. -/
theorem newYear_add_le {year later : Int} (h : year ≤ later) :
    newYear year + 365 * (later - year) ≤ newYear later := by
  induction later, h using Int.leInduction with
  | base => omega
  | succ later _ ih =>
    have hstep : newYear later + 365 ≤ newYear (later + 1) := by
      rw [newYear_succ]
      split <;> omega
    omega

theorem newYear_le_newYear {year later : Int} (h : year ≤ later) : newYear year ≤ newYear later := by
  have hdays := newYear_add_le h
  omega

end CalendarDay

/-! ### The days of four hundred years -/

/-- A day of four hundred years that begin in March, so that a leap day is the last of its year. -/
structure EraDay where
  century : Nat
  /-- The group of four years in the century. -/
  group : Nat
  /-- The year in the group. -/
  year : Nat
  /-- The day in the year. -/
  day : Nat
  century_lt : century < 4
  group_lt : group < 25
  year_lt : year < 4
  /-- A year has a leap day if it is the last of its group, and the last group of a century has none
  unless the century is the last one. -/
  day_lt : day < 365 ∨ day = 365 ∧ year = 3 ∧ (group < 24 ∨ century = 3)

namespace EraDay

/-- The number of days before a day. -/
def number (e : EraDay) : Nat := 36524 * e.century + 1461 * e.group + 365 * e.year + e.day

/-- The number of years before the year of a day. -/
def yearOfEra (e : EraDay) : Nat := 100 * e.century + 4 * e.group + e.year

theorem exists_number_eq {n : Nat} (h : n < 146097) : ∃ e : EraDay, e.number = n := by
  -- the last day of all would be the first of a fifth century, and a leap day that of a fifth year
  let century := min (n / 36524) 3
  let ofCentury := n - 36524 * century
  let year := min (ofCentury % 1461 / 365) 3
  refine ⟨⟨century, ofCentury / 1461, year, ofCentury % 1461 - 365 * year, ?_, ?_, ?_, ?_⟩, ?_⟩
  case refine_5 => simp only [number]; omega
  all_goals omega

/-- The number of years is found from the number of days: leap days are taken out first, and then every
year has 365 days. -/
theorem yearOfEra_eq (e : EraDay) :
    (e.number - e.number / 1460 + e.number / 36524 - e.number / 146096) / 365 = e.yearOfEra := by
  obtain ⟨century, group, year, day, hcentury, hgroup, hyear, hday⟩ := e
  simp only [number, yearOfEra]
  generalize hn : 36524 * century + 1461 * group + 365 * year + day = n
  have hcenturies : n / 36524 = century + n / 146096 := by
    by_cases hinside : n < 36524 * (century + 1)
    · have hera : n < 146096 := by omega
      rw [Nat.div_eq_of_lt hera]
      omega
    · have hlast : n = 146096 := by omega
      omega
  -- the quotient by 1460 may be one too large, but only late in a year
  by_cases hearly : 24 * century + group + 365 * year + day < 1460
  · have hgroups : n / 1460 = 25 * century + group := by omega
    rw [hcenturies, hgroups]
    omega
  · have hgroups : n / 1460 = 25 * century + group + 1 := by omega
    rw [hcenturies, hgroups]
    omega

/-- The year of a day, which begins with the 307th day of a year from March on. -/
theorem year_ofDays (e : EraDay) (era : Int) :
    (CalendarDay.ofDays (146097 * era + e.number - 719468)).year =
      400 * era + e.yearOfEra + if 306 ≤ e.day then 1 else 0 := by
  have hnumber : e.number < 146097 := by
    obtain ⟨century, group, year, day, hcentury, hgroup, hyear, hday⟩ := e
    simp only [number]
    omega
  have hshifted : 146097 * era + e.number - 719468 + 719468 = 146097 * era + e.number := by omega
  have hera : (146097 * era + e.number) / 146097 = era := by omega
  have hday : ((146097 * era + e.number) % 146097).toNat = e.number := by omega
  unfold CalendarDay.ofDays
  simp only [hshifted, hera, hday, yearOfEra_eq]
  have hofYear : e.number - (365 * e.yearOfEra + e.yearOfEra / 4 - e.yearOfEra / 100) = e.day := by
    obtain ⟨century, group, year, day, hcentury, hgroup, hyear, hday⟩ := e
    simp only [number, yearOfEra]
    omega
  rw [hofYear]
  have hlast : e.day ≤ 365 := by
    rcases e.day_lt with h | h <;> omega
  by_cases hnew : 306 ≤ e.day
  · have hmonth : ¬(5 * e.day + 2) / 153 < 10 := by omega
    rw [if_pos hnew, if_neg hmonth, if_pos (by omega)]
    omega
  · have hmonth : (5 * e.day + 2) / 153 < 10 := by omega
    rw [if_neg hnew, if_pos hmonth, if_neg (by omega)]
    omega

/-- A day lies in its year. -/
theorem newYear_le (e : EraDay) (era : Int) :
    CalendarDay.newYear (400 * era + e.yearOfEra + if 306 ≤ e.day then 1 else 0) ≤
        146097 * era + e.number - 719468 ∧
      146097 * era + e.number - 719468 <
        CalendarDay.newYear (400 * era + e.yearOfEra + (if 306 ≤ e.day then 1 else 0) + 1) := by
  obtain ⟨century, group, year, day, hcentury, hgroup, hyear, hday⟩ := e
  simp only [number, yearOfEra, CalendarDay.newYear]
  split <;> constructor <;> omega

end EraDay

/-! ### The year of an instant -/

theorem CalendarDay.le_year_iff {year days : Int} :
    year ≤ (ofDays days).year ↔ newYear year ≤ days := by
  obtain ⟨e, he⟩ := EraDay.exists_number_eq (n := ((days + 719468) % 146097).toNat) (by omega)
  have hdays : days = 146097 * ((days + 719468) / 146097) + e.number - 719468 := by omega
  obtain ⟨hbegun, hnext⟩ := e.newYear_le ((days + 719468) / 146097)
  rw [← e.year_ofDays, ← hdays] at hbegun hnext
  constructor
  · intro hle
    exact Int.le_trans (newYear_le_newYear hle) hbegun
  · intro hle
    by_contra hlater
    have hafter := newYear_le_newYear (Int.add_one_le_of_lt (Int.not_le.mp hlater))
    omega

namespace Instant

/-- The year of an instant is the last one that has begun on the clock of the time zone. -/
theorem le_year_iff {i : Instant} {year : Int} :
    year ≤ i.year ↔ CalendarDay.newYear year * 86400 ≤ i.localSeconds :=
  CalendarDay.le_year_iff.trans (Int.le_ediv_iff_mul_le (by decide))

/-- The clock of the time zone shows a time in a year. -/
def InYear (i : Instant) (year : Int) : Prop :=
  CalendarDay.newYear year * 86400 ≤ i.localSeconds ∧
    i.localSeconds < CalendarDay.newYear (year + 1) * 86400

theorem inYear_year (i : Instant) : i.InYear i.year := by
  refine ⟨le_year_iff.mp (Int.le_refl _), ?_⟩
  rw [← Int.not_le, ← le_year_iff]
  omega

theorem year_le_year {i j : Instant} (h : i.localSeconds ≤ j.localSeconds) : i.year ≤ j.year :=
  le_year_iff.mpr (Int.le_trans (le_year_iff.mp (Int.le_refl _)) h)

theorem toInt?_yearNumber (i : Instant) : (String.ofList i.yearNumber).toInt? = some i.year := by
  have hrepr : String.ofList i.yearNumber = i.year.repr := by
    rw [yearNumber]
    cases i.year with
    | ofNat n => rfl
    | negSucc n =>
      rw [if_pos (Int.negSucc_lt_zero n), String.ofList_append]
      rfl
  rw [hrepr, Int.toInt?_repr]

end Instant

/-! ### The two years of a file -/

namespace FileHistory

variable {f : FileHistory} {changing : Commit → Prop}

/-- The years are in the wrong order exactly if a year begins between the times that the two clocks show,
the one of the last commit first. -/
theorem created_year_le_iff (f : FileHistory) :
    f.created.year ≤ f.modified.year ↔
      ¬∃ year, f.modified.localSeconds < CalendarDay.newYear year * 86400 ∧
        CalendarDay.newYear year * 86400 ≤ f.created.localSeconds := by
  simp only [← Int.not_le, ← Instant.le_year_iff]
  constructor
  · rintro hle ⟨year, hmodified, hcreated⟩
    exact hmodified (Int.le_trans hcreated hle)
  · intro hnone
    by_contra hgt
    exact hnone ⟨f.created.year, hgt, Int.le_refl _⟩

theorem Covers.seconds_le (h : f.Covers changing) : f.created.seconds ≤ f.modified.seconds := by
  obtain ⟨first, hfirst, hcreated, -⟩ := h.created
  obtain ⟨last, -, hmodified, hgreatest⟩ := h.modified
  rw [hcreated, hmodified]
  exact hgreatest first hfirst

theorem Covers.created_year_le (h : f.Covers changing) (hzones : f.created.offset ≤ f.modified.offset) :
    f.created.year ≤ f.modified.year := by
  apply Instant.year_le_year
  have hseconds := h.seconds_le
  unfold Instant.localSeconds
  omega

/-- Two clocks are less than two days apart, which is less than a year. -/
theorem Covers.created_year_le_add_one (h : f.Covers changing)
    (hzones : ∀ c, changing c → c.time.hasZone = true) : f.created.year ≤ f.modified.year + 1 := by
  obtain ⟨first, hfirst, hcreated, -⟩ := h.created
  obtain ⟨last, hlast, hmodified, -⟩ := h.modified
  have hseconds := h.seconds_le
  have heast : f.created.offset.natAbs < 24 * 60 := by
    rw [hcreated]
    exact of_decide_eq_true (hzones first hfirst)
  have hwest : f.modified.offset.natAbs < 24 * 60 := by
    rw [hmodified]
    exact of_decide_eq_true (hzones last hlast)
  have hclock : f.created.localSeconds ≤ f.modified.localSeconds + 2 * 86400 := by
    unfold Instant.localSeconds
    omega
  have hbegun := Instant.le_year_iff.mp (Int.le_refl f.created.year)
  have hyear := CalendarDay.newYear_add_le (Int.sub_le_self f.created.year (by decide : (0 : Int) ≤ 1))
  have hbefore : f.created.year - 1 ≤ f.modified.year := by
    rw [Instant.le_year_iff]
    omega
  omega

end FileHistory

theorem Commit.hasZone_of_timeFault?_eq_none {c : Commit} (h : c.timeFault? = none) :
    c.time.hasZone = true := by
  rw [timeFault?] at h
  by_contra hzone
  rw [if_pos (by simpa using hzone)] at h
  cases h

namespace History

variable {r : Repository} {order : List Commit} {p : Path}

/-- The number that a property of a file has as its value. -/
def number? (h : History) (currentYear : Text) (p : Path) (property : String) : Option Int :=
  ((h.properties currentYear p).get? property.toList).bind fun value => (String.ofList value).toInt?

theorem number?_of_get? {h : History} {f : FileHistory} (hf : h.get? p = some f) (currentYear : Text) :
    h.number? currentYear p "headmark.git.createdYear" = some f.created.year ∧
      h.number? currentYear p "headmark.git.modifiedYear" = some f.modified.year := by
  unfold number? properties
  rw [hf]
  refine ⟨?_, ?_⟩
  · rw [← f.created.toInt?_yearNumber]
    rfl
  · rw [← f.modified.toInt?_yearNumber]
    rfl

/-- **The years of a file.**  Commits with sound times, one of which changed a file, give the file the
years of the first and of the last commit that changed it, each as the clock of that commit's own time
zone shows it.  They are in order exactly if no year begins after the time that the clock of the last commit shows and not
after the one that the clock of the first commit shows; so they are if the zone of the first commit is
not east of that of the last.  In any case the year of creation is at most one year too late. -/
theorem years_of_commits (currentYear : Text) (htimes : ∀ c ∈ order, c.timeFault? = none)
    (htouched : ∃ c ∈ order, r.Touches c p) :
    ∃ (h : History) (f : FileHistory), ofCommits r order = .ok h ∧ h.get? p = some f ∧
      f.Covers (fun c => c ∈ order ∧ r.Touches c p) ∧
      ∃ created modified : Int,
        h.number? currentYear p "headmark.git.createdYear" = some created ∧
        h.number? currentYear p "headmark.git.modifiedYear" = some modified ∧
        created = f.created.year ∧ f.created.InYear created ∧
        modified = f.modified.year ∧ f.modified.InYear modified ∧
        (created ≤ modified ↔
          ¬∃ year, f.modified.localSeconds < CalendarDay.newYear year * 86400 ∧
            CalendarDay.newYear year * 86400 ≤ f.created.localSeconds) ∧
        (f.created.offset ≤ f.modified.offset → created ≤ modified) ∧
        created ≤ modified + 1 := by
  obtain ⟨h, hok⟩ := (foldlM_record_eq_ok_iff order {}).mpr htimes
  have htells : Tells (fun c => c ∈ order ∧ r.Touches c p) (h.get? p) := tells_ofCommits hok p
  obtain ⟨f, hf⟩ := Option.isSome_iff_exists.mp (htells.isSome_iff.mpr htouched)
  have hcovers : f.Covers fun c => c ∈ order ∧ r.Touches c p := by rwa [hf] at htells
  obtain ⟨hcreated, hmodified⟩ := number?_of_get? hf currentYear
  refine ⟨h, f, hok, hf, hcovers, f.created.year, f.modified.year, hcreated, hmodified,
    rfl, f.created.inYear_year, rfl, f.modified.inYear_year, f.created_year_le_iff,
    hcovers.created_year_le, ?_⟩
  exact hcovers.created_year_le_add_one fun c hc =>
    Commit.hasZone_of_timeFault?_eq_none (htimes c hc.1)

/-- Half an hour before and an hour after midnight, in universal time and in a zone one hour east of it. -/
theorem years_of_commits_new_year :
    let first : Commit :=
      { author := ['A'], time := ⟨1640993400, 0⟩, files := [(['a'], { content := ['1'] })], parents := [] }
    let last : Commit :=
      { author := ['B'], time := ⟨1640995200, 60⟩, files := [(['a'], { content := ['2'] })], parents := [0] }
    let r : Repository := { place := [], commits := [first, last], head := some 1 }
    (∀ c ∈ [last, first], c.timeFault? = none) ∧
    (∃ c ∈ [last, first], r.Touches c ⟨"/a".toList⟩) ∧
    ∃ h, ofCommits r [last, first] = .ok h ∧
      h.number? [] ⟨"/a".toList⟩ "headmark.git.createdYear" = some 2021 ∧
      h.number? [] ⟨"/a".toList⟩ "headmark.git.modifiedYear" = some 2022 := by
  intro first last r
  have htimes : ∀ c ∈ [last, first], c.timeFault? = none := by decide
  have htouched : ∃ c ∈ [last, first], r.Touches c ⟨"/a".toList⟩ :=
    ⟨last, List.mem_cons_self, ['a'], by unfold Commit.Changes; decide, by decide⟩
  obtain ⟨h, f, hok, hf, -, created, modified, hcreated, hmodified, rfl, -, rfl, -⟩ :=
    years_of_commits [] htimes htouched
  have hrun : (ofCommits r [last, first]).toOption.bind (·.get? ⟨"/a".toList⟩) =
      some ⟨first.time, last.time, [['A'], ['B']]⟩ := by decide
  rw [hok] at hrun
  obtain rfl := Option.some.inj (hf.symm.trans hrun)
  have hyears : first.time.year = 2021 ∧ last.time.year = 2022 := by decide
  rw [hyears.1] at hcreated
  rw [hyears.2] at hmodified
  exact ⟨htimes, htouched, h, hok, hcreated, hmodified⟩

/-- An hour after midnight, two hours east of universal time, and then half an hour before midnight in
universal time: the file was created in 2022 and modified in 2021. -/
theorem years_inverted :
    let first : Commit :=
      { author := ['A'], time := ⟨1640991600, 120⟩, files := [(['a'], { content := ['1'] })], parents := [] }
    let last : Commit :=
      { author := ['B'], time := ⟨1640993400, 0⟩, files := [(['a'], { content := ['2'] })], parents := [0] }
    let r : Repository := { place := [], commits := [first, last], head := some 1 }
    (∀ c ∈ r.reachable, c.timeFault? = none ∧ r.Touches c ⟨"/a".toList⟩) ∧
    ∃ h, collect r = .ok h ∧
      h.number? [] ⟨"/a".toList⟩ "headmark.git.createdYear" = some 2022 ∧
      h.number? [] ⟨"/a".toList⟩ "headmark.git.modifiedYear" = some 2021 := by
  intro first last r
  have hreachable : r.reachable = [last, first] := by decide
  have htouches : ∀ c ∈ [last, first], c.timeFault? = none ∧ r.Touches c ⟨"/a".toList⟩ := by
    rw [List.forall_mem_cons, List.forall_mem_singleton]
    exact ⟨⟨by decide, ['a'], by unfold Commit.Changes; decide, by decide⟩,
      by decide, ['a'], by unfold Commit.Changes; decide, by decide⟩
  rw [← hreachable] at htouches
  obtain ⟨h, hok⟩ := (foldlM_record_eq_ok_iff r.reachable {}).mpr fun c hc => (htouches c hc).1
  have hrun : (collect r).toOption.bind (·.get? ⟨"/a".toList⟩) =
      some ⟨first.time, last.time, [['A'], ['B']]⟩ := by decide
  rw [show collect r = .ok h from hok] at hrun
  obtain ⟨hcreated, hmodified⟩ := number?_of_get? hrun []
  have hyears : first.time.year = 2022 ∧ last.time.year = 2021 := by decide
  rw [hyears.1] at hcreated
  rw [hyears.2] at hmodified
  exact ⟨htouches, h, hok, hcreated, hmodified⟩

end History

end LicenseHeader
