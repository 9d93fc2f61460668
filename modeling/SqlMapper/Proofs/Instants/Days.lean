import SqlMapper.Data.Instant.Calendar

/-!
# Days are counted as the calendar goes

The calendar counts the days from the epoch to a date by a formula. Here the days go by one by one:
a date is followed by the next day of its month, else by the first of the next month or year
(`Date.next`), and the count of a date is reached by going forth and back from the epoch
(`Date.IsDay`). The formula gives that count (`Date.isDay_iff`).
-/

namespace SqlMapper

open Calendar

/-- A date of the proleptic Gregorian calendar. -/
structure Date where
  /-- The year; the year before 1 is 0. -/
  year : Int
  /-- The month, from 1. -/
  month : Nat
  /-- The day of the month, from 1. -/
  day : Nat
  isMonth : 1 ≤ month ∧ month ≤ 12
  isDay : 1 ≤ day ∧ day ≤ monthLength year month
deriving DecidableEq

namespace Date

/-- The first of January 1970. -/
def epoch : Date := ⟨1970, 1, 1, by decide, by decide⟩

/-- A month has 28 to 31 days. -/
theorem monthLength_mem (year : Int) (month : Nat) :
    28 ≤ monthLength year month ∧ monthLength year month ≤ 31 := by
  rw [monthLength]
  split
  · split <;> decide
  · split <;> decide

/-- The day after a date. -/
def next (d : Date) : Date :=
  if inMonth : d.day < monthLength d.year d.month then
    { d with day := d.day + 1, isDay := ⟨by omega, inMonth⟩ }
  else if inYear : d.month < 12 then
    { d with
      month := d.month + 1
      day := 1
      isMonth := ⟨by omega, inYear⟩
      isDay := ⟨Nat.le_refl 1, Nat.le_trans (by decide) (monthLength_mem _ _).1⟩ }
  else
    { year := d.year + 1
      month := 1
      day := 1
      isMonth := by decide
      isDay := ⟨Nat.le_refl 1, Nat.le_trans (by decide) (monthLength_mem _ _).1⟩ }

/-- So many days lie between the epoch and a date, counted one by one, back from the epoch too. -/
inductive IsDay : Int → Date → Prop where
  /-- The epoch is day zero. -/
  | epoch : IsDay 0 epoch
  /-- The day after a date has the next count. -/
  | next {n : Int} {d : Date} (h : IsDay n d) : IsDay (n + 1) d.next
  /-- The date before a day has the count before. -/
  | before {n : Int} {d : Date} (h : IsDay (n + 1) d.next) : IsDay n d

/-- The count that the calendar's formula gives. -/
def number (d : Date) : Int :=
  dayNumber d.year d.month d.day

/-- A month begins when the one before it has passed. -/
theorem daysBeforeMonth_succ (year : Int) {month : Nat} (h : 1 ≤ month) :
    daysBeforeMonth year (month + 1) = daysBeforeMonth year month + monthLength year month := by
  obtain ⟨earlier, rfl⟩ := Nat.exists_eq_add_of_le' h
  simp only [daysBeforeMonth, Nat.add_sub_cancel, List.range_succ, List.foldl_append,
    List.foldl_cons, List.foldl_nil]

/-- The months of a year. -/
theorem daysBeforeMonth_december (year : Int) :
    daysBeforeMonth year 12 + monthLength year 12 = if isLeap year then 366 else 365 := by
  have thirteen : daysBeforeMonth year 12 + monthLength year 12 = daysBeforeMonth year 13 :=
    (daysBeforeMonth_succ year (by decide)).symm
  rw [thirteen]
  cases hleap : isLeap year <;>
    simp [daysBeforeMonth, monthLength, List.range_succ, hleap]

/-- A year begins when the one before it has passed. -/
theorem daysBeforeYear_succ (year : Int) :
    daysBeforeYear (year + 1) = daysBeforeYear year + if isLeap year then 366 else 365 := by
  have leap : isLeap year = true ↔ year % 4 = 0 ∧ (¬ year % 100 = 0 ∨ year % 400 = 0) := by
    simp [isLeap]
  rw [daysBeforeYear, daysBeforeYear]
  split
  · next h =>
    have := leap.1 h
    omega
  · next h =>
    have := mt leap.2 h
    omega

/-- The formula counts on by one from a date to the next. -/
theorem number_next (d : Date) : d.next.number = d.number + 1 := by
  have ended (h : ¬ d.day < monthLength d.year d.month) : d.day = monthLength d.year d.month :=
    Nat.le_antisymm d.isDay.2 (Nat.not_lt.1 h)
  rw [next]
  split
  · simp only [number, dayNumber]
    omega
  · next hmonth =>
    have last := ended hmonth
    split
    · simp only [number, dayNumber, daysBeforeMonth_succ d.year d.isMonth.1]
      omega
    · next hyear =>
      have december : d.month = 12 := by have := d.isMonth; omega
      have whole := daysBeforeMonth_december d.year
      rw [december] at last
      have january : daysBeforeMonth (d.year + 1) 1 = 0 := rfl
      simp only [number, dayNumber, daysBeforeYear_succ, january, december]
      cases hleap : isLeap d.year <;>
        simp only [hleap, if_true, if_false, Bool.false_eq_true] at whole ⊢ <;> omega

/-- Every date is the day after some date. -/
theorem exists_next_eq (d : Date) : ∃ before : Date, before.next = d := by
  obtain ⟨year, month, day, hmonth, hday⟩ := d
  obtain ⟨earlier, rfl⟩ := Nat.exists_eq_add_of_le' hday.1
  rcases Nat.eq_zero_or_pos earlier with rfl | inMonth
  · obtain ⟨earlier, rfl⟩ := Nat.exists_eq_add_of_le' hmonth.1
    rcases Nat.eq_zero_or_pos earlier with rfl | inYear
    · refine ⟨⟨year - 1, 12, 31, by decide, by simp [monthLength]⟩, ?_⟩
      simp [next, monthLength]
    · have last := monthLength_mem year earlier
      refine ⟨⟨year, earlier, monthLength year earlier, by omega, by omega, Nat.le_refl _⟩, ?_⟩
      rw [next, dif_neg (Nat.lt_irrefl _), dif_pos (Nat.lt_of_succ_le hmonth.2)]
  · refine ⟨⟨year, month, earlier, hmonth, inMonth, Nat.le_of_succ_le hday.2⟩, ?_⟩
    rw [next, dif_pos (Nat.lt_of_succ_le hday.2)]

/-- The later of two months does not begin earlier. -/
theorem daysBeforeMonth_le (year : Int) {month later : Nat} (hmonth : 1 ≤ month)
    (h : month ≤ later) : daysBeforeMonth year month ≤ daysBeforeMonth year later := by
  induction h with
  | refl => exact Nat.le_refl _
  | @step last hlast ih =>
    rw [daysBeforeMonth_succ year (Nat.le_trans hmonth hlast)]
    exact Nat.le_trans ih (Nat.le_add_right _ _)

/-- The epoch is the only date that the formula counts as zero. -/
theorem eq_epoch_of_number {d : Date} (h : d.number = 0) : d = epoch := by
  obtain ⟨year, month, day, hmonth, hday⟩ := d
  have counted : 365 * (year - 1) + (year - 1) / 4 - (year - 1) / 100 + (year - 1) / 400 +
      daysBeforeMonth year month + (day - 1) - 719162 = 0 := h
  -- a day of the year lies before the end of the year
  have whole := daysBeforeMonth_december year
  have ended : daysBeforeMonth year (month + 1) ≤ daysBeforeMonth year 13 :=
    daysBeforeMonth_le year (Nat.succ_pos month) (by omega)
  rw [daysBeforeMonth_succ year hmonth.1, daysBeforeMonth_succ year (by decide)] at ended
  have hyear : year = 1969 ∨ year = 1970 := by
    split at whole <;> omega
  rcases hyear with rfl | rfl
  · have common : isLeap 1969 = false := by decide
    rw [common] at whole
    simp only [Bool.false_eq_true, if_false] at whole
    omega
  · have january : daysBeforeMonth 1970 1 = 0 := rfl
    have first : month = 1 := by
      rcases Nat.lt_or_ge 1 month with later | early
      · have february : daysBeforeMonth 1970 2 ≤ daysBeforeMonth 1970 month :=
          daysBeforeMonth_le 1970 (by decide) later
        rw [show daysBeforeMonth 1970 2 = 31 from rfl] at february
        omega
      · exact Nat.le_antisymm early hmonth.1
    subst first
    obtain rfl : day = 1 := by omega
    rfl

/-- A date has the count that the formula gives: the way to it begins at the epoch and takes as many
days as the formula counts. -/
theorem isDay_number (d : Date) : IsDay d.number d := by
  obtain ⟨n, hn⟩ : ∃ n : Nat, d.number = n ∨ d.number = -n := ⟨d.number.natAbs, by omega⟩
  induction n generalizing d with
  | zero =>
    obtain rfl := eq_epoch_of_number (d := d) (by omega)
    exact .epoch
  | succ n ih =>
    rcases hn with later | earlier
    · obtain ⟨before, rfl⟩ := d.exists_next_eq
      rw [number_next] at later ⊢
      exact .next (ih before (.inl (by omega)))
    · have near := ih d.next (.inr (by rw [number_next]; omega))
      rw [number_next] at near
      exact .before near

/-- The days are counted by the formula. -/
theorem isDay_iff {n : Int} {d : Date} : IsDay n d ↔ n = d.number := by
  constructor
  · intro h
    induction h with
    | epoch => rfl
    | next _ ih => rw [number_next, ih]
    | before _ ih =>
      rw [number_next] at ih
      omega
  · rintro rfl
    exact isDay_number d

end Date

end SqlMapper
