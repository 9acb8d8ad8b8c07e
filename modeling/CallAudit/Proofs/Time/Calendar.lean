import CallAudit.Timestamp

/-!
# The calendar and back

Results:
* `yearOfEra_spec`: the year of an era that a day lies in.
* `day_eq`: a day by its year from March and its day of that year.
* `ofCivil_toCivil`: a date of a day is the date of that day.
* `toCivil_valid`, `year_bounds`: it is a date of the calendar, in the range of dates.
-/
namespace CallAudit.Timestamp

/-! ## Years of an era -/

/-- The days of an era before its year `y`. -/
def daysBefore (y : Int) : Int := 365 * y + y / 4 - y / 100

/-- The year of an era that its day `d` lies in. -/
def yearOfEra (d : Int) : Int := (d - d / 1460 + d / 36524 - d / 146096) / 365

theorem yearOfEra_mono (d d' : Int) (h : d ≤ d') : yearOfEra d ≤ yearOfEra d' := by
  have h1 : d - d / 1460 ≤ d' - d' / 1460 := by omega
  have h2 : d / 36524 - d / 146096 ≤ d' / 36524 - d' / 146096 := by omega
  exact Int.ediv_le_ediv (by decide) (by generalize d / 1460 = a at *; omega)

/-- The first and the last day of each year of an era. -/
theorem yearOfEra_ends : ∀ y : Nat, y < 400 →
    (y : Int) ≤ yearOfEra (daysBefore y) ∧ yearOfEra (daysBefore (y + 1) - 1) ≤ y := by
  decide +kernel

/-- A day of an era lies between the first day of its year and that of the next. The last year has a
day more than `daysBefore` counts. -/
theorem yearOfEra_spec (d : Int) (h0 : 0 ≤ d) (h1 : d < 146097) :
    0 ≤ yearOfEra d ∧ yearOfEra d < 400 ∧ daysBefore (yearOfEra d) ≤ d ∧
      (d < daysBefore (yearOfEra d + 1) ∨ yearOfEra d = 399) := by
  have hy0 : 0 ≤ yearOfEra d := by unfold yearOfEra; omega
  have hy1 : yearOfEra d < 400 := by unfold yearOfEra; omega
  obtain ⟨y, hy⟩ := Int.eq_ofNat_of_zero_le hy0
  refine ⟨hy0, hy1, Int.not_lt.1 (fun hlt => ?_), ?_⟩
  · -- a day before its year would lie in the year before
    obtain ⟨z, rfl⟩ : ∃ z, y = z + 1 := by
      refine ⟨y - 1, ?_⟩
      have : y ≠ 0 := by
        rintro rfl
        rw [hy] at hlt
        exact absurd h0 (Int.not_le.2 hlt)
      omega
    have hends := (yearOfEra_ends z (by omega)).2
    have hmono := yearOfEra_mono d (daysBefore (z + 1) - 1) (by
      rw [hy] at hlt
      exact Int.le_sub_one_of_lt hlt)
    omega
  · rw [hy]
    by_cases hlast : y = 399
    · exact .inr (by rw [hlast]; rfl)
    · refine .inl (Int.not_le.1 (fun hge => ?_))
      have hends := (yearOfEra_ends (y + 1) (by omega)).1
      have hmono := yearOfEra_mono (daysBefore (y + 1)) d hge
      rw [Int.natCast_add, Int.natCast_one] at hends
      omega

/-! ## Leap days -/

/-- The leap days of the years up to `y`. -/
def leapDays (y : Int) : Int := y / 4 - y / 100 + y / 400

theorem leapDays_mono (y y' : Int) (h : y ≤ y') : leapDays y ≤ leapDays y' := by
  have h4 : y / 4 - y / 100 ≤ y' / 4 - y' / 100 := by
    have hy : y / 4 = 25 * (y / 100) + y % 100 / 4 := by omega
    have hy' : y' / 4 = 25 * (y' / 100) + y' % 100 / 4 := by omega
    rcases Int.lt_or_eq_of_le (Int.ediv_le_ediv (by decide : (0 : Int) < 100) h) with hlt | heq
    · omega
    · omega
  have h400 : y / 400 ≤ y' / 400 := Int.ediv_le_ediv (by decide) h
  unfold leapDays
  omega

/-! ## Months of a year -/

/-- The month of a day of a year that starts in March, and its day of the month. -/
def monthOf (dayOfYear : Nat) : Nat × Nat :=
  let shifted := (5 * dayOfYear + 2) / 153
  (if shifted < 10 then shifted + 3 else shifted - 9, dayOfYear - (153 * shifted + 2) / 5 + 1)

theorem monthOf_spec (n : Nat) (h : n < 366) :
    1 ≤ (monthOf n).1 ∧ (monthOf n).1 ≤ 12 ∧ 1 ≤ (monthOf n).2 ∧
      ((monthOf n).1 ≤ 2 ↔ 306 ≤ n) ∧
      ((153 * (if 2 < (monthOf n).1 then (monthOf n).1 - 3 else (monthOf n).1 + 9) + 2) / 5 +
        (monthOf n).2 : Nat) = n + 1 := by
  unfold monthOf
  dsimp only
  split <;> split <;> omega

/-- Every month but February has its days in all years. -/
theorem monthOf_le : ∀ n : Nat, n < 366 → ∀ leap : Bool, (n = 365 → leap = true) →
    (monthOf n).2 ≤ if (monthOf n).1 = 2 then (if leap then 29 else 28)
      else if (monthOf n).1 = 4 ∨ (monthOf n).1 = 6 ∨ (monthOf n).1 = 9 ∨ (monthOf n).1 = 11 then 30
      else 31 := by
  decide +kernel

/-! ## Dates -/

section
variable (day : Int)

/-- The day of its era. -/
def dayOfEra : Int := (day + 719468) % 146097

/-- The day of its year, from the first of March. -/
def dayOfYear : Nat := (dayOfEra day - daysBefore (yearOfEra (dayOfEra day))).toNat

/-- The year from the first of March. -/
def marchYear : Int := yearOfEra (dayOfEra day) + (day + 719468) / 146097 * 400

theorem toCivil_eq : toCivil day =
    (marchYear day + (if (monthOf (dayOfYear day)).1 ≤ 2 then 1 else 0),
      (monthOf (dayOfYear day)).1, (monthOf (dayOfYear day)).2) := rfl

theorem dayOfYear_spec :
    (dayOfYear day : Int) = dayOfEra day - daysBefore (yearOfEra (dayOfEra day)) ∧
      dayOfYear day < 366 ∧
      (dayOfYear day = 365 → isLeapYear (marchYear day + 1) = true) := by
  have h0 : 0 ≤ dayOfEra day := Int.emod_nonneg _ (by decide)
  have h1 : dayOfEra day < 146097 := Int.emod_lt_of_pos _ (by decide)
  obtain ⟨hy0, hy1, hlow, hhigh⟩ := yearOfEra_spec (dayOfEra day) h0 h1
  have heq : (dayOfYear day : Int) = dayOfEra day - daysBefore (yearOfEra (dayOfEra day)) := by
    unfold dayOfYear
    omega
  unfold marchYear
  generalize yearOfEra (dayOfEra day) = y at *
  generalize (day + 719468) / 146097 = era
  unfold daysBefore at *
  have h4 : (y + 1) / 4 ≤ y / 4 + 1 := by omega
  have h100 : y / 100 ≤ (y + 1) / 100 := by omega
  refine ⟨heq, by rcases hhigh with h | rfl <;> omega, fun h => ?_⟩
  rw [h] at heq
  -- the year has its 366th day only when the next one leaps
  have hleap : (y + 1) % 4 = 0 ∧ ((y + 1) % 100 ≠ 0 ∨ (y + 1) % 400 = 0) := by
    rcases hhigh with hnext | rfl
    · have hup : (y + 1) / 4 = y / 4 + 1 ∧ (y + 1) / 100 = y / 100 := by omega
      obtain ⟨hup4, hup100⟩ := hup
      exact ⟨by omega, .inl (by omega)⟩
    · decide
  clear heq hlow hhigh h4 h100
  have h4 : (y + era * 400 + 1) % 4 = 0 := by omega
  have h100 : (y + era * 400 + 1) % 100 ≠ 0 ∨ (y + era * 400 + 1) % 400 = 0 := by omega
  unfold isLeapYear
  simpa [h4] using h100

/-- The days from 1970-01-01, by the year from March and the day of that year. -/
theorem day_eq :
    day = 365 * marchYear day + leapDays (marchYear day) + dayOfYear day - 719468 := by
  obtain ⟨heq, -, -⟩ := dayOfYear_spec day
  have h0 : 0 ≤ dayOfEra day := Int.emod_nonneg _ (by decide)
  have h1 : dayOfEra day < 146097 := Int.emod_lt_of_pos _ (by decide)
  obtain ⟨hy0, hy1, -, -⟩ := yearOfEra_spec (dayOfEra day) h0 h1
  unfold marchYear
  generalize yearOfEra (dayOfEra day) = y at *
  unfold daysBefore dayOfEra at heq
  unfold leapDays
  omega

/-- The date of a day is a date of that day. -/
theorem ofCivil_toCivil : ofCivil (toCivil day).1 (toCivil day).2.1 (toCivil day).2.2 = day := by
  obtain ⟨-, hlt, -⟩ := dayOfYear_spec day
  obtain ⟨-, -, -, -, hmonth⟩ := monthOf_spec (dayOfYear day) hlt
  have hday := day_eq day
  rw [toCivil_eq]
  unfold ofCivil
  dsimp only
  rw [hmonth]
  have hyear : (if (monthOf (dayOfYear day)).1 ≤ 2 then
      marchYear day + (if (monthOf (dayOfYear day)).1 ≤ 2 then 1 else 0) - 1
      else marchYear day + (if (monthOf (dayOfYear day)).1 ≤ 2 then 1 else 0)) = marchYear day := by
    split <;> omega
  rw [hyear]
  unfold leapDays at hday
  generalize marchYear day = y at *
  omega

/-- The date of a day is a date of the calendar. -/
theorem toCivil_valid : 1 ≤ (toCivil day).2.1 ∧ (toCivil day).2.1 ≤ 12 ∧ 1 ≤ (toCivil day).2.2 ∧
    (toCivil day).2.2 ≤ daysInMonth (toCivil day).1 (toCivil day).2.1 := by
  obtain ⟨-, hlt, hleap⟩ := dayOfYear_spec day
  obtain ⟨h1, h12, hd, hfeb, -⟩ := monthOf_spec (dayOfYear day) hlt
  rw [toCivil_eq]
  refine ⟨h1, h12, hd, ?_⟩
  have hle := monthOf_le (dayOfYear day) hlt (isLeapYear (marchYear day + 1)) hleap
  unfold daysInMonth
  dsimp only
  by_cases h2 : (monthOf (dayOfYear day)).1 = 2
  · simpa [h2] using hle
  · rw [if_neg h2] at hle ⊢
    exact hle

theorem daysInMonth_le (year : Int) (month : Nat) : daysInMonth year month ≤ 31 := by
  unfold daysInMonth
  repeat' split
  all_goals omega

/-- The dates of the days that dates range over. -/
theorem year_bounds (h : minDay ≤ day) (h' : day ≤ maxDay) :
    -262143 ≤ (toCivil day).1 ∧ (toCivil day).1 ≤ 262142 := by
  have hmin : minDay = -96465292 := by decide
  have hmax : maxDay = 95026236 := by decide
  obtain ⟨-, hlt, -⟩ := dayOfYear_spec day
  obtain ⟨-, -, -, hfeb, -⟩ := monthOf_spec (dayOfYear day) hlt
  have hday := day_eq day
  rw [hmin] at h
  rw [hmax] at h'
  rw [toCivil_eq]
  dsimp only
  generalize marchYear day = y at *
  have hlow := leapDays_mono y (-262144)
  have hhigh := leapDays_mono 262142 y
  have hl : leapDays (-262144) = -63570 := by decide
  have hh : leapDays 262142 = 63569 := by decide
  split <;> rename_i hm
  · have := hfeb.1 hm
    omega
  · have : ¬ 306 ≤ dayOfYear day := fun hn => hm (hfeb.2 hn)
    omega

end

end CallAudit.Timestamp
