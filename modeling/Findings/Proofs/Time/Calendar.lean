import Findings.Time.Calendar
import Mathlib.Tactic.IntervalCases

/-!
# Dates and day numbers

An era of 400 years has three centuries of 36524 days and one with a day more, a century has
cycles of four years, and the last year of a cycle has the leap day at its end. A day number
splits along these, and the year of a date is read off the parts. Only the last year of a cycle
has 366 days, and in the last cycle of a century only the one that ends an era.
-/
namespace Findings.Time

/-- The parts of a day number: eras, centuries, cycles and years before it, and its place in its
year, which begins in March. -/
structure DayParts where
  era : Int
  century : Int
  cycle : Int
  year : Int
  day : Int
  century_range : 0 ≤ century ∧ century ≤ 3
  cycle_range : 0 ≤ cycle ∧ cycle ≤ 24
  year_range : 0 ≤ year ∧ year ≤ 3
  day_range : 0 ≤ day ∧ day ≤ 365
  leap : day = 365 → year = 3 ∧ (cycle = 24 → century = 3)

namespace DayParts

def dayOfEra (p : DayParts) : Int := 36524 * p.century + 1461 * p.cycle + 365 * p.year + p.day

def yearOfEra (p : DayParts) : Int := 100 * p.century + 4 * p.cycle + p.year

/-- The day number that is counted from the first of March of year 0. -/
def count (p : DayParts) : Int := 146097 * p.era + p.dayOfEra

lemma dayOfEra_range (p : DayParts) : 0 ≤ p.dayOfEra ∧ p.dayOfEra ≤ 146096 := by
  obtain ⟨era, c, q, y, d, hc, hq, hy, hd, hleap⟩ := p
  simp only [dayOfEra]
  by_cases h : d = 365
  · obtain ⟨rfl, hlast⟩ := hleap h
    by_cases hq' : q = 24
    · have := hlast hq'
      omega
    · omega
  · omega

/-- Every day number has its parts. -/
theorem exists_count (n : Int) : ∃ p : DayParts, p.count = n := by
  have hday := Int.emod_nonneg n (by decide : (146097 : Int) ≠ 0)
  have hday' := Int.emod_lt_of_pos n (by decide : (0 : Int) < 146097)
  generalize hn : n % 146097 = day at hday hday'
  -- the last day of an era belongs to its last century, and so on down
  obtain ⟨c, r, hc, hr, rfl, hlast⟩ : ∃ c r : Int, (0 ≤ c ∧ c ≤ 3) ∧ (0 ≤ r ∧ r ≤ 36524) ∧
      36524 * c + r = day ∧ (r = 36524 → c = 3) := by
    by_cases h : day = 146096
    · exact ⟨3, 36524, by omega, by omega, by omega, fun _ => rfl⟩
    · exact ⟨day / 36524, day % 36524, by omega, by omega, by omega, by omega⟩
  obtain ⟨q, u, hq, hu, rfl⟩ : ∃ q u : Int, (0 ≤ q ∧ q ≤ 24) ∧ (0 ≤ u ∧ u ≤ 1460) ∧
      1461 * q + u = r := ⟨r / 1461, r % 1461, by omega, by omega, by omega⟩
  obtain ⟨y, d, hy, hd, rfl, hyear⟩ : ∃ y d : Int, (0 ≤ y ∧ y ≤ 3) ∧ (0 ≤ d ∧ d ≤ 365) ∧
      365 * y + d = u ∧ (d = 365 → y = 3) := by
    by_cases h : u = 1460
    · exact ⟨3, 365, by omega, by omega, by omega, fun _ => rfl⟩
    · exact ⟨u / 365, u % 365, by omega, by omega, by omega, by omega⟩
  refine ⟨⟨n / 146097, c, q, y, d, hc, hq, hy, hd, fun h => ⟨hyear h, fun h' => hlast ?_⟩⟩, ?_⟩
  · have := hyear h
    omega
  · simp only [count, dayOfEra]
    omega

/-- Only the last day of an era begins a fifth century, and it ends the era as well. -/
lemma century_eq (p : DayParts) : p.dayOfEra / 36524 - p.dayOfEra / 146096 = p.century := by
  have hrange := p.dayOfEra_range
  by_cases hlast : p.dayOfEra = 146096
  · have hc : p.century = 3 := by
      have hd := p.day_range
      have hy := p.year_range
      have hq := p.cycle_range
      have hc := p.century_range
      rw [dayOfEra] at hlast
      omega
    rw [hlast, hc]
    rfl
  · obtain ⟨rest, hday, hrest⟩ : ∃ rest, p.dayOfEra = 36524 * p.century + rest ∧
        0 ≤ rest ∧ rest < 36524 := by
      refine ⟨1461 * p.cycle + 365 * p.year + p.day, by rw [dayOfEra]; omega, ?_⟩
      have hd := p.day_range
      have hy := p.year_range
      have hq := p.cycle_range
      have hleap := p.leap
      rw [dayOfEra] at hlast
      omega
    have hera : p.dayOfEra / 146096 = 0 := by omega
    omega

/-- The leap days before a day are counted by cycles of 1460 days, with one more or not. -/
lemma leapDays_eq (p : DayParts) :
    p.dayOfEra / 1460 =
      25 * p.century + p.cycle + (24 * p.century + p.cycle + 365 * p.year + p.day) / 1460 := by
  have hday : p.dayOfEra = (24 * p.century + p.cycle + 365 * p.year + p.day) +
      1460 * (25 * p.century + p.cycle) := by
    rw [dayOfEra]
    omega
  rw [hday, Int.add_mul_ediv_left _ _ (by decide)]
  omega

/-- The year within the era is read off the day: without the leap days before it there are 365
days to a year. -/
lemma yearOfEra_eq (p : DayParts) :
    (p.dayOfEra - p.dayOfEra / 1460 + p.dayOfEra / 36524 - p.dayOfEra / 146096) / 365 =
      p.yearOfEra := by
  have hcentury := p.century_eq
  have hleapDays := p.leapDays_eq
  generalize hextra : (24 * p.century + p.cycle + 365 * p.year + p.day) / 1460 = extra at hleapDays
  have hday : 0 ≤ p.day - extra ∧ p.day - extra < 365 := by
    have hd := p.day_range
    have hy := p.year_range
    have hq := p.cycle_range
    have hc := p.century_range
    have hleap := p.leap
    omega
  have hrest : p.dayOfEra - p.dayOfEra / 1460 + p.dayOfEra / 36524 - p.dayOfEra / 146096 =
      (p.day - extra) + 365 * p.yearOfEra := by
    have hdef : p.dayOfEra = 36524 * p.century + 1461 * p.cycle + 365 * p.year + p.day := rfl
    have hyear : p.yearOfEra = 100 * p.century + 4 * p.cycle + p.year := rfl
    omega
  rw [hrest, Int.add_mul_ediv_left _ _ (by decide)]
  omega

/-- The date that the parts spell. -/
def date (p : DayParts) : Date :=
  let month := (5 * p.day + 2) / 153
  let day := p.day - (153 * month + 2) / 5 + 1
  if month < 10 then ⟨p.yearOfEra + p.era * 400, (month + 3).toNat, day.toNat⟩
  else ⟨p.yearOfEra + p.era * 400 + 1, (month - 9).toNat, day.toNat⟩

theorem ofDayNumber_count (p : DayParts) : Date.ofDayNumber (p.count - 719468) = p.date := by
  have hrange := p.dayOfEra_range
  have hera : (p.count - 719468 + 719468) / 146097 = p.era := by
    simp only [count]
    omega
  have hday : (p.count - 719468 + 719468) % 146097 = p.dayOfEra := by
    simp only [count]
    omega
  have hrest : p.dayOfEra - (365 * p.yearOfEra + p.yearOfEra / 4 - p.yearOfEra / 100) = p.day := by
    obtain ⟨era, c, q, y, d, hc, hq, hy, hd, hleap⟩ := p
    simp only [dayOfEra, yearOfEra]
    omega
  simp only [Date.ofDayNumber, hera, hday, yearOfEra_eq, hrest, date]

/-- A year that ends in a leap day is a leap year. -/
lemma isLeapYear_of_day (p : DayParts) (h : p.day = 365) :
    isLeapYear (p.yearOfEra + p.era * 400 + 1) = true := by
  obtain ⟨hyear, hcycle⟩ := p.leap h
  have hq := p.cycle_range
  have hdef : p.yearOfEra + p.era * 400 + 1 =
      400 * p.era + 100 * p.century + 4 * (p.cycle + 1) := by
    rw [yearOfEra]
    omega
  rw [hdef, isLeapYear]
  by_cases hlast : p.cycle = 24
  · have hc := hcycle hlast
    have hera : (400 * p.era + 100 * p.century + 4 * (p.cycle + 1)) % 400 = 0 := by omega
    simp [hera]
  · have hfour : (400 * p.era + 100 * p.century + 4 * (p.cycle + 1)) % 4 = 0 := by omega
    have hcentury : (400 * p.era + 100 * p.century + 4 * (p.cycle + 1)) % 100 ≠ 0 := by omega
    simp [hfour, hcentury]

theorem isValid_date (p : DayParts) : p.date.isValid = true := by
  have hd := p.day_range
  have hleap := p.isLeapYear_of_day
  simp only [date]
  generalize hm : (5 * p.day + 2) / 153 = m
  have hplace : 153 * m ≤ 5 * p.day + 2 ∧ 5 * p.day + 2 < 153 * (m + 1) := by omega
  obtain ⟨hlow, hhigh⟩ : 0 ≤ m ∧ m ≤ 11 := by omega
  interval_cases m <;> simp [Date.isValid, daysInMonth] <;> try omega
  -- what is left is the end of February
  split
  case isTrue hyear => omega
  case isFalse hyear =>
    have hday : p.day ≠ 365 := fun h => hyear (hleap h)
    omega

lemma yearOfEra_range (p : DayParts) : 0 ≤ p.yearOfEra ∧ p.yearOfEra ≤ 399 := by
  have hc := p.century_range
  have hq := p.cycle_range
  have hy := p.year_range
  rw [yearOfEra]
  omega

/-- The days of the years before a day and its place in its year. -/
lemma dayOfEra_eq (p : DayParts) :
    p.yearOfEra * 365 + p.yearOfEra / 4 - p.yearOfEra / 100 + p.day = p.dayOfEra := by
  have hc := p.century_range
  have hq := p.cycle_range
  have hy := p.year_range
  rw [yearOfEra, dayOfEra]
  omega

theorem dayNumber_date (p : DayParts) : p.date.dayNumber = p.count - 719468 := by
  have hd := p.day_range
  have hyear := p.yearOfEra_range
  have hday := p.dayOfEra_eq
  generalize hm : (5 * p.day + 2) / 153 = m
  have hplace : 153 * m ≤ 5 * p.day + 2 ∧ 5 * p.day + 2 < 153 * (m + 1) := by omega
  have hmonth : 0 ≤ m ∧ m ≤ 11 := by omega
  have hrest : ((p.day - (153 * m + 2) / 5 + 1).toNat : Int) = p.day - (153 * m + 2) / 5 + 1 :=
    Int.toNat_of_nonneg (by omega)
  simp only [date, hm]
  split
  case isTrue hspring =>
    have hnat : ((m + 3).toNat : Int) = m + 3 := Int.toNat_of_nonneg (by omega)
    have hlate : ¬(m + 3).toNat ≤ 2 := by omega
    have hera : (p.yearOfEra + p.era * 400) / 400 = p.era := by omega
    have hmod : (p.yearOfEra + p.era * 400) % 400 = p.yearOfEra := by omega
    simp only [Date.dayNumber, hlate, if_false, hera, hmod, hnat, hrest, count]
    omega
  case isFalse hspring =>
    have hnat : ((m - 9).toNat : Int) = m - 9 := Int.toNat_of_nonneg (by omega)
    have hearly : (m - 9).toNat ≤ 2 := by omega
    have hera : (p.yearOfEra + p.era * 400 + 1 - 1) / 400 = p.era := by omega
    have hmod : (p.yearOfEra + p.era * 400 + 1 - 1) % 400 = p.yearOfEra := by omega
    simp only [Date.dayNumber, hearly, if_true, hera, hmod, hnat, hrest, count]
    omega

end DayParts

/-- A day number is the number of its date. -/
theorem dayNumber_ofDayNumber (n : Int) : (Date.ofDayNumber n).dayNumber = n := by
  obtain ⟨p, hp⟩ := DayParts.exists_count (n + 719468)
  obtain rfl : n = p.count - 719468 := by omega
  rw [DayParts.ofDayNumber_count, DayParts.dayNumber_date]

/-- The date of a day number is one of the calendar. -/
theorem isValid_ofDayNumber (n : Int) : (Date.ofDayNumber n).isValid = true := by
  obtain ⟨p, hp⟩ := DayParts.exists_count (n + 719468)
  obtain rfl : n = p.count - 719468 := by omega
  rw [DayParts.ofDayNumber_count]
  exact p.isValid_date

lemma dayNumber_newYear (year : Int) :
    (Date.mk year 1 1).dayNumber =
      (year - 1) / 400 * 146097 + (year - 1) % 400 * 365 + (year - 1) % 400 / 4 -
        (year - 1) % 400 / 100 + 306 - 719468 := by
  simp only [Date.dayNumber]
  norm_num

/-- A day is before a year begins if the year of its date is an earlier one. -/
theorem year_ofDayNumber_lt_iff (n year : Int) :
    (Date.ofDayNumber n).year < year ↔ n < (Date.mk year 1 1).dayNumber := by
  obtain ⟨p, hp⟩ := DayParts.exists_count (n + 719468)
  obtain rfl : n = p.count - 719468 := by omega
  have hd := p.day_range
  have hyear : 0 ≤ p.yearOfEra ∧ p.yearOfEra ≤ 399 := p.yearOfEra_range
  have hday := p.dayOfEra_eq
  have hdate : p.date.year = p.yearOfEra + p.era * 400 + if p.day < 306 then 0 else 1 := by
    simp only [DayParts.date]
    split <;> split <;> simp only [] <;> omega
  rw [DayParts.ofDayNumber_count, hdate, dayNumber_newYear, DayParts.count, ← hday]
  generalize hera : (year - 1) / 400 = era
  generalize hof : (year - 1) % 400 = yearOfEra
  have hsplit : year = 400 * era + yearOfEra + 1 := by omega
  have hof' : 0 ≤ yearOfEra ∧ yearOfEra ≤ 399 := by omega
  subst hsplit
  clear hera hof hdate hday hp
  generalize p.yearOfEra = own at hyear ⊢
  generalize p.day = day at hd ⊢
  rcases Int.lt_trichotomy p.era era with hera | hera | hera
  · split <;> omega
  · rw [hera]
    rcases Int.lt_trichotomy own yearOfEra with hlt | rfl | hlt
    · split <;> omega
    · split <;> omega
    · split <;> omega
  · split <;> omega

end Findings.Time
