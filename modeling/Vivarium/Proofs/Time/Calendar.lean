import Vivarium.Time.Calendar
import Mathlib.Tactic

/-!
# Dates and days

Four hundred years are four centuries of 36524 days and a day more, a century
is twenty-five spans of four years less a day, and a span is four years of 365
days and a day more. So the number of a day in the cycle comes apart into
century, span, year and day of the year, and the closed formula for the year
puts the first three together again. The day of the year comes apart into month
and day of the month. What is put together from them is the day one started
with, and it is a date that exists.
-/

namespace Vivarium.Time

/-- Where a day stands in the cycle of four hundred years, which starts in March. -/
structure Standing where
  century : Int
  span : Int
  year : Int
  day : Int

namespace Standing

/-- The year of the cycle. -/
def inCycle (place : Standing) : Int :=
  100 * place.century + 4 * place.span + place.year

end Standing

/-- Whether a day of the cycle has the given standing. -/
structure Stands (count : Int) (place : Standing) : Prop where
  century : 0 ≤ place.century ∧ place.century ≤ 3
  span : 0 ≤ place.span ∧ place.span ≤ 24
  year : 0 ≤ place.year ∧ place.year ≤ 3
  day : 0 ≤ place.day ∧ place.day ≤ 365
  sum : count = 36524 * place.century + 1461 * place.span + 365 * place.year + place.day
  leap : place.day = 365 → place.year = 3 ∧ (place.span < 24 ∨ place.century = 3)

theorem exists_stands {n : Int} (h0 : 0 ≤ n) (h1 : n < 146097) :
    ∃ place, Stands n place ∧
      (n - n / 1460 + n / 36524 - n / 146096) / 365 = place.inCycle := by
  by_cases hlast : n = 146096
  · subst hlast
    exact ⟨⟨3, 24, 3, 365⟩, ⟨by decide, by decide, by decide, by decide, by decide, by decide⟩,
      by decide⟩
  · obtain ⟨a, ha⟩ : ∃ a, a = n / 36524 := ⟨_, rfl⟩
    obtain ⟨k, hk⟩ : ∃ k, k = n % 36524 / 1461 := ⟨_, rfl⟩
    obtain ⟨t, ht⟩ : ∃ t, t = n % 36524 % 1461 := ⟨_, rfl⟩
    have hcycle : n / 146096 = 0 := by omega
    have hn : n = 36524 * a + 1461 * k + t := by omega
    have ha3 : 0 ≤ a ∧ a ≤ 3 := by omega
    have hk24 : 0 ≤ k ∧ k ≤ 24 := by omega
    have ht4 : 0 ≤ t ∧ t ≤ 1460 := by omega
    have hb : n / 1460 = 25 * a + k ∧ 24 * a + k + t < 1460 ∨
        n / 1460 = 25 * a + k + 1 ∧ 1460 ≤ 24 * a + k + t := by omega
    rw [hcycle, ← ha]
    by_cases hleap : t = 1460
    · refine ⟨⟨a, k, 3, 365⟩, ⟨ha3, hk24, ?_, ?_, ?_, fun _ => ⟨rfl, ?_⟩⟩, ?_⟩ <;>
        simp only [Standing.inCycle] <;> omega
    · refine ⟨⟨a, k, t / 365, t % 365⟩, ⟨ha3, hk24, ?_, ?_, ?_, ?_⟩, ?_⟩ <;>
        simp only [Standing.inCycle] <;> omega

/-- The month of a day of the year, counted from March. -/
def monthOf (day : Int) : Int :=
  (5 * day + 2) / 153

theorem monthOf_bounds {day : Int} (h : 0 ≤ day ∧ day ≤ 365) :
    0 ≤ monthOf day ∧ monthOf day ≤ 11 := by
  rw [monthOf]
  omega

/-- The first day of a month, counted from March, does not come after the day. -/
theorem day_bounds (day : Int) :
    0 ≤ day - (153 * monthOf day + 2) / 5 ∧ day - (153 * monthOf day + 2) / 5 ≤ 30 := by
  rw [monthOf]
  omega

namespace Stands

variable {count : Int} {place : Standing}

theorem inCycle_bounds (stands : Stands count place) :
    0 ≤ place.inCycle ∧ place.inCycle ≤ 399 := by
  have := stands.century
  have := stands.span
  have := stands.year
  rw [Standing.inCycle]
  omega

theorem leaps (stands : Stands count place) :
    365 * place.inCycle + place.inCycle / 4 - place.inCycle / 100 = count - place.day := by
  have := stands.century
  have := stands.span
  have := stands.year
  have hspans : place.inCycle / 4 = 25 * place.century + place.span := by
    rw [Standing.inCycle]
    omega
  have hcenturies : place.inCycle / 100 = place.century := by
    rw [Standing.inCycle]
    omega
  rw [hspans, hcenturies, stands.sum, Standing.inCycle]
  ring

end Stands

/-- The date of the day with a given standing, so many cycles after the first. -/
def Standing.date (place : Standing) (cycle : Int) : Date :=
  { year := place.inCycle + cycle * 400 + if monthOf place.day < 10 then 0 else 1
    month := (if monthOf place.day < 10 then monthOf place.day + 3
      else monthOf place.day - 9).toNat
    day := (place.day - (153 * monthOf place.day + 2) / 5 + 1).toNat }

theorem exists_standing (days : Int) : ∃ place cycle count, Stands count place ∧
    count + cycleDays * cycle = days + epochDays ∧ Date.ofDays days = place.date cycle := by
  have hlow : 0 ≤ (days + epochDays) % cycleDays := Int.emod_nonneg _ (by decide)
  have hhigh : (days + epochDays) % cycleDays < 146097 := Int.emod_lt_of_pos _ (by decide)
  obtain ⟨place, stands, hyear⟩ := exists_stands hlow hhigh
  refine ⟨place, (days + epochDays) / cycleDays, _, stands, Int.emod_add_mul_ediv _ _, ?_⟩
  have hday : (days + epochDays) % cycleDays -
      (365 * place.inCycle + place.inCycle / 4 - place.inCycle / 100) = place.day := by
    rw [stands.leaps]
    ring
  simp only [Date.ofDays, hyear, hday, Standing.date, monthOf]
  rfl

theorem Date.toDays_ofDays (days : Int) : (Date.ofDays days).toDays = days := by
  obtain ⟨place, cycle, count, stands, hcount, hdate⟩ := exists_standing days
  obtain ⟨hm0, hm11⟩ := monthOf_bounds stands.day
  obtain ⟨hd0, hd30⟩ := day_bounds place.day
  obtain ⟨hy0, hy399⟩ := stands.inCycle_bounds
  have hleaps := stands.leaps
  rw [hdate]
  simp only [Standing.date]
  generalize monthOf place.day = month at *
  generalize place.inCycle = year at *
  have hcycle : (year + cycle * 400) / 400 = cycle := by omega
  have hinCycle : (year + cycle * 400) % 400 = year := by omega
  have hday : ((place.day - (153 * month + 2) / 5 + 1).toNat : Int) =
    place.day - (153 * month + 2) / 5 + 1 := by omega
  by_cases early : month < 10
  · have hlate : ¬ (month + 3).toNat ≤ 2 := by omega
    have hmonth : (((month + 3).toNat : Int) + 9) % 12 = month := by omega
    simp only [toDays, if_pos early, if_neg hlate, hmonth, hday, Int.add_zero, hcycle, hinCycle]
    rw [cycleDays, epochDays] at *
    omega
  · have hearly : (month - 9).toNat ≤ 2 := by omega
    have hmonth : (((month - 9).toNat : Int) + 9) % 12 = month := by omega
    simp only [toDays, if_neg early, if_pos hearly, hmonth, hday, Int.add_sub_cancel, hcycle,
      hinCycle]
    rw [cycleDays, epochDays] at *
    omega

/-- The year after one that has a day too many is a leap year. -/
theorem isLeap_of_last {count : Int} {place : Standing} (stands : Stands count place)
    (last : place.day = 365) (cycle : Int) :
    isLeap (place.inCycle + cycle * 400 + 1) = true := by
  obtain ⟨hyear, hspan⟩ := stands.leap last
  have := stands.century
  have := stands.span
  rw [isLeap, Standing.inCycle, hyear]
  simp only [Bool.and_eq_true, Bool.or_eq_true, beq_iff_eq, bne_iff_ne]
  omega

theorem Date.ofDays_valid (days : Int) : (Date.ofDays days).valid = true := by
  obtain ⟨place, cycle, count, stands, -, hdate⟩ := exists_standing days
  obtain ⟨hm0, hm11⟩ := monthOf_bounds stands.day
  obtain ⟨hd0, hd365⟩ := stands.day
  have hlast := fun last => isLeap_of_last stands last cycle
  rw [hdate, Standing.date]
  generalize hm : monthOf place.day = month at *
  rw [monthOf] at hm
  simp only [valid, Bool.and_eq_true, decide_eq_true_eq]
  by_cases february : month = 11
  · subst february
    have hmonth : (if (11 : Int) < 10 then (11 : Int) + 3 else 11 - 9).toNat = 2 := by decide
    rw [hmonth, if_neg (by decide), monthDays]
    split
    · omega
    · next common =>
      have : place.day ≠ 365 := fun last => common (hlast last)
      omega
  · interval_cases month
    iterate 11
      · simp only [monthDays]
        simp
        omega
    · exact absurd rfl february

end Vivarium.Time
