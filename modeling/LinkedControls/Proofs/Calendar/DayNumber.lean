import LinkedControls.Calendar.Date
import Mathlib.Order.Monotone.Basic
import Mathlib.Data.Int.ConditionallyCompleteOrder
import Mathlib.Data.Int.SuccPred
import Mathlib.Tactic.IntervalCases

/-!
The numbers of days count them in the order of the calendar, and a number gives back the day that has it.
-/

namespace LinkedControls.Calendar.Date

def commonDays (dayOfEra : ℤ) : ℤ := dayOfEra - dayOfEra / 1460 + dayOfEra / 36524 - dayOfEra / 146096

theorem commonDays_mono : Monotone commonDays :=
  monotone_int_of_le_succ fun n => by
    unfold commonDays
    omega

theorem commonDays_year : ∀ y : ℕ, y < 400 → 365 * (y : ℤ) ≤ commonDays (daysBeforeYear y) ∧
    commonDays (daysBeforeYear (y + 1) - 1) < 365 * ((y : ℤ) + 1) := by
  decide +kernel

theorem commonDays_bounds {dayOfEra : ℤ} (hlo : 0 ≤ dayOfEra) (hhi : dayOfEra < 146097) :
    0 ≤ commonDays dayOfEra / 365 ∧ commonDays dayOfEra / 365 < 400 := by
  unfold commonDays
  omega

theorem yearOfEra_bounds {dayOfEra : ℤ} (hlo : 0 ≤ dayOfEra) (hhi : dayOfEra < 146097) :
    daysBeforeYear (commonDays dayOfEra / 365) ≤ dayOfEra ∧
      dayOfEra < daysBeforeYear (commonDays dayOfEra / 365 + 1) := by
  obtain ⟨hnonneg, hlt⟩ := commonDays_bounds hlo hhi
  obtain ⟨y, hy⟩ := Int.eq_ofNat_of_zero_le hnonneg
  have hquotient := Int.ediv_mul_add_emod (commonDays dayOfEra) 365
  rw [hy] at hlt hquotient ⊢
  constructor
  · by_contra hbefore
    obtain ⟨z, rfl⟩ : ∃ z, y = z + 1 := by
      refine Nat.exists_eq_succ_of_ne_zero ?_
      rintro rfl
      exact hbefore hlo
    have hlast := (commonDays_year z (by omega)).2
    have hmono := commonDays_mono (show dayOfEra ≤ daysBeforeYear (z + 1) - 1 by push_cast at hbefore; omega)
    omega
  · by_contra hafter
    rcases Nat.lt_or_ge (y + 1) 400 with hnext | hnext
    · have hfirst := (commonDays_year (y + 1) hnext).1
      have hmono := commonDays_mono (not_lt.mp hafter)
      push_cast at hfirst
      omega
    · obtain rfl : y = 399 := by omega
      exact hafter hhi

/-- The number of the day before the first one of a month, where month 0 is March of the year 0. -/
def daysBeforeMonth (month : ℤ) : ℤ := daysBeforeYear (month / 12) + (153 * (month % 12) + 2) / 5

def monthNumber (d : Date) : ℤ := 12 * d.year + d.month - 3

variable {d e : Date} {n : ℤ}

theorem bounds (d : Date) :
    1 ≤ d.month ∧ d.month ≤ 12 ∧ 1 ≤ d.day ∧ d.day ≤ daysInMonth d.year d.month := by
  have h := d.isDay
  simp only [Calendar.isDay, Bool.and_eq_true, decide_eq_true_eq] at h
  tauto

theorem number_eq (d : Date) : d.number = daysBeforeMonth d.monthNumber + d.day - 719469 := by
  obtain ⟨hlo, hhi, -⟩ := d.bounds
  have hmonth : (12 * d.year + d.month - 3) % 12 = ((d.month + 9) % 12 : ℕ) := by omega
  have hyear : (12 * d.year + d.month - 3) / 12 = if d.month ≤ 2 then d.year - 1 else d.year := by
    split <;> omega
  simp only [number, daysBeforeMonth, monthNumber, hmonth, hyear]
  omega

theorem daysBeforeYear_succ (year : ℤ) :
    daysBeforeYear (year + 1) = daysBeforeYear year + 337 + daysInMonth (year + 1) 2 := by
  simp only [daysBeforeYear, daysInMonth, isLeapYear, Bool.and_eq_true, Bool.or_eq_true, beq_iff_eq, bne_iff_ne]
  split <;> omega

theorem daysBeforeMonth_succ (year : ℤ) {month : ℕ} (hlo : 1 ≤ month) (hhi : month ≤ 12) :
    daysBeforeMonth (12 * year + month - 3 + 1) =
      daysBeforeMonth (12 * year + month - 3) + daysInMonth year month := by
  have hyear := daysBeforeYear_succ (year - 1)
  rw [sub_add_cancel] at hyear
  have hthis : (12 * year + month - 3) / 12 = if month ≤ 2 then year - 1 else year := by split <;> omega
  have hnext : (12 * year + month - 3 + 1) / 12 = if month ≤ 1 then year - 1 else year := by split <;> omega
  have hplace : (12 * year + month - 3) % 12 = ((month + 9) % 12 : ℕ) := by omega
  have hsucc : (12 * year + month - 3 + 1) % 12 = ((month + 10) % 12 : ℕ) := by omega
  simp only [daysBeforeMonth, hthis, hnext, hplace, hsucc]
  interval_cases month <;> simp [daysInMonth] at hyear ⊢ <;> omega

theorem daysBeforeMonth_mono : Monotone daysBeforeMonth := by
  refine monotone_int_of_le_succ fun number => ?_
  obtain ⟨month, hlo, hhi, hmonth⟩ : ∃ month : ℕ, 1 ≤ month ∧ month ≤ 12 ∧
      number = 12 * ((number + 2) / 12) + month - 3 :=
    ⟨((number + 2) % 12 + 1).toNat, by omega, by omega, by omega⟩
  rw [hmonth, daysBeforeMonth_succ _ hlo hhi]
  omega

theorem lt_iff (d e : Date) : d.lt e = true ↔
    d.monthNumber < e.monthNumber ∨ d.monthNumber = e.monthNumber ∧ d.day < e.day := by
  obtain ⟨hdlo, hdhi, -⟩ := d.bounds
  obtain ⟨helo, hehi, -⟩ := e.bounds
  simp only [lt, monthNumber, Bool.or_eq_true, Bool.and_eq_true, decide_eq_true_eq, beq_iff_eq]
  omega

theorem number_lt_of_monthNumber_lt (h : d.monthNumber < e.monthNumber) : d.number < e.number := by
  obtain ⟨hlo, hhi, -, hday⟩ := d.bounds
  obtain ⟨-, -, hday', -⟩ := e.bounds
  have hmonth : daysBeforeMonth d.monthNumber + daysInMonth d.year d.month ≤ daysBeforeMonth e.monthNumber := by
    rw [monthNumber, ← daysBeforeMonth_succ d.year hlo hhi]
    exact daysBeforeMonth_mono h
  rw [number_eq, number_eq]
  omega

theorem lt_iff_number_lt (d e : Date) : d.lt e = true ↔ d.number < e.number := by
  rw [lt_iff]
  rcases lt_trichotomy d.monthNumber e.monthNumber with h | h | h
  · simp [h, number_lt_of_monthNumber_lt h]
  · rw [number_eq, number_eq, h]
    omega
  · have := number_lt_of_monthNumber_lt h
    omega

theorem eq_of_of? {year : ℤ} {month day : ℕ} (h : of? year month day = some d) :
    d.year = year ∧ d.month = month ∧ d.day = day := by
  unfold of? at h
  split at h
  next =>
    cases h
    exact ⟨rfl, rfl, rfl⟩
  next => cases h

theorem number_of? {year month day : ℤ} (hlo : 0 ≤ month) (hhi : month < 12)
    (h : of? (year + (if (if month < 10 then month + 3 else month - 9) ≤ 2 then 1 else 0))
      (if month < 10 then month + 3 else month - 9).toNat day.toNat = some d) :
    d.number = daysBeforeYear year + (153 * month + 2) / 5 + day - 719469 := by
  obtain ⟨hyear, hmonth, hday⟩ := eq_of_of? h
  obtain ⟨-, -, hpos, -⟩ := d.bounds
  have hnumber : d.monthNumber = 12 * year + month := by
    unfold monthNumber
    split_ifs at hyear hmonth <;> omega
  have hdiv : (12 * year + month) / 12 = year := by omega
  have hmod : (12 * year + month) % 12 = month := by omega
  rw [number_eq, hnumber, daysBeforeMonth, hdiv, hmod]
  omega

theorem daysBeforeYear_era (year era : ℤ) :
    daysBeforeYear (year + era * 400) = daysBeforeYear year + 146097 * era := by
  unfold daysBeforeYear
  omega

theorem daysBeforeYear_succ_le (year : ℤ) : daysBeforeYear (year + 1) ≤ daysBeforeYear year + 366 := by
  unfold daysBeforeYear
  omega

theorem number_ofNumber? (h : ofNumber? n = some d) : d.number = n := by
  have hera := Int.ediv_mul_add_emod (n + 719468) 146097
  have hlo := Int.emod_nonneg (n + 719468) (show (146097 : ℤ) ≠ 0 by decide)
  have hhi := Int.emod_lt_of_pos (n + 719468) (show (0 : ℤ) < 146097 by decide)
  simp only [ofNumber?] at h
  rw [← commonDays] at h
  generalize (n + 719468) / 146097 = era at *
  generalize (n + 719468) % 146097 = dayOfEra at *
  obtain ⟨hfirst, hlast⟩ := yearOfEra_bounds hlo hhi
  generalize commonDays dayOfEra / 365 = year at *
  have hlength := daysBeforeYear_succ_le year
  have hnumber := number_of? (by omega) (by omega) h
  rw [daysBeforeYear_era] at hnumber
  omega

theorem addDays?_not_lt {days : ℤ} (hdays : 0 ≤ days) (h : d.addDays? days = some e) : e.lt d = false := by
  have hnumber := number_ofNumber? h
  rw [Bool.eq_false_iff, ne_eq, lt_iff_number_lt]
  omega

end LinkedControls.Calendar.Date
