import LinkedControls.Proofs.Decimal.Shortest
import Mathlib.Algebra.Order.Ring.Rat

/-!
Exact results that are too large. An operation gives a finite number as long as its exact result lies below
the midpoint between the largest finite number and 2^1024.
-/

namespace LinkedControls.Decimal

section Quotients

variable {num den k : ℕ}

theorem roundHalfEven_lt_iff (hden : 0 < den) (hk : Even k) :
    roundHalfEven num den < k ↔ 2 * num + den < 2 * (k * den) := by
  have hnum := Nat.div_add_mod' num den
  have hmod := Nat.mod_lt num hden
  rcases lt_trichotomy (num / den + 1) k with hlt | heq | hgt
  · have hmul : (num / den + 2) * den ≤ k * den := Nat.mul_le_mul_right den hlt
    rw [Nat.add_mul] at hmul
    exact iff_of_true ((roundHalfEven_le_succ num den).trans_lt hlt) (by omega)
  · have hodd : num / den % 2 = 1 := by
      rw [← heq, Nat.even_add_one, Nat.not_even_iff] at hk
      exact hk
    rw [← heq, Nat.add_mul, Nat.one_mul]
    simp only [roundHalfEven, hodd]
    split
    · omega
    · split <;> omega
  · have hmul : k * den ≤ num / den * den := Nat.mul_le_mul_right den (Nat.le_of_lt_succ hgt)
    refine iff_of_false (Nat.not_lt.mpr ?_) (by omega)
    exact (Nat.le_of_lt_succ hgt).trans (div_le_roundHalfEven num den)

theorem roundUnits_lt_two_pow_iff (hden : 0 < den) (e : ℕ) :
    roundUnits num den < 2 ^ (e + 54) ↔ num + 2 ^ e * den < 2 ^ (e + 54) * den := by
  have hnum : num < (num / den + 1) * den := Nat.lt_mul_of_div_lt (Nat.lt_succ_self _) hden
  have hquotient : num / den * den ≤ num := Nat.div_mul_le_self num den
  rcases lt_trichotomy (num / den).log2 (e + 53) with hlt | heq | hgt
  · have hpow : 2 ^ ((num / den).log2 + 1) ≤ 2 ^ (e + 53) := Nat.pow_le_pow_right (by decide) hlt
    have hround := (roundUnits_le_two_pow num den).trans hpow
    have hself : (num / den + 1) * den ≤ 2 ^ (e + 53) * den :=
      Nat.mul_le_mul_right den (Nat.lt_log2_self.trans_le hpow)
    have hsmall : 2 ^ e * den ≤ 2 ^ (e + 53) * den :=
      Nat.mul_le_mul_right den (Nat.pow_le_pow_right (by decide) (Nat.le_add_right e 53))
    have hdouble : 2 ^ (e + 54) = 2 ^ (e + 53) * 2 := pow_succ 2 (e + 53)
    have hpos := Nat.two_pow_pos (e + 53)
    rw [hdouble, Nat.mul_right_comm]
    exact iff_of_true (by omega) (by omega)
  · have hspacing : spacing (num / den) = 2 * 2 ^ e := by
      rw [← Nat.pow_add_one', spacing, heq]
      exact congrArg (Nat.pow 2) (by omega)
    have hpow : 2 ^ (e + 54) = 2 ^ 53 * (2 * 2 ^ e) := by ring
    have hgrid : 0 < 2 * 2 ^ e := Nat.mul_pos (by decide) (Nat.two_pow_pos e)
    have hmul : den * (2 * 2 ^ e) = 2 * (2 ^ e * den) := by ring
    rw [roundUnits, hspacing, hpow, Nat.mul_lt_mul_right hgrid,
      roundHalfEven_lt_iff (Nat.mul_pos hden hgrid) (Nat.even_pow.mpr ⟨even_two, by decide⟩), Nat.mul_assoc,
      Nat.mul_comm (2 * 2 ^ e) den, hmul]
    omega
  · have hne : num / den ≠ 0 := by
      intro hzero
      rw [hzero] at hgt
      exact Nat.not_lt_zero _ hgt
    have hpow : 2 ^ (e + 54) ≤ 2 ^ (num / den).log2 := Nat.pow_le_pow_right (by decide) hgt
    have hbelow : 2 ^ (e + 54) * den ≤ num / den * den :=
      Nat.mul_le_mul_right den (hpow.trans (Nat.log2_self_le hne))
    exact iff_of_false (Nat.not_lt.mpr (hpow.trans (two_pow_le_roundUnits hne))) (by omega)

end Quotients

/-- The midpoint between the largest finite number and 2^1024. -/
def overflowPoint : ℚ := 2 ^ 1024 - 2 ^ 970

theorem exists_unitLimit_eq : ∃ e, unitsPerOne = 2 ^ e ∧ unitLimit = 2 ^ (e + 1024) :=
  ⟨1074, by decide +kernel, by decide +kernel⟩

theorem roundUnits_lt_unitLimit_iff {num den : ℕ} (hden : 0 < den) :
    roundUnits num den < unitLimit ↔ (num : ℚ) / den / unitsPerOne < overflowPoint := by
  obtain ⟨e, hone, hlimit⟩ := exists_unitLimit_eq
  have hden' : (0 : ℚ) < den := Nat.cast_pos.mpr hden
  -- as variables, the exponents are not computed with
  have hscale (a b : ℕ) : ((2 : ℚ) ^ a - 2 ^ b) * (den * 2 ^ e) =
      (2 ^ (e + a) * den : ℕ) - (2 ^ (e + b) * den : ℕ) := by
    push_cast
    ring
  have hpoint := hscale 1024 970
  rw [hlimit, show e + 1024 = e + 970 + 54 from rfl, roundUnits_lt_two_pow_iff hden, div_div, hone,
    Nat.cast_pow, Nat.cast_ofNat, div_lt_iff₀ (by positivity), overflowPoint, hpoint, lt_sub_iff_add_lt]
  exact_mod_cast Iff.rfl

namespace Binary64

variable {x y : Binary64}

theorem isFinite_ofUnits_iff_lt {negative : Bool} {num den : ℕ} (hden : 0 < den) :
    (ofUnits negative num den).isFinite = true ↔ (num : ℚ) / den / unitsPerOne < overflowPoint :=
  isFinite_ofUnits_iff.trans (roundUnits_lt_unitLimit_iff hden)

theorem abs_value_finite (s : Bool) (m : Magnitude) : |(finite s m).value| = m.units / unitsPerOne := by
  have hunits : |(((finite s m).toUnits : ℤ) : ℚ)| = m.units := by
    rw [toUnits_finite]
    cases s with
    | false => exact abs_of_nonneg (Nat.cast_nonneg m.units)
    | true => rw [if_pos rfl, Int.cast_neg, abs_neg, Int.cast_natCast, Nat.abs_cast]
  rw [value, abs_div, abs_of_pos cast_units_pos, hunits]

theorem abs_value_lt (hx : x.isFinite = true) : |x.value| < overflowPoint := by
  cases x <;> cases hx
  next s m =>
    have hrounded : roundUnits m.units 1 < unitLimit := by
      rw [roundUnits_of_dvd m.representable.2]
      exact m.representable.1
    have h := (roundUnits_lt_unitLimit_iff Nat.one_pos).mp hrounded
    rwa [Nat.cast_one, div_one, ← abs_value_finite s] at h

theorem isFinite_mul_iff (hx : x.isFinite = true) (hy : y.isFinite = true) :
    (x.mul y).isFinite = true ↔ |x.value * y.value| < overflowPoint := by
  cases x <;> cases hx
  cases y <;> cases hy
  next s m t n =>
    rw [mul_finite, isFinite_ofUnits_iff_lt unitsPerOne_pos, abs_mul, abs_value_finite, abs_value_finite,
      div_mul_div_comm, div_div, Nat.cast_mul]

theorem isFinite_add_iff (hx : x.isFinite = true) (hy : y.isFinite = true) :
    (x.add y).isFinite = true ↔ |x.value + y.value| < overflowPoint := by
  cases x <;> cases hx
  cases y <;> cases hy
  next s m t n =>
    rw [add_finite, ofSignedUnits, isFinite_ofUnits_iff_lt Nat.one_pos, Nat.cast_one, div_one, value, value,
      ← add_div, abs_div, abs_of_pos cast_units_pos, Nat.cast_natAbs]
    push_cast
    rfl

theorem exists_add_eq_infinity (hx : x.isFinite = true) (hy : y.isFinite = true)
    (h : ¬ (x.add y).isFinite = true) : ∃ s, x.add y = .infinity s := by
  cases x <;> cases hx
  cases y <;> cases hy
  next s m t n =>
    rw [add_finite, ofSignedUnits, isFinite_ofUnits_iff] at h
    exact ⟨_, ofSignedUnits_of_not_lt _ h⟩

theorem wholeAbout_of_dvd {u : ℕ} (h : unitsPerOne ∣ u) : wholeAbout u * unitsPerOne = u := by
  have hno : ¬ unitsPerOne ≤ 2 * (u % unitsPerOne) := by
    rw [Nat.mod_eq_zero_of_dvd h]
    exact unitsPerOne_pos.not_ge
  rw [wholeAbout, if_neg hno, Nat.div_mul_cancel h]

theorem isFinite_roundHalfAway (hx : x.isFinite = true) : x.roundHalfAway.isFinite = true := by
  cases x <;> cases hx
  next s m =>
    rw [roundHalfAway_finite, isFinite_ofUnits_iff]
    rcases le_or_gt (2 ^ 53 * unitsPerOne) m.units with hlarge | hsmall
    · rw [wholeAbout_of_dvd (unitsPerOne_dvd_of_le hlarge m.representable.2),
        roundUnits_of_dvd m.representable.2]
      exact m.representable.1
    · have hle : wholeAbout m.units ≤ 2 ^ 53 := by
        have hdiv : m.units / unitsPerOne < 2 ^ 53 := Nat.div_lt_of_lt_mul (Nat.mul_comm .. ▸ hsmall)
        unfold wholeAbout
        split <;> omega
      rw [roundUnits_mul_unitsPerOne hle]
      exact mul_unitsPerOne_lt hle

theorem isFinite_div (hx : x.isFinite = true) {n : Magnitude} (hn : unitsPerOne ≤ n.units) :
    (x.div (finite false n)).isFinite = true := by
  have hlt := abs_value_lt hx
  cases x <;> cases hx
  next s m =>
    have hpos : 0 < n.units := unitsPerOne_pos.trans_le hn
    have hle : (m.units * unitsPerOne : ℕ) / (n.units : ℚ) / unitsPerOne ≤ m.units / unitsPerOne := by
      refine div_le_div_of_nonneg_right ?_ cast_units_pos.le
      rw [div_le_iff₀ (Nat.cast_pos.mpr hpos), ← Nat.cast_mul, Nat.cast_le]
      exact Nat.mul_le_mul_left _ hn
    rw [div_finite s m hpos.ne', isFinite_ofUnits_iff_lt hpos]
    exact hle.trans_lt (abs_value_finite s m ▸ hlt)

end Binary64

end LinkedControls.Decimal
