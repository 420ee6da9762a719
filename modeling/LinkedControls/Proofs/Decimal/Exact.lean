import LinkedControls.Decimal.Binary64
import Mathlib.Algebra.Order.Floor.Semifield
import Mathlib.Data.ENat.Lattice
import Mathlib.Data.Rat.Floor

/-!
The exact values of finite forms. Comparisons are those of the values, and whole parts are their floors.
-/

namespace LinkedControls.Decimal.Binary64

/-- The number that a finite form stands for. The other forms stand for no number and have zero here. -/
def value (x : Binary64) : ℚ := x.toUnits / unitsPerOne

def value? (x : Binary64) : Option ℚ := if x.isFinite then some x.value else none

theorem cast_units_pos : (0 : ℚ) < unitsPerOne := Nat.cast_pos.mpr unitsPerOne_pos

variable {x y : Binary64}

theorem lt_eq_decide (hx : x.isFinite = true) (hy : y.isFinite = true) :
    x.lt y = decide (x.value < y.value) := by
  cases x <;> cases hx
  cases y <;> cases hy
  simp only [value, div_lt_div_iff_of_pos_right cast_units_pos, Int.cast_lt]
  rfl

theorem value_zero : zero.value = 0 := by
  have hunits : zero.toUnits = 0 := rfl
  rw [value, hunits, Int.cast_zero, zero_div]

theorem value_finite_false (m : Magnitude) : (finite false m).value = m.units / unitsPerOne := rfl

theorem value_finite_true_le (m : Magnitude) : (finite true m).value ≤ 0 := by
  have hunits : (finite true m).toUnits ≤ 0 := Int.neg_nonpos_of_nonneg (Int.natCast_nonneg _)
  exact div_nonpos_of_nonpos_of_nonneg (Int.cast_nonpos.mpr hunits) cast_units_pos.le

/-- The whole part of the larger of a number and zero. Infinity has no bound, and zero wins over what is
not a number. -/
def wholePart : Binary64 → ℕ∞
  | .nan => 0
  | .infinity negative => if negative then 0 else ⊤
  | .finite negative m => ⌊(finite negative m).value ⊔ 0⌋₊

theorem floorNat_finite_false (limit : ℕ) (m : Magnitude) :
    (finite false m).floorNat limit = limit ⊓ ⌊(finite false m).value⌋₊ := by
  rw [value_finite_false, Nat.floor_div_eq_div]
  rfl

theorem floorNat_zero (limit : ℕ) : zero.floorNat limit = 0 := by
  rw [zero, floorNat_finite_false, ← zero, value_zero, Nat.floor_zero, Nat.min_zero]

theorem max_zero_of_finite (negative : Bool) (m : Magnitude) :
    (finite negative m).max zero =
      if 0 < (finite negative m).value then finite negative m else zero := by
  have hlt := lt_eq_decide (x := zero) (y := finite negative m) rfl rfl
  rw [value_zero] at hlt
  change (if zero.lt (finite negative m) then finite negative m else zero) = _
  simp only [hlt, decide_eq_true_iff]

theorem floorNat_max_zero (limit : ℕ) (x : Binary64) :
    ((x.max zero).floorNat limit : ℕ∞) = (limit : ℕ∞) ⊓ x.wholePart := by
  cases x with
  | nan =>
    change ((zero.floorNat limit : ℕ) : ℕ∞) = _
    simp [floorNat_zero, wholePart]
  | infinity negative =>
    cases negative with
    | true =>
      change ((zero.floorNat limit : ℕ) : ℕ∞) = _
      simp [floorNat_zero, wholePart]
    | false =>
      change (limit : ℕ∞) = _
      simp [wholePart]
  | finite negative m =>
    rw [max_zero_of_finite, wholePart]
    split
    next hpos =>
      cases negative with
      | true => exact absurd hpos (not_lt.mpr (value_finite_true_le m))
      | false =>
        rw [floorNat_finite_false, sup_of_le_left hpos.le]
        rfl
    next hneg =>
      rw [floorNat_zero, sup_of_le_right (not_lt.mp hneg), Nat.floor_zero]
      simp

end LinkedControls.Decimal.Binary64
