import LinkedControls.Proofs.Decimal.Exact
import LinkedControls.Proofs.Decimal.Rounding
import Mathlib.Tactic.Linarith
import Mathlib.Tactic.Ring

/-!
Rounding near whole numbers. A whole number below 2^52 ends on an even digit where it is rounded, so that
ties go to it: what is rounded to it or below are the quantities up to the midpoint between it and the next
finite form.
-/

namespace LinkedControls.Decimal

section Quotients

variable {num den k : ℕ}

theorem div_le_roundHalfEven (num den : ℕ) : num / den ≤ roundHalfEven num den := by
  simp only [roundHalfEven]
  split
  · exact le_rfl
  · split <;> omega

theorem roundHalfEven_le_iff (hden : 0 < den) (hk : Even k) :
    roundHalfEven num den ≤ k ↔ 2 * num ≤ (2 * k + 1) * den := by
  have hnum := Nat.div_add_mod num den
  have hmod := Nat.mod_lt num hden
  have hrhs : (2 * k + 1) * den = 2 * (den * k) + den := by ring
  rcases lt_trichotomy (num / den) k with hlt | heq | hgt
  · have hmul : den * (num / den + 1) ≤ den * k := Nat.mul_le_mul_left den hlt
    rw [Nat.mul_add_one] at hmul
    exact iff_of_true ((roundHalfEven_le_succ num den).trans hlt) (by omega)
  · have heven : k % 2 = 0 := Nat.even_iff.mp hk
    simp only [roundHalfEven, heq]
    rw [heq] at hnum
    split
    · omega
    · split <;> omega
  · have hmul : den * (k + 1) ≤ den * (num / den) := Nat.mul_le_mul_left den hgt
    rw [Nat.mul_add_one] at hmul
    exact iff_of_false (Nat.not_le.mpr (hgt.trans_le (div_le_roundHalfEven num den))) (by omega)

theorem roundHalfEven_near (num : ℕ) (hden : 0 < den) :
    2 * (roundHalfEven num den * den) ≤ 2 * num + den ∧
      2 * num ≤ 2 * (roundHalfEven num den * den) + den := by
  have hnum := Nat.div_add_mod' num den
  have hmod := Nat.mod_lt num hden
  have hup : (num / den + 1) * den = num / den * den + den := Nat.add_one_mul ..
  simp only [roundHalfEven]
  split
  · omega
  · split
    · rcases Nat.mod_two_eq_zero_or_one (num / den) with h | h
      · rw [h, Nat.add_zero]
        omega
      · rw [h]
        omega
    · omega

theorem spacing_dvd_two_pow (u : ℕ) : spacing u ∣ 2 ^ u.log2 := Nat.pow_dvd_pow 2 (Nat.sub_le _ _)

theorem two_pow_le_roundUnits (h : num / den ≠ 0) : 2 ^ (num / den).log2 ≤ roundUnits num den := by
  rw [roundUnits, ← Nat.div_mul_cancel (spacing_dvd_two_pow (num / den))]
  refine Nat.mul_le_mul_right _ (le_trans ?_ (div_le_roundHalfEven ..))
  rw [← Nat.div_div_eq_div_mul]
  exact Nat.div_le_div_right (Nat.log2_self_le h)

theorem roundUnits_le_two_pow (num den : ℕ) : roundUnits num den ≤ 2 ^ ((num / den).log2 + 1) := by
  have hdvd : spacing (num / den) ∣ 2 ^ ((num / den).log2 + 1) :=
    (spacing_dvd_two_pow (num / den)).trans (Nat.pow_dvd_pow 2 (Nat.le_succ _))
  rw [roundUnits, ← Nat.div_mul_cancel hdvd]
  refine Nat.mul_le_mul_right _ ((roundHalfEven_le_succ ..).trans ?_)
  rw [← Nat.div_div_eq_div_mul, Nat.succ_le_iff, Nat.div_lt_iff_lt_mul (spacing_pos _),
    Nat.div_mul_cancel hdvd]
  exact Nat.lt_log2_self

theorem roundUnits_near (hden : 0 < den) (h : 2 ^ 52 ≤ num / den) :
    2 ^ 53 * (roundUnits num den * den) ≤ 2 ^ 53 * num + num ∧
      2 ^ 53 * num ≤ 2 ^ 53 * (roundUnits num den * den) + num := by
  have hne : num / den ≠ 0 := by omega
  have hlog : 52 ≤ (num / den).log2 := (Nat.le_log2 hne).mpr h
  have hspacing : spacing (num / den) * 2 ^ 52 ≤ num / den := by
    rw [show spacing (num / den) = 2 ^ ((num / den).log2 - 52) from rfl, ← Nat.pow_add,
      Nat.sub_add_cancel hlog]
    exact Nat.log2_self_le hne
  have hgrid : den * spacing (num / den) * 2 ^ 52 ≤ num := by
    rw [Nat.mul_assoc]
    exact (Nat.mul_le_mul_left den hspacing).trans (Nat.mul_div_le num den)
  have hnear := roundHalfEven_near num (Nat.mul_pos hden (spacing_pos (num / den)))
  have hunits : roundUnits num den * den =
      roundHalfEven num (den * spacing (num / den)) * (den * spacing (num / den)) := by
    rw [roundUnits, Nat.mul_assoc, Nat.mul_comm (spacing _)]
  rw [hunits]
  omega

end Quotients

variable {u : ℕ}

theorem roundUnits_one (u : ℕ) : roundUnits u 1 = roundHalfEven u (spacing u) * spacing u := by
  rw [roundUnits, Nat.div_one, Nat.one_mul]

theorem roundUnits_eq_zero_iff : roundUnits u 1 = 0 ↔ u = 0 := by
  constructor
  · intro h
    by_contra hu
    have hround := two_pow_le_roundUnits (show u / 1 ≠ 0 by rwa [Nat.div_one])
    rw [h] at hround
    exact (Nat.two_pow_pos _).not_ge hround
  · rintro rfl
    exact roundUnits_of_dvd (Nat.dvd_zero _)

theorem roundUnits_le_iff {n e : ℕ} (hn : n ≠ 0) (hlimit : n < 2 ^ 52) (he : 53 ≤ e) :
    roundUnits u 1 ≤ n * 2 ^ e ↔ u ≤ n * 2 ^ e + 2 ^ (n.log2 + e - 53) := by
  have hlow : 2 ^ (n.log2 + e) ≤ n * 2 ^ e := by
    rw [Nat.pow_add]
    exact Nat.mul_le_mul_right _ (Nat.log2_self_le hn)
  have hlog : n.log2 < 52 := (Nat.log2_lt hn).mpr hlimit
  have hhalf : 2 ^ (n.log2 + e - 53) < 2 ^ e := Nat.pow_lt_pow_right (by decide) (by omega)
  have hhigh : n * 2 ^ e + 2 ^ e ≤ 2 ^ (n.log2 + e + 1) := by
    rw [← Nat.add_one_mul, Nat.add_right_comm, Nat.pow_add]
    exact Nat.mul_le_mul_right _ Nat.lt_log2_self
  rcases lt_trichotomy u.log2 (n.log2 + e) with hlt | heq | hgt
  · have hpow : 2 ^ (u.log2 + 1) ≤ 2 ^ (n.log2 + e) := Nat.pow_le_pow_right (by decide) hlt
    have hround := roundUnits_le_two_pow u 1
    rw [Nat.div_one] at hround
    refine iff_of_true (hround.trans (hpow.trans hlow)) ?_
    exact (Nat.lt_log2_self.le.trans (hpow.trans hlow)).trans (Nat.le_add_right _ _)
  · have hspacing : spacing u = 2 * 2 ^ (n.log2 + e - 53) := by
      rw [← Nat.pow_add_one', spacing, heq]
      exact congrArg (Nat.pow 2) (by omega)
    have hwhole : n * 2 ^ e = n * 2 ^ (52 - n.log2) * spacing u := by
      rw [hspacing, ← Nat.pow_add_one', Nat.mul_assoc, ← Nat.pow_add]
      congr 2
      omega
    have heven : Even (n * 2 ^ (52 - n.log2)) :=
      (Nat.even_pow.mpr ⟨even_two, by omega⟩).mul_left n
    rw [roundUnits_one, hwhole, Nat.mul_le_mul_right_iff (spacing_pos u),
      roundHalfEven_le_iff (spacing_pos u) heven, Nat.add_mul, Nat.mul_assoc, ← hwhole]
    omega
  · have hpow : 2 ^ (n.log2 + e + 1) ≤ 2 ^ u.log2 := Nat.pow_le_pow_right (by decide) hgt
    have hu : u ≠ 0 := by
      rintro rfl
      exact Nat.not_lt_zero _ hgt
    have hround := two_pow_le_roundUnits (show u / 1 ≠ 0 by rwa [Nat.div_one])
    rw [Nat.div_one] at hround
    have hself := Nat.log2_self_le hu
    have hpos := Nat.two_pow_pos e
    exact iff_of_false (by omega) (by omega)

theorem exists_unitsPerOne_eq : ∃ e, 60 ≤ e ∧ unitsPerOne = 2 ^ e := ⟨1074, by decide, by decide +kernel⟩

theorem mul_unitsPerOne_lt {n : ℕ} (h : n ≤ 2 ^ 53) : n * unitsPerOne < unitLimit :=
  (Nat.mul_le_mul_right _ h).trans_lt (by decide +kernel)

theorem roundUnits_mul_unitsPerOne {n : ℕ} (h : n ≤ 2 ^ 53) :
    roundUnits (n * unitsPerOne) 1 = n * unitsPerOne := by
  obtain ⟨e, -, hone⟩ := exists_unitsPerOne_eq
  rw [hone]
  exact roundUnits_of_dvd (spacing_dvd_mul h)

/-- Halfway between a whole number and the next finite form. -/
def halfway (n : ℕ) : ℚ := n + 2 ^ n.log2 / 2 ^ 53

theorem halfway_le {n : ℕ} (limit : ℕ) (hn : n ≤ 2 ^ limit) : halfway n ≤ n + 2 ^ limit / 2 ^ 53 := by
  have hlog : 2 ^ n.log2 ≤ 2 ^ limit := by
    rcases Nat.eq_zero_or_pos n with rfl | hpos
    · exact Nat.one_le_two_pow
    · exact (Nat.log2_self_le hpos.ne').trans hn
  have hlog' : (2 : ℚ) ^ n.log2 ≤ 2 ^ limit := by exact_mod_cast hlog
  rw [halfway]
  gcongr

theorem le_halfway (n : ℕ) : (n : ℚ) ≤ halfway n := by
  rw [halfway]
  exact le_add_of_nonneg_right (by positivity)

theorem halfway_mul {e : ℕ} (n : ℕ) (he : 53 ≤ e) :
    halfway n * 2 ^ e = (n * 2 ^ e + 2 ^ (n.log2 + e - 53) : ℕ) := by
  have hhalf : (2 : ℚ) ^ n.log2 / 2 ^ 53 * 2 ^ e = 2 ^ (n.log2 + e - 53) := by
    rw [div_mul_eq_mul_div, ← pow_add, div_eq_iff (by positivity), ← pow_add]
    congr 1
    omega
  rw [halfway, add_mul, hhalf]
  push_cast
  rfl

namespace Binary64

variable {m : Magnitude} {k n limit : ℕ}

theorem ofUnits_of_lt (negative : Bool) {num den : ℕ} (h : roundUnits num den < unitLimit) :
    ∃ m : Magnitude, ofUnits negative num den = finite negative m ∧ m.units = roundUnits num den := by
  refine ⟨⟨roundUnits num den, h, spacing_dvd_roundUnits num den⟩, ?_, rfl⟩
  have hnearest : Magnitude.nearest? num den = some ⟨roundUnits num den, h, spacing_dvd_roundUnits ..⟩ :=
    dif_pos h
  unfold ofUnits
  rw [hnearest]

theorem ofNat_eq_finite (hn : n ≤ 2 ^ 53) :
    ∃ m : Magnitude, ofNat n = finite false m ∧ m.units = n * unitsPerOne := by
  have hround := roundUnits_mul_unitsPerOne hn
  have hlt : roundUnits (n * unitsPerOne) 1 < unitLimit := by
    rw [hround]
    exact mul_unitsPerOne_lt hn
  unfold ofNat
  obtain ⟨m, hm, hunits⟩ := ofUnits_of_lt false hlt
  exact ⟨m, hm, hunits.trans hround⟩

theorem value_ofNat (hn : n ≤ 2 ^ 53) : (ofNat n).value = n := by
  obtain ⟨m, hm, hunits⟩ := ofNat_eq_finite hn
  rw [hm, value_finite_false, hunits, Nat.cast_mul, mul_div_assoc, div_self cast_units_pos.ne', mul_one]

theorem isFinite_ofNat (hn : n ≤ 2 ^ 53) : (ofNat n).isFinite = true := by
  obtain ⟨m, hm, -⟩ := ofNat_eq_finite hn
  rw [hm]
  rfl

theorem mul_ofNat_eq_finite (hm : m.units ≤ unitsPerOne) (hk : k < 2 ^ 50) :
    ∃ m' : Magnitude, (finite false m).mul (ofNat k) = finite false m' ∧
      m'.units = roundUnits (m.units * k) 1 := by
  obtain ⟨a, ha, hunits⟩ := ofNat_eq_finite (n := k) (by omega)
  obtain ⟨e, he, hone⟩ := exists_unitsPerOne_eq
  have hproduct : m.units * a.units = m.units * k * unitsPerOne := by rw [hunits, Nat.mul_assoc]
  have hround : roundUnits (m.units * a.units) unitsPerOne = roundUnits (m.units * k) 1 := by
    rw [hproduct, ← roundUnits_mul_right unitsPerOne_pos _ 1, Nat.one_mul]
  have hle : m.units * k ≤ (k + 1) * unitsPerOne := by
    rw [Nat.mul_comm]
    exact Nat.mul_le_mul (Nat.le_succ k) hm
  have hbound : roundUnits (m.units * k) 1 ≤ (k + 1) * unitsPerOne := by
    rw [hone] at hle ⊢
    exact (roundUnits_le_iff (Nat.succ_ne_zero k) (by omega) (by omega)).mpr
      (hle.trans (Nat.le_add_right _ _))
  rw [ha]
  change ∃ m', ofUnits false (m.units * a.units) unitsPerOne = _ ∧ _
  rw [← hround]
  exact ofUnits_of_lt false (by rw [hround]; exact hbound.trans_lt (mul_unitsPerOne_lt (by omega)))

theorem ceilNat_le_iff (h : n < limit) :
    (finite false m).ceilNat limit ≤ n ↔ m.units ≤ n * unitsPerOne := by
  have hpos := unitsPerOne_pos
  change limit ⊓ (m.units + (unitsPerOne - 1)) / unitsPerOne ≤ n ↔ _
  rw [inf_le_iff, or_iff_right (Nat.not_le.mpr h), ← Nat.lt_succ_iff, Nat.div_lt_iff_lt_mul hpos,
    Nat.succ_mul]
  omega

theorem ceilNat_mul_ofNat_eq_zero_iff (hm : m.units ≤ unitsPerOne) (hk : k < 2 ^ 50) (hlimit : 0 < limit) :
    ((finite false m).mul (ofNat k)).ceilNat limit = 0 ↔ k * (finite false m).value = 0 := by
  obtain ⟨m', hmul, hunits⟩ := mul_ofNat_eq_finite hm hk
  have hvalue : (finite false m).value = 0 ↔ m.units = 0 := by
    rw [value_finite_false, div_eq_zero_iff, or_iff_left cast_units_pos.ne', Nat.cast_eq_zero]
  rw [hmul, ← Nat.le_zero, ceilNat_le_iff hlimit, hunits, Nat.zero_mul, Nat.le_zero, roundUnits_eq_zero_iff,
    Nat.mul_eq_zero, mul_eq_zero, Nat.cast_eq_zero, hvalue, or_comm]

theorem ceilNat_mul_ofNat_le_iff (hm : m.units ≤ unitsPerOne) (hk : k < 2 ^ 50) (hn : n ≠ 0)
    (hn' : n < 2 ^ 52) (hlimit : n < limit) :
    ((finite false m).mul (ofNat k)).ceilNat limit ≤ n ↔ k * (finite false m).value ≤ halfway n := by
  obtain ⟨m', hmul, hunits⟩ := mul_ofNat_eq_finite hm hk
  obtain ⟨e, he, hone⟩ := exists_unitsPerOne_eq
  have hunits' : m'.units ≤ n * unitsPerOne ↔ m.units * k ≤ n * 2 ^ e + 2 ^ (n.log2 + e - 53) := by
    rw [hunits, hone]
    exact roundUnits_le_iff hn hn' (by omega)
  have hvalue : k * (finite false m).value = (m.units * k : ℕ) / 2 ^ e := by
    rw [value_finite_false, hone, mul_div_assoc', mul_comm (k : ℚ), Nat.cast_mul, Nat.cast_pow,
      Nat.cast_ofNat]
  rw [hmul, ceilNat_le_iff hlimit, hunits', hvalue, div_le_iff₀ (by positivity),
    halfway_mul n (he.trans' (by decide)), Nat.cast_le]

end Binary64

end LinkedControls.Decimal
