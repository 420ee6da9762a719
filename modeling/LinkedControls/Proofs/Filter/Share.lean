import LinkedControls.Proofs.Decimal.Midpoint
import LinkedControls.Proofs.Filter.Composition

/-!
What a ranking by percentage keeps. The share is computed with two roundings, of the percentage as a part of
one and of its product with the number of records. So what is kept is the least whole number up to whose
midpoint the product lies: the exact share, rounded up, or a neighbour of it.
-/

namespace LinkedControls

open Decimal

namespace Ranking

variable {p size n : ℕ}

def portion (p : ℕ) : Binary64 := (Binary64.ofNat p).div percent

theorem roundUnits_percent_near (hp : p ≠ 0) :
    2 ^ 53 * (roundUnits (p * unitsPerOne) 100 * 100) ≤ 2 ^ 53 * (p * unitsPerOne) + p * unitsPerOne ∧
      2 ^ 53 * (p * unitsPerOne) ≤
        2 ^ 53 * (roundUnits (p * unitsPerOne) 100 * 100) + p * unitsPerOne := by
  refine roundUnits_near (by decide) ?_
  obtain ⟨e, he, hone⟩ := exists_unitsPerOne_eq
  have hpow : 2 ^ 60 ≤ 2 ^ e := Nat.pow_le_pow_right (by decide) he
  rw [hone, Nat.le_div_iff_mul_le (by decide)]
  calc 2 ^ 52 * 100 ≤ 1 * 2 ^ 60 := by decide
    _ ≤ p * 2 ^ e := Nat.mul_le_mul (Nat.one_le_iff_ne_zero.mpr hp) hpow

theorem roundUnits_percent_of_eq (whole : ℕ) (h : p = whole * 100) (hwhole : whole ≤ 1) :
    roundUnits (p * unitsPerOne) 100 = whole * unitsPerOne := by
  have hscale := roundUnits_mul_right (c := 100) (by decide) (whole * unitsPerOne) 1
  rw [Nat.one_mul, Nat.mul_right_comm, ← h] at hscale
  exact hscale.trans (roundUnits_mul_unitsPerOne (hwhole.trans (by decide)))

theorem roundUnits_percent_le (hp : p ≤ 100) : roundUnits (p * unitsPerOne) 100 ≤ unitsPerOne := by
  rcases Nat.eq_zero_or_pos p with hzero | hpos
  · rw [roundUnits_percent_of_eq 0 (by omega) (by decide), Nat.zero_mul]
    exact Nat.zero_le _
  · rcases hp.lt_or_eq with hlt | heq
    · have hnear := (roundUnits_percent_near hpos.ne').1
      have hmul : p * unitsPerOne ≤ 99 * unitsPerOne := Nat.mul_le_mul_right _ (by omega)
      omega
    · rw [roundUnits_percent_of_eq 1 (by omega) le_rfl, Nat.one_mul]

theorem portion_eq_finite (hp : p ≤ 100) :
    ∃ m : Magnitude, portion p = .finite false m ∧ m.units = roundUnits (p * unitsPerOne) 100 := by
  obtain ⟨a, ha, haunits⟩ := Binary64.ofNat_eq_finite (n := p) (by omega)
  obtain ⟨b, hb, hbunits⟩ := Binary64.ofNat_eq_finite (n := 100) (by decide)
  have hne : b.units ≠ 0 := by
    rw [hbunits]
    exact (Nat.mul_pos (by decide) unitsPerOne_pos).ne'
  have hround : roundUnits (a.units * unitsPerOne) b.units = roundUnits (p * unitsPerOne) 100 := by
    rw [haunits, hbunits, roundUnits_mul_right unitsPerOne_pos]
  have hlt : roundUnits (a.units * unitsPerOne) b.units < unitLimit := by
    rw [hround]
    exact (roundUnits_percent_le hp).trans_lt (by decide +kernel)
  have hdiv : portion p = Binary64.ofUnits false (a.units * unitsPerOne) b.units := by
    rw [portion, percent, ha, hb]
    exact if_neg hne
  obtain ⟨m, hm, hunits⟩ := Binary64.ofUnits_of_lt false hlt
  exact ⟨m, hdiv.trans hm, hunits.trans hround⟩

theorem value_portion (hp : p ≤ 100) :
    (portion p).value = roundUnits (p * unitsPerOne) 100 / unitsPerOne := by
  obtain ⟨m, hm, hunits⟩ := portion_eq_finite hp
  rw [hm, Binary64.value_finite_false, hunits]

theorem value_portion_mul (hp : p ≤ 100) :
    (portion p).value * unitsPerOne = roundUnits (p * unitsPerOne) 100 := by
  rw [value_portion hp, div_mul_cancel₀ _ Binary64.cast_units_pos.ne']

theorem value_portion_le_one (hp : p ≤ 100) : (portion p).value ≤ 1 := by
  rw [value_portion hp, div_le_one Binary64.cast_units_pos, Nat.cast_le]
  exact roundUnits_percent_le hp

theorem value_portion_nonneg (hp : p ≤ 100) : 0 ≤ (portion p).value := by
  rw [value_portion hp]
  exact div_nonneg (Nat.cast_nonneg _) (Nat.cast_nonneg _)

theorem value_portion_zero : (portion 0).value = 0 := by
  rw [value_portion (Nat.zero_le _), roundUnits_percent_of_eq 0 rfl (by decide), Nat.zero_mul,
    Nat.cast_zero, zero_div]

theorem value_portion_le_of_units {k : ℕ} (hp : p ≤ 100)
    (h : 2 ^ k * (roundUnits (p * unitsPerOne) 100 * 100) ≤ 2 ^ k * (p * unitsPerOne) + p * unitsPerOne) :
    100 * (portion p).value ≤ p + p / 2 ^ k := by
  have hone := Binary64.cast_units_pos
  have hcast : (2 ^ k * (roundUnits (p * unitsPerOne) 100 * 100) : ℚ) ≤
      2 ^ k * (p * unitsPerOne) + p * unitsPerOne := by exact_mod_cast h
  rw [← value_portion_mul hp] at hcast
  have hle : 2 ^ k * (100 * (portion p).value) ≤ 2 ^ k * p + p :=
    le_of_mul_le_mul_right (by linarith) hone
  calc 100 * (portion p).value ≤ (2 ^ k * p + p) / 2 ^ k := (le_div_iff₀' (by positivity)).mpr hle
    _ = p + p / 2 ^ k := by rw [add_div, mul_div_cancel_left₀ _ (by positivity)]

theorem le_value_portion_of_units {k : ℕ} (hp : p ≤ 100)
    (h : 2 ^ k * (p * unitsPerOne) ≤ 2 ^ k * (roundUnits (p * unitsPerOne) 100 * 100) + p * unitsPerOne) :
    p - p / 2 ^ k ≤ 100 * (portion p).value := by
  have hone := Binary64.cast_units_pos
  have hcast : (2 ^ k * (p * unitsPerOne) : ℚ) ≤
      2 ^ k * (roundUnits (p * unitsPerOne) 100 * 100) + p * unitsPerOne := by exact_mod_cast h
  rw [← value_portion_mul hp] at hcast
  have hle : 2 ^ k * p - p ≤ 2 ^ k * (100 * (portion p).value) :=
    le_of_mul_le_mul_right (by linarith) hone
  calc (p : ℚ) - p / 2 ^ k = (2 ^ k * p - p) / 2 ^ k := by
        rw [sub_div, mul_div_cancel_left₀ _ (by positivity)]
    _ ≤ 100 * (portion p).value := (div_le_iff₀' (by positivity)).mpr hle

theorem value_portion_near (hp : p ≤ 100) : |100 * (portion p).value - p| ≤ p / 2 ^ 53 := by
  rcases Nat.eq_zero_or_pos p with rfl | hpos
  · simp [value_portion_zero]
  · obtain ⟨hle, hge⟩ := roundUnits_percent_near hpos.ne'
    have hhigh := value_portion_le_of_units hp hle
    have hlow := le_value_portion_of_units hp hge
    rw [abs_le]
    constructor <;> linarith

theorem clampPercent_ofNat (hp : p ≤ 100) : clampPercent (.ofNat p) = .ofNat p := by
  have hexact : p ≤ 2 ^ 53 := hp.trans (by decide)
  have hhundred : 100 ≤ 2 ^ 53 := by decide
  have hfinite := Binary64.isFinite_ofNat hexact
  have hlow : (Binary64.ofNat p).lt .zero = false := by
    rw [Binary64.lt_eq_decide hfinite rfl, Binary64.value_ofNat hexact, Binary64.value_zero]
    exact decide_eq_false (not_lt.mpr (Nat.cast_nonneg p))
  have hhigh : percent.lt (.ofNat p) = false := by
    rw [percent, Binary64.lt_eq_decide (Binary64.isFinite_ofNat hhundred) hfinite,
      Binary64.value_ofNat hexact, Binary64.value_ofNat hhundred]
    exact decide_eq_false (not_lt.mpr (Nat.cast_le.mpr hp))
  rw [clampPercent, hlow, hhigh, if_neg Bool.false_ne_true, if_neg Bool.false_ne_true]

theorem keepCount_percentage (hp : p ≤ 100) (size : ℕ) :
    keepCount (.ofNat p) true size = ((portion p).mul (.ofNat size)).ceilNat sizeLimit := by
  rw [keepCount, if_pos rfl, clampPercent_ofNat hp, portion]

theorem product_eq_zero_iff (hp : p ≤ 100) :
    size * (portion p).value = 0 ↔ size * (portion p).value ≤ halfway 0 := by
  have hhalfway : halfway 0 = 1 / 2 ^ 53 := by simp [halfway]
  rw [hhalfway]
  refine ⟨fun h => h.trans_le (by positivity), fun h => by_contra fun hne => ?_⟩
  obtain ⟨hsize, hvalue⟩ := mul_ne_zero_iff.mp hne
  have hpos : p ≠ 0 := by
    rintro rfl
    exact hvalue value_portion_zero
  have hp' : (1 : ℚ) ≤ p := Nat.one_le_cast.mpr (Nat.one_le_iff_ne_zero.mpr hpos)
  have hsize' : (1 : ℚ) ≤ size := Nat.one_le_cast.mpr (Nat.one_le_iff_ne_zero.mpr (by simpa using hsize))
  have hnear := (abs_le.mp (value_portion_near hp)).1
  have hproduct := mul_le_mul_of_nonneg_right hsize' (value_portion_nonneg hp)
  linarith

theorem keepCount_le_iff (hp : p ≤ 100) (hsize : size < 2 ^ 50) (hn : n < 2 ^ 52) :
    keepCount (.ofNat p) true size ≤ n ↔ size * (portion p).value ≤ halfway n := by
  have hlimit : n < sizeLimit := hn.trans (by decide)
  obtain ⟨m, hm, hunits⟩ := portion_eq_finite hp
  have hone : m.units ≤ unitsPerOne := hunits.trans_le (roundUnits_percent_le hp)
  rcases Nat.eq_zero_or_pos n with rfl | hpos
  · have hzero := Binary64.ceilNat_mul_ofNat_eq_zero_iff hone hsize hlimit
    rw [← hm, ← keepCount_percentage hp] at hzero
    rw [Nat.le_zero, hzero]
    exact product_eq_zero_iff hp
  · rw [keepCount_percentage hp, hm]
    exact Binary64.ceilNat_mul_ofNat_le_iff hone hsize hpos.ne' hn hlimit

theorem keepCount_le (hp : p ≤ 100) (hsize : size < 2 ^ 50) : keepCount (.ofNat p) true size ≤ size := by
  rw [keepCount_le_iff hp hsize (by omega)]
  calc size * (portion p).value ≤ size * 1 :=
        mul_le_mul_of_nonneg_left (value_portion_le_one hp) (Nat.cast_nonneg _)
    _ ≤ halfway size := (mul_one _).trans_le (le_halfway size)

theorem isLeast_keepCount (hp : p ≤ 100) (hsize : size < 2 ^ 50) :
    IsLeast {n : ℕ | size * (portion p).value ≤ halfway n} (keepCount (.ofNat p) true size) := by
  have hle := keepCount_le hp hsize
  refine ⟨(keepCount_le_iff hp hsize (by omega)).mp le_rfl, fun n hn => ?_⟩
  rcases lt_or_ge n (2 ^ 52) with hlt | hge
  · exact (keepCount_le_iff hp hsize hlt).mpr hn
  · omega

def share (p size : ℕ) : ℕ := ⌈(p * size : ℚ) / 100⌉₊

theorem share_bounds (p size : ℕ) :
    p * size ≤ 100 * share p size ∧ 100 * share p size < p * size + 100 := by
  have hle : (p * size : ℚ) / 100 ≤ share p size := Nat.le_ceil _
  have hlt : (share p size : ℚ) < (p * size : ℚ) / 100 + 1 := Nat.ceil_lt_add_one (by positivity)
  constructor
  · have : (p * size : ℚ) ≤ 100 * share p size := by linarith
    exact_mod_cast this
  · have : 100 * (share p size : ℚ) < p * size + 100 := by linarith
    exact_mod_cast this

theorem share_le (hp : p ≤ 100) (size : ℕ) : share p size ≤ size := by
  have hmul : p * size ≤ 100 * size := Nat.mul_le_mul_right size hp
  have := (share_bounds p size).2
  omega

theorem product_near (hp : p ≤ 100) (size : ℕ) :
    |100 * (size * (portion p).value) - p * size| ≤ p * size / 2 ^ 53 := by
  have hsize : (0 : ℚ) ≤ size := Nat.cast_nonneg _
  calc |100 * (size * (portion p).value) - p * size|
      = |100 * (portion p).value - p| * size := by
        rw [← abs_of_nonneg hsize, ← abs_mul, abs_of_nonneg hsize]
        congr 1
        ring
    _ ≤ p / 2 ^ 53 * size := mul_le_mul_of_nonneg_right (value_portion_near hp) hsize
    _ = p * size / 2 ^ 53 := by ring

theorem product_near_of_le {limit : ℕ} (hp : p ≤ 100) (hsize : size ≤ 2 ^ limit) :
    |100 * (size * (portion p).value) - p * size| ≤ 100 * 2 ^ limit / 2 ^ 53 := by
  have hproduct : (p * size : ℚ) ≤ 100 * 2 ^ limit := by exact_mod_cast Nat.mul_le_mul hp hsize
  refine (product_near hp size).trans ?_
  gcongr

theorem keepCount_near_share (hp : p ≤ 100) (hsize : size < 2 ^ 50) :
    keepCount (.ofNat p) true size ≤ share p size + 1 ∧
      share p size ≤ keepCount (.ofNat p) true size + 1 := by
  obtain ⟨hle, hlt⟩ := share_bounds p size
  have hshare := share_le hp size
  obtain ⟨hlow, hhigh⟩ := abs_le.mp (product_near_of_le hp hsize.le)
  have hleast := isLeast_keepCount hp hsize
  set kept := keepCount (.ofNat p) true size
  constructor
  · refine hleast.2 (le_trans ?_ (le_halfway _))
    have : (p * size : ℚ) ≤ 100 * share p size := by exact_mod_cast hle
    push_cast
    linarith
  · by_contra hfar
    have hhalfway := halfway_le (n := kept) 50 (by omega)
    have hkept : (size * (portion p).value : ℚ) ≤ halfway kept := hleast.1
    have hexact : (100 * kept + 100 : ℚ) ≤ p * size := by
      have : 100 * kept + 100 ≤ p * size := by omega
      exact_mod_cast this
    linarith

theorem keepCount_eq_share_iff (hp : p ≤ 100) (hsize : size < 2 ^ 50) :
    keepCount (.ofNat p) true size = share p size ↔
      (∀ n < share p size, halfway n < size * (portion p).value) ∧
        size * (portion p).value ≤ halfway (share p size) := by
  have hleast := isLeast_keepCount hp hsize
  constructor
  · intro h
    rw [h] at hleast
    exact ⟨fun n hn => not_le.mp fun hle => Nat.not_le.mpr hn (hleast.2 hle), hleast.1⟩
  · rintro ⟨habove, hle⟩
    refine hleast.unique ⟨hle, fun n hn => ?_⟩
    exact Nat.not_lt.mp fun hlt => not_lt.mpr hn (habove n hlt)

/-- Percentages that are rounded up so far that a record too many is kept, each with a number of records
for which that happens. -/
def overshoots : List (ℕ × ℕ) :=
  [(7, 100), (14, 50), (17, 300), (27, 900), (28, 25), (34, 150), (54, 450), (55, 100), (56, 25),
    (67, 1500), (68, 75), (81, 300)]

theorem share_eq_div (p size : ℕ) : share p size = (p * size + 99) / 100 := by
  obtain ⟨hle, hlt⟩ := share_bounds p size
  omega

theorem keepCount_overshoots :
    ∀ entry ∈ overshoots, keepCount (.ofNat entry.1) true entry.2 = share entry.1 entry.2 + 1 := by
  simp only [share_eq_div]
  decide +kernel

theorem value_portion_le (hp : p ≤ 100) (h : p ∉ overshoots.map (·.1)) :
    100 * (portion p).value ≤ p + p / 2 ^ 54 := by
  have hunits : ∀ p ≤ 100, p ∉ overshoots.map (·.1) → 2 ^ 54 * (roundUnits (p * unitsPerOne) 100 * 100) ≤
      2 ^ 54 * (p * unitsPerOne) + p * unitsPerOne := by decide +kernel
  exact value_portion_le_of_units hp (hunits p hp h)

theorem product_le_halfway (hp : p ≤ 100) (h : p ∉ overshoots.map (·.1))
    (hwhole : p * size = 100 * n) : size * (portion p).value ≤ halfway n := by
  have hpow : n < 2 ^ (n.log2 + 1) := Nat.lt_log2_self
  have hpow' : (n : ℚ) ≤ 2 * 2 ^ n.log2 := by
    rw [← pow_succ']
    exact_mod_cast hpow.le
  have hwhole' : (p : ℚ) * size = 100 * n := by exact_mod_cast hwhole
  have hle := mul_le_mul_of_nonneg_right (value_portion_le hp h) (Nat.cast_nonneg (α := ℚ) size)
  have hscaled : (p + p / 2 ^ 54 : ℚ) * size = 100 * n + 100 * n / 2 ^ 54 := by
    rw [← hwhole']
    ring
  rw [halfway]
  linarith

theorem keepCount_eq_share (hp : p ≤ 100) (hsize : size ≤ 2 ^ 45)
    (h : p ∈ overshoots.map (·.1) → ¬ 100 ∣ p * size) :
    keepCount (.ofNat p) true size = share p size := by
  rw [keepCount_eq_share_iff hp (by omega)]
  obtain ⟨hle, hlt⟩ := share_bounds p size
  have hshare := (share_le hp size).trans hsize
  obtain ⟨hlow, hhigh⟩ := abs_le.mp (product_near_of_le hp hsize)
  constructor
  · intro n hn
    have hhalfway := halfway_le (n := n) 45 (by omega)
    have hexact : (100 * n + 1 : ℚ) ≤ p * size := by
      have : 100 * n + 1 ≤ p * size := by omega
      exact_mod_cast this
    linarith
  · by_cases hwhole : 100 ∣ p * size
    · exact product_le_halfway hp (fun hmem => h hmem hwhole) (by omega)
    · have hexact : (p * size + 1 : ℚ) ≤ 100 * share p size := by
        have : p * size + 1 ≤ 100 * share p size := by omega
        exact_mod_cast this
      refine le_trans ?_ (le_halfway _)
      linarith

variable {records : List Record} {predicate : Predicate} {direction : Direction}

theorem length_applyFilters_percentage (hp : p ≤ 100) (hlength : records.length < 2 ^ 50)
    (hcondition : predicate.condition = .topN (.ofNat p) direction true) :
    (applyFilters records [predicate]).length = keepCount (.ofNat p) true records.length := by
  have hranking : predicate.isRanking = true := Predicate.isRanking_iff.mpr ⟨_, _, _, hcondition⟩
  rw [applyFilters_singleton hranking]
  simp only [Predicate.rank, hcondition]
  rw [(keeps_select ..).length, Nat.min_eq_left (keepCount_le hp hlength)]

theorem percentage_keeps_share_iff (hp : p ≤ 100) (hlength : records.length < 2 ^ 50)
    (hcondition : predicate.condition = .topN (.ofNat p) direction true) :
    ((applyFilters records [predicate]).length = share p records.length ↔
      (∀ n < share p records.length, halfway n < records.length * (portion p).value) ∧
        records.length * (portion p).value ≤ halfway (share p records.length)) ∧
    (applyFilters records [predicate]).length ≤ share p records.length + 1 ∧
    share p records.length ≤ (applyFilters records [predicate]).length + 1 ∧
    (records.length ≤ 2 ^ 45 → (p ∈ overshoots.map (·.1) → ¬ 100 ∣ p * records.length) →
      (applyFilters records [predicate]).length = share p records.length) := by
  rw [length_applyFilters_percentage hp hlength hcondition]
  obtain ⟨hmore, hless⟩ := keepCount_near_share hp hlength
  exact ⟨keepCount_eq_share_iff hp hlength, hmore, hless, fun hsize h => keepCount_eq_share hp hsize h⟩

def topPercent (p : ℕ) : Predicate := ⟨"share", .number, "total", .topN (.ofNat p) .top true⟩

def totals (size : ℕ) : List Record := (List.range size).map fun i => [("total", .ofNat i)]

theorem percentage_keeps_share_iff_half :
    50 ≤ 100 ∧ (totals 5).length < 2 ^ 50 ∧
    (topPercent 50).condition = .topN (.ofNat 50) .top true ∧
    (totals 5).length ≤ 2 ^ 45 ∧ (50 ∈ overshoots.map (·.1) → ¬ 100 ∣ 50 * (totals 5).length) ∧
    (applyFilters (totals 5) [topPercent 50]).length = share 50 (totals 5).length :=
  ⟨by decide, by decide, rfl, by decide, by decide,
    (percentage_keeps_share_iff (by decide) (by decide) rfl).2.2.2 (by decide) (by decide)⟩

theorem percentage_keeps_one_more :
    (totals 25).length = 25 ∧ ⌈(28 * 25 : ℚ) / 100⌉₊ = 7 ∧
      (applyFilters (totals 25) [topPercent 28]).length = 8 := by
  have hshare : share 28 25 = 7 := by rw [share_eq_div]
  have hkept := keepCount_overshoots (28, 25) (by decide)
  refine ⟨rfl, ?_, ?_⟩
  · simpa [share] using hshare
  · rw [hshare] at hkept
    exact (length_applyFilters_percentage (by decide) (by decide) rfl).trans hkept

end Ranking

end LinkedControls
