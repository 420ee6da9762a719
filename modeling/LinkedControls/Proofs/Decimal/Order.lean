import LinkedControls.Proofs.Decimal.Midpoint
import Mathlib.Data.Int.ConditionallyCompleteOrder
import Mathlib.Data.Nat.Log

/-!
Operations that keep the order of numbers. Rounding is monotone, so an operation keeps an order that its
exact result keeps, wherever its results are finite.
-/

namespace LinkedControls.Decimal

section Quotients

variable {num num' : ℕ}

theorem roundHalfEven_mono (h : num ≤ num') (den : ℕ) :
    roundHalfEven num den ≤ roundHalfEven num' den := by
  rcases (Nat.div_le_div_right (c := den) h).eq_or_lt with heq | hlt
  · have hnum := Nat.div_add_mod num den
    have hnum' := Nat.div_add_mod num' den
    rw [← heq] at hnum'
    simp only [roundHalfEven, ← heq]
    split_ifs <;> omega
  · exact (roundHalfEven_le_succ num den).trans (hlt.trans_le (div_le_roundHalfEven num' den))

theorem roundUnits_mono (h : num ≤ num') (den : ℕ) : roundUnits num den ≤ roundUnits num' den := by
  have hquotient : num / den ≤ num' / den := Nat.div_le_div_right h
  rcases lt_or_ge (num / den).log2 (num' / den).log2 with hlt | hge
  · have hne : num' / den ≠ 0 := by
      intro hzero
      rw [hzero] at hlt
      exact Nat.not_lt_zero _ hlt
    calc roundUnits num den ≤ 2 ^ ((num / den).log2 + 1) := roundUnits_le_two_pow num den
      _ ≤ 2 ^ (num' / den).log2 := Nat.pow_le_pow_right (by decide) hlt
      _ ≤ roundUnits num' den := two_pow_le_roundUnits hne
  · have hlog : (num / den).log2 = (num' / den).log2 := by
      refine le_antisymm ?_ hge
      rw [Nat.log2_eq_log_two, Nat.log2_eq_log_two]
      exact Nat.log_mono_right hquotient
    simp only [roundUnits, spacing, hlog]
    exact Nat.mul_le_mul_right _ (roundHalfEven_mono h _)

theorem roundUnits_zero (den : ℕ) : roundUnits 0 den = 0 := by
  have hzero (d : ℕ) : roundHalfEven 0 d = 0 := by
    rcases Nat.eq_zero_or_pos d with rfl | hpos
    · rfl
    · simp [roundHalfEven, hpos]
  rw [roundUnits, hzero, Nat.zero_mul]

end Quotients

def signed (f : ℕ → ℕ) (z : ℤ) : ℤ := if z < 0 then -(f z.natAbs : ℤ) else f z.natAbs

theorem signed_mono {f : ℕ → ℕ} (hf : Monotone f) : Monotone (signed f) := by
  intro z w h
  unfold signed
  split_ifs with hz hw
  · have hle : w.natAbs ≤ z.natAbs := by omega
    have := hf hle
    omega
  · omega
  · omega
  · have hle : z.natAbs ≤ w.natAbs := by omega
    exact Int.ofNat_le.mpr (hf hle)

theorem signed_ite {f : ℕ → ℕ} (hf : f 0 = 0) (negative : Bool) (n : ℕ) :
    signed f (if negative then -(n : ℤ) else n) = if negative then -(f n : ℤ) else f n := by
  cases negative with
  | false => simp [signed]
  | true =>
    rcases Nat.eq_zero_or_pos n with rfl | hpos
    · simp [signed, hf]
    · simp [signed, hpos]

def nearestUnits (den : ℕ) (z : ℤ) : ℤ := signed (fun n => roundUnits n den) z

theorem nearestUnits_mono (den : ℕ) : Monotone (nearestUnits den) :=
  signed_mono fun _ _ h => roundUnits_mono h den

theorem nearestUnits_ite (den : ℕ) (negative : Bool) (n : ℕ) :
    nearestUnits den (if negative then -(n : ℤ) else n) =
      if negative then -(roundUnits n den : ℤ) else roundUnits n den :=
  signed_ite (f := fun n => roundUnits n den) (roundUnits_zero den) negative n

namespace Binary64

variable {x y f : Binary64}

theorem toUnits_finite (negative : Bool) (m : Magnitude) :
    (finite negative m).toUnits = if negative then -(m.units : ℤ) else m.units := by
  cases negative <;> rfl

theorem toUnits_finite_mul (negative : Bool) (m : Magnitude) (n : ℕ) :
    (finite negative m).toUnits * n =
      if negative then -((m.units * n : ℕ) : ℤ) else ((m.units * n : ℕ) : ℤ) := by
  cases negative <;> simp [toUnits]

theorem lt_iff (hx : x.isFinite = true) (hy : y.isFinite = true) :
    x.lt y = true ↔ x.toUnits < y.toUnits := by
  cases x <;> cases hx
  cases y <;> cases hy
  exact decide_eq_true_iff

theorem not_lt_iff (hx : x.isFinite = true) (hy : y.isFinite = true) :
    x.lt y = false ↔ y.toUnits ≤ x.toUnits := by
  rw [← Bool.not_eq_true, lt_iff hx hy, not_lt]

theorem ofUnits_of_not_lt (negative : Bool) {num den : ℕ} (h : ¬ roundUnits num den < unitLimit) :
    ofUnits negative num den = .infinity negative := by
  have hnearest : Magnitude.nearest? num den = none := dif_neg h
  unfold ofUnits
  rw [hnearest]

theorem isFinite_ofUnits_iff {negative : Bool} {num den : ℕ} :
    (ofUnits negative num den).isFinite = true ↔ roundUnits num den < unitLimit := by
  by_cases h : roundUnits num den < unitLimit
  · obtain ⟨m, hm, -⟩ := ofUnits_of_lt negative h
    rw [hm]
    exact iff_of_true rfl h
  · rw [ofUnits_of_not_lt negative h]
    exact iff_of_false Bool.false_ne_true h

theorem toUnits_ofUnits {negative : Bool} {num den : ℕ} (h : (ofUnits negative num den).isFinite = true) :
    (ofUnits negative num den).toUnits = nearestUnits den (if negative then -(num : ℤ) else num) := by
  rw [nearestUnits_ite]
  unfold ofUnits Magnitude.nearest? at h ⊢
  split at h
  next m hm =>
    split at hm
    next hlt =>
      cases hm
      exact toUnits_finite _ _
    next => cases hm
  next => cases h

theorem isFinite_of_mul (h : (x.mul y).isFinite = true) : x.isFinite = true ∧ y.isFinite = true := by
  cases x with
  | nan => cases h
  | infinity s =>
    cases y with
    | finite t n => by_cases hn : n.units = 0 <;> simp [mul, hn, isFinite] at h
    | _ => cases h
  | finite s m =>
    cases y with
    | nan => cases h
    | infinity t => by_cases hm : m.units = 0 <;> simp [mul, hm, isFinite] at h
    | finite t n => exact ⟨rfl, rfl⟩

theorem mul_finite (s t : Bool) (m n : Magnitude) :
    (finite s m).mul (finite t n) = ofUnits (s != t) (m.units * n.units) unitsPerOne := rfl

theorem toUnits_mul (h : (x.mul y).isFinite = true) :
    (x.mul y).toUnits = nearestUnits unitsPerOne (x.toUnits * y.toUnits) := by
  obtain ⟨hx, hy⟩ := isFinite_of_mul h
  cases x <;> cases hx
  cases y <;> cases hy
  next s m t n =>
    have hproduct : (finite s m).toUnits * (finite t n).toUnits =
        if s != t then -((m.units * n.units : ℕ) : ℤ) else ((m.units * n.units : ℕ) : ℤ) := by
      cases s <;> cases t <;> simp [toUnits]
    rw [mul_finite] at h ⊢
    rw [hproduct, toUnits_ofUnits h]

theorem isFinite_of_add (h : (x.add y).isFinite = true) : x.isFinite = true ∧ y.isFinite = true := by
  cases x with
  | nan => cases h
  | infinity s =>
    cases y with
    | infinity t => by_cases hst : s = t <;> simp [add, hst, isFinite] at h
    | _ => cases h
  | finite s m =>
    cases y with
    | finite t n => exact ⟨rfl, rfl⟩
    | _ => cases h

theorem toUnits_ofSignedUnits {zeroSign : Bool} {u : ℤ} (h : (ofSignedUnits zeroSign u).isFinite = true) :
    (ofSignedUnits zeroSign u).toUnits = nearestUnits 1 u := by
  have hu : (if (if u = 0 then zeroSign else decide (u < 0)) then -(u.natAbs : ℤ) else u.natAbs) = u := by
    rcases lt_trichotomy u 0 with hneg | rfl | hpos
    · simp [hneg, hneg.ne, abs_of_neg]
    · simp
    · simp [hpos.ne', hpos.le, abs_of_nonneg]
  rw [ofSignedUnits, toUnits_ofUnits h, hu]

theorem add_finite (s t : Bool) (m n : Magnitude) :
    (finite s m).add (finite t n) =
      ofSignedUnits (s && t) ((finite s m).toUnits + (finite t n).toUnits) := rfl

theorem toUnits_add (h : (x.add y).isFinite = true) :
    (x.add y).toUnits = nearestUnits 1 (x.toUnits + y.toUnits) := by
  obtain ⟨hx, hy⟩ := isFinite_of_add h
  cases x <;> cases hx
  cases y <;> cases hy
  rw [add_finite] at h ⊢
  exact toUnits_ofSignedUnits h

theorem div_finite (s : Bool) (m : Magnitude) {n : Magnitude} (hn : n.units ≠ 0) :
    (finite s m).div (finite false n) = ofUnits (s != false) (m.units * unitsPerOne) n.units := if_neg hn

theorem isFinite_of_div {n : Magnitude} (h : (x.div (finite false n)).isFinite = true) :
    x.isFinite = true := by
  cases x with
  | finite s m => rfl
  | _ => cases h

theorem toUnits_div {n : Magnitude} (hn : n.units ≠ 0) (h : (x.div (finite false n)).isFinite = true) :
    (x.div (finite false n)).toUnits = nearestUnits n.units (x.toUnits * unitsPerOne) := by
  have hx := isFinite_of_div h
  cases x <;> cases hx
  next s m =>
    rw [div_finite s m hn, Bool.bne_false] at h ⊢
    rw [toUnits_finite_mul, toUnits_ofUnits h]

def wholeAbout (u : ℕ) : ℕ := if unitsPerOne ≤ 2 * (u % unitsPerOne) then u / unitsPerOne + 1 else u / unitsPerOne

theorem wholeAbout_mono : Monotone wholeAbout := by
  intro u v h
  have hu := Nat.div_add_mod u unitsPerOne
  have hv := Nat.div_add_mod v unitsPerOne
  unfold wholeAbout
  rcases (Nat.div_le_div_right (c := unitsPerOne) h).eq_or_lt with heq | hlt
  · rw [← heq] at hv ⊢
    split_ifs <;> omega
  · split_ifs <;> omega

theorem roundHalfAway_finite (s : Bool) (m : Magnitude) :
    (finite s m).roundHalfAway = ofUnits s (wholeAbout m.units * unitsPerOne) 1 := rfl

theorem isFinite_of_roundHalfAway (h : x.roundHalfAway.isFinite = true) : x.isFinite = true := by
  cases x with
  | finite s m => rfl
  | _ => cases h

theorem toUnits_roundHalfAway (h : x.roundHalfAway.isFinite = true) :
    x.roundHalfAway.toUnits = nearestUnits 1 (signed (fun u => wholeAbout u * unitsPerOne) x.toUnits) := by
  have hx := isFinite_of_roundHalfAway h
  cases x <;> cases hx
  next s m =>
    have hzero : wholeAbout 0 * unitsPerOne = 0 := by simp [wholeAbout, unitsPerOne_pos.not_ge]
    have hunits := signed_ite (f := fun u => wholeAbout u * unitsPerOne) hzero s m.units
    rw [roundHalfAway_finite] at h ⊢
    rw [toUnits_finite, hunits, toUnits_ofUnits h]

theorem isFinite_max (hx : x.isFinite = true) (hy : y.isFinite = true) : (x.max y).isFinite = true := by
  unfold Binary64.max
  split_ifs
  · exact hy
  · exact hx
  · exact hy

theorem isFinite_min (hx : x.isFinite = true) (hy : y.isFinite = true) : (x.min y).isFinite = true := by
  unfold Binary64.min
  split_ifs
  · exact hy
  · exact hx
  · exact hy

theorem toUnits_max (hx : x.isFinite = true) (hy : y.isFinite = true) :
    (x.max y).toUnits = x.toUnits ⊔ y.toUnits := by
  have hlt := lt_iff hy hx
  cases x <;> cases hx
  cases y <;> cases hy
  unfold Binary64.max
  simp only [isNan, Bool.false_or, Bool.false_eq_true, if_false, hlt]
  split <;> omega

theorem toUnits_min (hx : x.isFinite = true) (hy : y.isFinite = true) :
    (x.min y).toUnits = x.toUnits ⊓ y.toUnits := by
  have hlt := lt_iff hx hy
  cases x <;> cases hx
  cases y <;> cases hy
  unfold Binary64.min
  simp only [isNan, Bool.false_or, Bool.false_eq_true, if_false, hlt]
  split <;> omega

def KeepsOrder (g : Binary64 → Binary64) : Prop :=
  ∀ x y, x.isFinite = true → y.isFinite = true → (g x).isFinite = true → (g y).isFinite = true →
    x.toUnits ≤ y.toUnits → (g x).toUnits ≤ (g y).toUnits

theorem keepsOrder_mul (hf : 0 ≤ f.toUnits) : KeepsOrder (·.mul f) := by
  intro x y _ _ hgx hgy h
  rw [toUnits_mul hgx, toUnits_mul hgy]
  exact nearestUnits_mono _ (Int.mul_le_mul_of_nonneg_right h hf)

theorem keepsOrder_add (f : Binary64) : KeepsOrder (·.add f) := by
  intro x y _ _ hgx hgy h
  rw [toUnits_add hgx, toUnits_add hgy]
  exact nearestUnits_mono _ (Int.add_le_add_right h _)

theorem keepsOrder_div {n : Magnitude} (hn : n.units ≠ 0) : KeepsOrder (·.div (finite false n)) := by
  intro x y _ _ hgx hgy h
  rw [toUnits_div hn hgx, toUnits_div hn hgy]
  exact nearestUnits_mono _ (Int.mul_le_mul_of_nonneg_right h (Int.natCast_nonneg _))

theorem keepsOrder_roundHalfAway : KeepsOrder roundHalfAway := by
  intro x y _ _ hgx hgy h
  have hmono : Monotone fun u => wholeAbout u * unitsPerOne :=
    fun _ _ huv => Nat.mul_le_mul_right _ (wholeAbout_mono huv)
  rw [toUnits_roundHalfAway hgx, toUnits_roundHalfAway hgy]
  exact nearestUnits_mono _ (signed_mono hmono h)

theorem keepsOrder_max (hf : f.isFinite = true) : KeepsOrder (·.max f) := by
  intro x y hx hy _ _ h
  rw [toUnits_max hx hf, toUnits_max hy hf]
  exact sup_le_sup_right h _

theorem keepsOrder_min (hf : f.isFinite = true) : KeepsOrder (·.min f) := by
  intro x y hx hy _ _ h
  rw [toUnits_min hx hf, toUnits_min hy hf]
  exact inf_le_inf_right _ h

theorem KeepsOrder.comp {g g' : Binary64 → Binary64} (hg' : KeepsOrder g') (hg : KeepsOrder g)
    (hfinite : ∀ x, x.isFinite = true → (g' (g x)).isFinite = true → (g x).isFinite = true) :
    KeepsOrder fun x => g' (g x) := fun x y hx hy hgx hgy h =>
  have hx' := hfinite x hx hgx
  have hy' := hfinite y hy hgy
  hg' (g x) (g y) hx' hy' hgx hgy (hg x y hx hy hx' hy' h)

theorem nearestUnits_toUnits (x : Binary64) : nearestUnits 1 x.toUnits = x.toUnits := by
  cases x with
  | finite s m => rw [toUnits_finite, nearestUnits_ite, roundUnits_of_dvd m.representable.2]
  | _ => exact congrArg Int.ofNat (roundUnits_zero 1)

theorem toUnits_le_add (hf : 0 ≤ f.toUnits) (h : (x.add f).isFinite = true) :
    x.toUnits ≤ (x.add f).toUnits := by
  rw [toUnits_add h]
  calc x.toUnits = nearestUnits 1 x.toUnits := (nearestUnits_toUnits x).symm
    _ ≤ nearestUnits 1 (x.toUnits + f.toUnits) := nearestUnits_mono 1 (by omega)

theorem ofSignedUnits_of_not_lt {u : ℤ} (zeroSign : Bool) (h : ¬ roundUnits u.natAbs 1 < unitLimit) :
    ofSignedUnits zeroSign u = .infinity (decide (u < 0)) := by
  have hu : u ≠ 0 := by
    intro hzero
    rw [hzero, Int.natAbs_zero, roundUnits_zero] at h
    exact h unitLimit_pos
  rw [ofSignedUnits, if_neg hu, ofUnits_of_not_lt _ h]

theorem add_not_lt (hx : x.isFinite = true) (hf : f.isFinite = true) (hpos : 0 ≤ f.toUnits) :
    (x.add f).lt x = false := by
  cases hfinite : (x.add f).isFinite with
  | true => exact (not_lt_iff hfinite hx).mpr (toUnits_le_add hpos hfinite)
  | false =>
    cases x <;> cases hx
    cases f <;> cases hf
    next s m t n =>
      rw [add_finite] at hfinite ⊢
      have hover : ¬ roundUnits ((finite s m).toUnits + (finite t n).toUnits).natAbs 1 < unitLimit := by
        rw [← Bool.not_eq_true, ofSignedUnits, isFinite_ofUnits_iff] at hfinite
        exact hfinite
      have hup : ¬ (finite s m).toUnits + (finite t n).toUnits < 0 := by
        intro hneg
        have hle : ((finite s m).toUnits + (finite t n).toUnits).natAbs ≤ m.units := by
          rw [toUnits_finite s m] at hneg ⊢
          split_ifs at hneg ⊢ <;> omega
        have hround := roundUnits_mono hle 1
        rw [roundUnits_of_dvd m.representable.2] at hround
        exact hover (hround.trans_lt m.representable.1)
      rw [ofSignedUnits_of_not_lt _ hover, decide_eq_false hup]
      rfl

theorem isFinite_zero_add (hf : f.isFinite = true) : (zero.add f).isFinite = true := by
  cases f <;> cases hf
  next t n =>
    have hunits : (zero.toUnits + (finite t n).toUnits).natAbs = n.units := by
      rw [toUnits_finite t n]
      show (0 + _ : ℤ).natAbs = n.units
      split <;> omega
    have hsum : zero.add (finite t n) = ofSignedUnits (false && t) (zero.toUnits + (finite t n).toUnits) :=
      add_finite ..
    rw [hsum, ofSignedUnits, isFinite_ofUnits_iff, hunits, roundUnits_of_dvd n.representable.2]
    exact n.representable.1

theorem isFinite_zero_mul (hf : f.isFinite = true) : (zero.mul f).isFinite = true := by
  cases f <;> cases hf
  next t n =>
    have hproduct : Magnitude.zero.units * n.units = 0 := Nat.zero_mul _
    rw [zero, mul_finite, isFinite_ofUnits_iff, hproduct, roundUnits_zero]
    exact unitLimit_pos

theorem toUnits_zero_mul (hf : f.isFinite = true) : (zero.mul f).toUnits = 0 := by
  rw [toUnits_mul (isFinite_zero_mul hf), show zero.toUnits = 0 from rfl, Int.zero_mul]
  exact congrArg Int.ofNat (roundUnits_zero _)

theorem one_eq_finite : ∃ m : Magnitude, one = finite false m ∧ m.units = unitsPerOne := by
  have h := ofNat_eq_finite (show 1 ≤ 2 ^ 53 by decide)
  rwa [Nat.one_mul] at h

theorem isFinite_one : one.isFinite = true := by
  obtain ⟨m, hm, -⟩ := one_eq_finite
  rw [hm]
  rfl

theorem toUnits_one : one.toUnits = unitsPerOne := by
  obtain ⟨m, hm, hunits⟩ := one_eq_finite
  rw [hm, ← hunits]
  rfl

theorem one_mul (hf : f.isFinite = true) : one.mul f = f := by
  cases f <;> cases hf
  next t n =>
    obtain ⟨m, hm, hunits⟩ := one_eq_finite
    have hnearest := Magnitude.nearest?_mul_right unitsPerOne_pos n.units 1
    rw [Magnitude.nearest?_units, Nat.mul_comm, Nat.one_mul] at hnearest
    rw [hm, mul_finite, hunits, Bool.false_bne]
    unfold ofUnits
    rw [hnearest]

theorem truncateTo_nonneg {lo hi : ℤ} (hx : x.isFinite = true) (hpos : 0 ≤ x.toUnits) (hhi : 0 ≤ hi) :
    0 ≤ x.truncateTo lo hi := by
  cases x <;> cases hx
  next s m =>
    have hquotient : (0 : ℤ) ≤ if s then -((m.units : ℤ) / unitsPerOne) else (m.units : ℤ) / unitsPerOne := by
      rw [toUnits_finite] at hpos
      split_ifs at hpos ⊢
      · have hzero : (m.units : ℤ) = 0 := by omega
        rw [hzero, Int.zero_ediv, neg_zero]
      · exact Int.ediv_nonneg hpos (Int.natCast_nonneg _)
    unfold truncateTo
    dsimp only
    split_ifs at hquotient ⊢ <;> omega

theorem eqv_iff (hy : y.isFinite = true) : x.eqv y = true ↔ x.isFinite = true ∧ x.toUnits = y.toUnits := by
  cases y <;> cases hy
  cases x with
  | finite s m => exact beq_iff_eq.trans (and_iff_right rfl).symm
  | _ => exact ⟨nofun, fun h => nomatch h.1⟩

theorem eqv_self (hx : x.isFinite = true) : x.eqv x = true := (eqv_iff hx).mpr ⟨hx, rfl⟩

theorem signed_natAbs (z : ℤ) (c : ℕ) :
    (if decide (z < 0) then -((z.natAbs * c : ℕ) : ℤ) else ((z.natAbs * c : ℕ) : ℤ)) = z * c := by
  rcases lt_or_ge z 0 with h | h
  · rw [decide_eq_true h, if_pos rfl, Nat.cast_mul, Int.ofNat_natAbs_of_nonpos h.le, neg_mul, neg_neg]
  · rw [decide_eq_false h.not_gt, if_neg Bool.false_ne_true, Nat.cast_mul, Int.natAbs_of_nonneg h]

theorem nearestUnits_mul_unitsPerOne {z : ℤ} (h : z.natAbs ≤ 2 ^ 53) :
    nearestUnits 1 (z * unitsPerOne) = z * unitsPerOne := by
  rw [← signed_natAbs, nearestUnits_ite, roundUnits_mul_unitsPerOne h]

theorem toUnits_ofInt {z : ℤ} (h : (ofInt z).isFinite = true) :
    (ofInt z).toUnits = nearestUnits 1 (z * unitsPerOne) := by
  rw [ofInt] at h ⊢
  rw [toUnits_ofUnits h, signed_natAbs]

theorem isFinite_ofInt {z : ℤ} (h : z.natAbs ≤ 2 ^ 53) : (ofInt z).isFinite = true := by
  rw [ofInt, isFinite_ofUnits_iff, roundUnits_mul_unitsPerOne h]
  exact mul_unitsPerOne_lt h

theorem eqv_ofInt_iff {z : ℤ} {k : ℕ} (hk : k < 2 ^ 53) (hy : y.isFinite = true)
    (hunits : y.toUnits = k * unitsPerOne) : (ofInt z).eqv y = true ↔ z = k := by
  have hpos : (0 : ℤ) < unitsPerOne := Int.natCast_pos.mpr unitsPerOne_pos
  rw [eqv_iff hy, hunits]
  constructor
  · rintro ⟨hfinite, heq⟩
    rw [toUnits_ofInt hfinite] at heq
    rcases lt_trichotomy z k with hlt | rfl | hgt
    · have hmono := nearestUnits_mono 1 (Int.mul_le_mul_of_nonneg_right (show z ≤ k - 1 by omega) hpos.le)
      rw [heq, nearestUnits_mul_unitsPerOne (by omega), Int.sub_mul, Int.one_mul] at hmono
      omega
    · rfl
    · have hmono := nearestUnits_mono 1 (Int.mul_le_mul_of_nonneg_right (show (k : ℤ) + 1 ≤ z by omega) hpos.le)
      rw [heq, nearestUnits_mul_unitsPerOne (by omega), Int.add_mul, Int.one_mul] at hmono
      omega
  · rintro rfl
    have hfinite : (ofInt k).isFinite = true := isFinite_ofInt (by omega)
    exact ⟨hfinite, by rw [toUnits_ofInt hfinite, nearestUnits_mul_unitsPerOne (by omega)]⟩

end Binary64

end LinkedControls.Decimal
