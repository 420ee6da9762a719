import LinkedControls.Proofs.Decimal.Limit
import LinkedControls.Proofs.Value.Ordering

/-!
Transforms whose exact results are too large. To a number by itself the transform then does not apply, but
a bound of a range is opened, and a range that is made of a number ends at an infinity.
-/

namespace LinkedControls.Transform

open Decimal

variable {f : Binary64 → Binary64} {t : Transform} {v w : Value} {r : Range Binary64} {x : Binary64}

/-- What the transform does to numbers, where it rewrites numbers and the bounds of ranges one by one. -/
def onNumbers? : Transform → Option (Binary64 → Binary64)
  | .scale factor => some (·.mul factor)
  | .offset amount => some (·.add amount)
  | .clamp least greatest => some (clampNumber least greatest)
  | .round decimals => some (roundNumber decimals)
  | _ => none

/-- The exact result for a number is so large that no finite number is next to it. Rounding computes with
the number times a power of ten. -/
def Overflows : Transform → Binary64 → Prop
  | .scale factor, x => overflowPoint ≤ |x.value * factor.value|
  | .offset amount, x => overflowPoint ≤ |x.value + amount.value|
  | .round decimals, x => overflowPoint ≤ |x.value * 10 ^ min decimals 15|
  | .toRange width, x => overflowPoint ≤ |x.value + width.value|
  | _, _ => False

/-- Each bound of the range is there in the result, as the transform makes it of the bound by itself; and
the transform does not apply to the range if it does not apply to a bound. -/
structure KeepsBounds (t : Transform) (r : Range Binary64) : Prop where
  lower : ∀ r', t.apply (.numberRange r) = some (.numberRange r') →
    ∀ x ∈ r.lower, ∃ y ∈ r'.lower, t.apply (.number x) = some (.number y)
  upper : ∀ r', t.apply (.numberRange r) = some (.numberRange r') →
    ∀ x ∈ r.upper, ∃ y ∈ r'.upper, t.apply (.number x) = some (.number y)
  refused : ∀ x, x ∈ r.lower ∨ x ∈ r.upper → t.apply (.number x) = none →
    t.apply (.numberRange r) = none

theorem isFinite_clampNumber {least greatest : Option Binary64} (hleast : least.all (·.isFinite) = true)
    (hgreatest : greatest.all (·.isFinite) = true) (hx : x.isFinite = true) :
    (clampNumber least greatest x).isFinite = true := by
  have hupper {y : Binary64} (hy : y.isFinite = true) : (clampNumber none greatest y).isFinite = true := by
    cases greatest with
    | none => exact hy
    | some hi => exact Binary64.isFinite_min hy hgreatest
  cases least with
  | none => exact hupper hx
  | some lo => exact hupper (Binary64.isFinite_max hx hleast)

theorem isFinite_roundNumber_iff (decimals : ℕ) (hx : x.isFinite = true) :
    (roundNumber decimals x).isFinite = true ↔ |x.value * 10 ^ min decimals 15| < overflowPoint := by
  have hpow : Nat.pow 10 (min decimals 15) ≤ 2 ^ 53 :=
    (Nat.pow_le_pow_right (by decide) (Nat.min_le_right decimals 15)).trans (by decide)
  obtain ⟨m, hm, hunits⟩ := Binary64.ofNat_eq_finite hpow
  have hone : unitsPerOne ≤ m.units := by
    rw [hunits]
    exact Nat.le_mul_of_pos_left _ (Nat.pow_pos (by decide))
  have hvalue : (Binary64.ofNat (Nat.pow 10 (min decimals 15))).value = 10 ^ min decimals 15 := by
    rw [Binary64.value_ofNat hpow]
    exact Nat.cast_pow 10 _
  rw [← hvalue, ← Binary64.isFinite_mul_iff hx (Binary64.isFinite_ofNat hpow)]
  unfold roundNumber
  simp only [hm]
  constructor
  · intro h
    exact Binary64.isFinite_of_roundHalfAway (Binary64.isFinite_of_div h)
  · intro h
    exact Binary64.isFinite_div (Binary64.isFinite_roundHalfAway h) hone

theorem isFinite_onNumbers_iff (hf : t.onNumbers? = some f) (ht : t.isFinite = true)
    (hx : x.isFinite = true) : (f x).isFinite = true ↔ ¬ t.Overflows x := by
  cases t with
  | scale factor =>
    cases hf
    exact (Binary64.isFinite_mul_iff hx ht).trans not_le.symm
  | offset amount =>
    cases hf
    exact (Binary64.isFinite_add_iff hx ht).trans not_le.symm
  | clamp least greatest =>
    cases hf
    obtain ⟨hleast, hgreatest⟩ := Bool.and_eq_true_iff.mp ht
    exact iff_of_true (isFinite_clampNumber hleast hgreatest hx) id
  | round decimals =>
    cases hf
    exact (isFinite_roundNumber_iff decimals hx).trans not_le.symm
  | _ => cases hf

theorem apply_number (hf : t.onNumbers? = some f) (x : Binary64) :
    t.apply (.number x) = (finite f x).map .number := by
  cases t <;> cases hf <;> rfl

theorem apply_numberRange (hf : t.onNumbers? = some f) (r : Range Binary64) :
    t.apply (.numberRange r) = some (.numberRange (r.filterMap (finite f))) := by
  cases t <;> cases hf <;> rfl

theorem finite_eq_none_iff : finite f x = none ↔ ¬ (f x).isFinite = true := by
  simp [finite]

theorem finite_eq_none_iff_overflows (hf : t.onNumbers? = some f) (ht : t.isFinite = true)
    (hx : x.isFinite = true) : finite f x = none ↔ t.Overflows x := by
  rw [finite_eq_none_iff, isFinite_onNumbers_iff hf ht hx, not_not]

theorem bind_finite_eq_none_iff (hf : t.onNumbers? = some f) (ht : t.isFinite = true)
    {b : Option Binary64} (hb : b.all (·.isFinite) = true) :
    b.bind (finite f) = none ↔ ∀ x ∈ b, t.Overflows x := by
  rw [Option.bind_eq_none_iff]
  exact forall₂_congr fun x hx => finite_eq_none_iff_overflows hf ht ((Option.all_eq_true _ _).mp hb x hx)

theorem exists_kept (hf : t.onNumbers? = some f) {b : Option Binary64} (hx : x ∈ b)
    (hkept : finite f x ≠ none) : ∃ y ∈ b.bind (finite f), t.apply (.number x) = some (.number y) := by
  obtain ⟨y, hy⟩ := Option.ne_none_iff_exists'.mp hkept
  exact ⟨y, Option.bind_eq_some_iff.mpr ⟨x, hx, hy⟩, by rw [apply_number hf, hy, Option.map_some]⟩

theorem keeps_bounds_iff (hf : t.onNumbers? = some f) (ht : t.isFinite = true)
    (hr : (Value.numberRange r).isFinite = true) :
    (∃ r', t.apply (.numberRange r) = some (.numberRange r') ∧
      (r'.lower = none ↔ ∀ x ∈ r.lower, t.Overflows x) ∧
      (r'.upper = none ↔ ∀ x ∈ r.upper, t.Overflows x)) ∧
    (t.KeepsBounds r ↔ ∀ x, x ∈ r.lower ∨ x ∈ r.upper → ¬ t.Overflows x) := by
  obtain ⟨hlower, hupper⟩ := Bool.and_eq_true_iff.mp hr
  have happly := apply_numberRange hf r
  have hfinite {x : Binary64} (hx : x ∈ r.lower ∨ x ∈ r.upper) : x.isFinite = true := by
    rcases hx with hx | hx
    · exact (Option.all_eq_true _ _).mp hlower x hx
    · exact (Option.all_eq_true _ _).mp hupper x hx
  refine ⟨⟨_, happly, bind_finite_eq_none_iff hf ht hlower, bind_finite_eq_none_iff hf ht hupper⟩, ?_, ?_⟩
  · intro hkeeps x hx hover
    have hnone : t.apply (.number x) = none := by
      rw [apply_number hf, (finite_eq_none_iff_overflows hf ht (hfinite hx)).mpr hover, Option.map_none]
    rw [hkeeps.refused x hx hnone] at happly
    cases happly
  · intro hwithin
    have hkept {x : Binary64} (hx : x ∈ r.lower ∨ x ∈ r.upper) : finite f x ≠ none := fun hnone =>
      hwithin x hx ((finite_eq_none_iff_overflows hf ht (hfinite hx)).mp hnone)
    refine ⟨fun r' h x hx => ?_, fun r' h x hx => ?_, fun x hx hnone => ?_⟩
    · cases happly.symm.trans h
      exact exists_kept hf hx (hkept (.inl hx))
    · cases happly.symm.trans h
      exact exists_kept hf hx (hkept (.inr hx))
    · rw [apply_number hf, Option.map_eq_none_iff] at hnone
      exact absurd hnone (hkept hx)

theorem doubling_keeps_bounds :
    (scale (.ofNat 2)).isFinite = true ∧ (Value.numberRange ⟨none, some .one⟩).isFinite = true ∧
      (scale (.ofNat 2)).KeepsBounds ⟨none, some .one⟩ := by
  -- the numbers are variables here, so that they are not computed with
  have hkeeps (factor x : Binary64) (hfactor : factor.isFinite = true) (hx : x.isFinite = true)
      (hproduct : (x.mul factor).isFinite = true) : (scale factor).KeepsBounds ⟨none, some x⟩ := by
    refine (keeps_bounds_iff (t := scale factor) (r := ⟨none, some x⟩) rfl hfactor hx).2.mpr ?_
    intro y hy
    obtain rfl : x = y := by simpa using hy
    exact (isFinite_onNumbers_iff (t := scale factor) rfl hfactor hx).mp hproduct
  have hfactor : (Binary64.ofNat 2).isFinite = true := Binary64.isFinite_ofNat (by decide)
  have hproduct : (Binary64.one.mul (.ofNat 2)).isFinite = true := by rwa [Binary64.one_mul hfactor]
  exact ⟨by decide +kernel, by decide +kernel, hkeeps _ _ hfactor Binary64.isFinite_one hproduct⟩

theorem scaling_opens_bound :
    (scale (.ofNat 10)).isFinite = true ∧
      (Value.numberRange ⟨some .zero, some (.ofNat (Nat.pow 10 308))⟩).isFinite = true ∧
      (scale (.ofNat 10)).apply (.number (.ofNat (Nat.pow 10 308))) = none ∧
      (scale (.ofNat 10)).apply (.numberRange ⟨some .zero, some (.ofNat (Nat.pow 10 308))⟩) =
        some (.numberRange ⟨some .zero, none⟩) ∧
      ¬ (scale (.ofNat 10)).KeepsBounds ⟨some .zero, some (.ofNat (Nat.pow 10 308))⟩ := by
  have hnumber : (scale (.ofNat 10)).apply (.number (.ofNat (Nat.pow 10 308))) = none := by decide +kernel
  have hrange : (scale (.ofNat 10)).apply (.numberRange ⟨some .zero, some (.ofNat (Nat.pow 10 308))⟩) =
      some (.numberRange ⟨some .zero, none⟩) := by decide +kernel
  refine ⟨by decide +kernel, by decide +kernel, hnumber, hrange, fun hkeeps => ?_⟩
  rw [hkeeps.refused _ (.inr rfl) hnumber] at hrange
  cases hrange

def EndsPast : Transform → Value → Prop
  | .toRange width, .number x => (toRange width).Overflows x
  | _, _ => False

theorem isFinite_of_mapNumbers (h : mapNumbers f v = some w) : w.isFinite = true := by
  have hbound {b : Option Binary64} : (b.bind (finite f)).all (·.isFinite) = true := by
    rw [Option.all_eq_true]
    intro y hy
    obtain ⟨x, -, hx⟩ := Option.bind_eq_some_iff.mp hy
    exact (finite_eq_some_iff.mp hx).2
  cases v with
  | number x =>
    obtain ⟨y, hy, rfl⟩ := Option.map_eq_some_iff.mp h
    exact (finite_eq_some_iff.mp hy).2
  | numberRange r =>
    cases h
    exact Bool.and_eq_true_iff.mpr ⟨hbound, hbound⟩
  | _ => cases h

theorem isFinite_of_mapTexts {g : List Char → List Char} (h : mapTexts g v = some w) :
    w.isFinite = true := by
  cases v <;> cases h <;> rfl

theorem isFinite_of_rangeBound (ht : t = .rangeMin ∨ t = .rangeMax) (hv : v.isFinite = true)
    (h : t.apply v = some w) : w.isFinite = true := by
  cases v with
  | null => rcases ht with rfl | rfl <;> cases h <;> rfl
  | numberRange r =>
    obtain ⟨hlower, hupper⟩ := Bool.and_eq_true_iff.mp hv
    have hbound {b : Option Binary64} (hb : b.all (·.isFinite) = true) :
        (Value.ofBound .number b).isFinite = true := by
      cases b with
      | none => rfl
      | some x => exact hb
    rcases ht with rfl | rfl
    · cases h
      exact hbound hlower
    · cases h
      exact hbound hupper
  | dateRange r =>
    have hbound (b : Option Calendar.Date) : (Value.ofBound .date b).isFinite = true := by cases b <;> rfl
    rcases ht with rfl | rfl <;> cases h <;> exact hbound _
  | _ => rcases ht with rfl | rfl <;> cases h

theorem isFinite_toRange_iff {width : Binary64} (ht : (toRange width).isFinite = true)
    (hv : v.isFinite = true) (h : (toRange width).apply v = some w) :
    w.isFinite = true ↔ ¬ (toRange width).EndsPast v := by
  cases v with
  | null =>
    cases h
    exact iff_of_true rfl id
  | number x =>
    cases h
    have hsum : (x.add width).isFinite = true ↔ ¬ (toRange width).EndsPast (.number x) :=
      (Binary64.isFinite_add_iff hv ht).trans not_le.symm
    exact (Bool.and_eq_true_iff.trans (and_iff_right hv)).trans hsum
  | date d =>
    obtain ⟨days, -, rfl⟩ := Option.map_eq_some_iff.mp h
    exact iff_of_true rfl id
  | _ => cases h

theorem isFinite_of_apply (ht : t.isFinite = true) (hv : v.isFinite = true) (hw : t.apply v = some w) :
    w.isFinite = true ↔ ¬ t.EndsPast v := by
  by_cases hnull : v.isNull = true
  · cases v <;> cases hnull
    cases hw
    refine iff_of_true rfl ?_
    cases t <;> exact id
  have hresult := hw
  rw [apply.eq_def, if_neg hnull] at hresult
  cases t with
  | identity =>
    cases hresult
    exact iff_of_true hv id
  | rangeMin => exact iff_of_true (isFinite_of_rangeBound (.inl rfl) hv hw) id
  | rangeMax => exact iff_of_true (isFinite_of_rangeBound (.inr rfl) hv hw) id
  | toRange width => exact isFinite_toRange_iff ht hv hw
  | scale | offset | clamp | round => exact iff_of_true (isFinite_of_mapNumbers hresult) id
  | _ => exact iff_of_true (isFinite_of_mapTexts hresult) id

theorem EndsPast.apply_eq (ht : t.isFinite = true) (hv : v.isFinite = true) (h : t.EndsPast v) :
    ∃ x s, v = .number x ∧ t.apply v = some (.numberRange ⟨some x, some (.infinity s)⟩) := by
  cases t with
  | toRange width =>
    cases v with
    | number x =>
      have hsum : ¬ (x.add width).isFinite = true := by
        rw [Binary64.isFinite_add_iff hv ht]
        exact not_lt.mpr h
      obtain ⟨s, hs⟩ := Binary64.exists_add_eq_infinity hv ht hsum
      exact ⟨x, s, rfl, hs ▸ rfl⟩
    | _ => exact h.elim
  | _ => exact h.elim

theorem results_finite_iff (ht : t.isFinite = true) (hv : v.isFinite = true) :
    ((∀ w, t.apply v = some w → w.isFinite = true) ↔ ¬ t.EndsPast v) ∧
      (t.EndsPast v →
        ∃ x s, v = .number x ∧ t.apply v = some (.numberRange ⟨some x, some (.infinity s)⟩)) := by
  have hpast := EndsPast.apply_eq (t := t) (v := v) ht hv
  refine ⟨⟨fun hall hends => ?_, fun hends w hw => (isFinite_of_apply ht hv hw).mpr hends⟩, hpast⟩
  obtain ⟨x, s, -, happly⟩ := hpast hends
  exact (isFinite_of_apply ht hv happly).mp (hall _ happly) hends

theorem widening_ends_past :
    (toRange (.ofNat (Nat.pow 10 308))).isFinite = true ∧
      (Value.number (.ofNat (Nat.pow 10 308))).isFinite = true ∧
      (toRange (.ofNat (Nat.pow 10 308))).EndsPast (.number (.ofNat (Nat.pow 10 308))) := by
  have hwidth : (toRange (.ofNat (Nat.pow 10 308))).isFinite = true := by decide +kernel
  refine ⟨hwidth, hwidth, by_contra fun hends => ?_⟩
  have hfinite := (results_finite_iff (v := .number (.ofNat (Nat.pow 10 308))) hwidth hwidth).1.mpr hends _ rfl
  exact absurd hfinite (by decide +kernel)

theorem widening_gives_infinity :
    (toRange (.ofNat (Nat.pow 10 308))).isFinite = true ∧
      (Value.number (.ofNat (Nat.pow 10 308))).isFinite = true ∧
      (toRange (.ofNat (Nat.pow 10 308))).apply (.number (.ofNat (Nat.pow 10 308))) =
        some (.numberRange ⟨some (.ofNat (Nat.pow 10 308)), some (.infinity false)⟩) ∧
      (Value.numberRange ⟨some (.ofNat (Nat.pow 10 308)), some (.infinity false)⟩).isFinite = false := by
  decide +kernel

end LinkedControls.Transform
