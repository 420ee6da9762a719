import LinkedControls.Transform
import LinkedControls.Proofs.Calendar.DayNumber
import LinkedControls.Proofs.Decimal.Order

/-!
Ranges whose bounds are in order, and the transforms that keep them so: all but those whose parameter turns
a range around.
-/

namespace LinkedControls

open Decimal Calendar

def Range.InOrder {α : Type} (lt : α → α → Bool) (r : Range α) : Prop :=
  ∀ lo ∈ r.lower, ∀ hi ∈ r.upper, lt hi lo = false

instance {α : Type} (lt : α → α → Bool) (r : Range α) : Decidable (r.InOrder lt) := by
  unfold Range.InOrder
  infer_instance

def Value.InOrder : Value → Prop
  | .numberRange r => r.InOrder Binary64.lt
  | .dateRange r => r.InOrder Date.lt
  | _ => True

instance : DecidablePred Value.InOrder
  | .numberRange r => inferInstanceAs (Decidable (r.InOrder Binary64.lt))
  | .dateRange r => inferInstanceAs (Decidable (r.InOrder Date.lt))
  | .null | .text _ | .number _ | .boolean _ | .date _ | .list _ => .isTrue trivial

namespace Transform

def Reverses : Transform → Prop
  | .scale factor => factor.lt .zero = true
  | .toRange width => width.lt .zero = true
  | _ => False

def KeepsRanges (t : Transform) : Prop :=
  ∀ v w, v.isFinite = true → v.InOrder → t.apply v = some w → w.InOrder

variable {f : Binary64 → Binary64} {t : Transform} {v w : Value} {x y : Binary64}

theorem finite_eq_some_iff : finite f x = some y ↔ f x = y ∧ y.isFinite = true := by
  simp [finite, Option.filter_eq_some_iff]

theorem mapNumbers_inOrder (hf : Binary64.KeepsOrder f) (hv : v.isFinite = true) (ho : v.InOrder)
    (h : mapNumbers f v = some w) : w.InOrder := by
  cases v with
  | number x =>
    obtain ⟨y, -, rfl⟩ := Option.map_eq_some_iff.mp h
    trivial
  | numberRange r =>
    cases h
    intro lo hlo hi hhi
    obtain ⟨x, hx, hfx⟩ := Option.bind_eq_some_iff.mp hlo
    obtain ⟨y, hy, hfy⟩ := Option.bind_eq_some_iff.mp hhi
    obtain ⟨rfl, hlo⟩ := finite_eq_some_iff.mp hfx
    obtain ⟨rfl, hhi⟩ := finite_eq_some_iff.mp hfy
    simp only [Value.isFinite, hx, hy, Option.all_some, Bool.and_eq_true] at hv
    rw [Binary64.not_lt_iff hhi hlo]
    exact hf x y hv.1 hv.2 hlo hhi ((Binary64.not_lt_iff hv.2 hv.1).mp (ho x hx y hy))
  | _ => cases h

theorem keepsOrder_clampNumber {least greatest : Option Binary64} (hleast : least.all (·.isFinite) = true)
    (hgreatest : greatest.all (·.isFinite) = true) : Binary64.KeepsOrder (clampNumber least greatest) := by
  cases least with
  | none =>
    cases greatest with
    | none => exact fun _ _ _ _ _ _ h => h
    | some hi => exact Binary64.keepsOrder_min hgreatest
  | some lo =>
    cases greatest with
    | none => exact Binary64.keepsOrder_max hleast
    | some hi =>
      refine (Binary64.keepsOrder_min hgreatest).comp (Binary64.keepsOrder_max hleast) fun x hx _ => ?_
      exact Binary64.isFinite_max hx hleast

theorem keepsOrder_roundNumber (decimals : ℕ) : Binary64.KeepsOrder (roundNumber decimals) := by
  have hpow : Nat.pow 10 (min decimals 15) ≤ 2 ^ 53 :=
    (Nat.pow_le_pow_right (by decide) (Nat.min_le_right decimals 15)).trans (by decide)
  obtain ⟨m, hm, hunits⟩ := Binary64.ofNat_eq_finite hpow
  have hne : m.units ≠ 0 := by
    rw [hunits]
    exact Nat.mul_ne_zero (Nat.pow_pos (by decide)).ne' unitsPerOne_pos.ne'
  have hfactor : 0 ≤ (Binary64.finite false m).toUnits := Int.natCast_nonneg _
  have hround := Binary64.keepsOrder_roundHalfAway.comp (Binary64.keepsOrder_mul hfactor)
    fun x _ h => Binary64.isFinite_of_roundHalfAway h
  unfold roundNumber
  simp only [hm]
  exact (Binary64.keepsOrder_div hne).comp hround fun x _ h => Binary64.isFinite_of_div h

theorem wholeDays?_nonneg {width : Binary64} {days : ℤ} (hw : 0 ≤ width.toUnits)
    (hfinite : width.isFinite = true) (h : wholeDays? width = some days) : 0 ≤ days := by
  unfold wholeDays? at h
  dsimp only at h
  split at h
  next =>
    cases h
    exact Binary64.truncateTo_nonneg hfinite hw (by decide)
  next => cases h

theorem toRange_inOrder {width : Binary64} (hw : 0 ≤ width.toUnits) (hfinite : width.isFinite = true)
    (hv : v.isFinite = true) (h : (toRange width).apply v = some w) : w.InOrder := by
  cases v with
  | null =>
    cases h
    trivial
  | number x =>
    cases h
    rintro _ ⟨⟩ _ ⟨⟩
    exact Binary64.add_not_lt hv hfinite hw
  | date d =>
    obtain ⟨days, hdays, rfl⟩ := Option.map_eq_some_iff.mp h
    rintro _ ⟨⟩ e he
    exact Date.addDays?_not_lt (wholeDays?_nonneg hw hfinite hdays) he
  | _ => cases h

theorem mapTexts_inOrder {g : List Char → List Char} (h : mapTexts g v = some w) : w.InOrder := by
  cases v with
  | text s =>
    cases h
    trivial
  | list items =>
    cases h
    trivial
  | _ => cases h

theorem rangeBound_inOrder (ht : t = .rangeMin ∨ t = .rangeMax) (h : t.apply v = some w) : w.InOrder := by
  have hnumber (b : Option Binary64) : (Value.ofBound .number b).InOrder := by cases b <;> trivial
  have hdate (b : Option Date) : (Value.ofBound .date b).InOrder := by cases b <;> trivial
  rcases ht with rfl | rfl <;> cases v <;> cases h <;> first | trivial | exact hnumber _ | exact hdate _

theorem reverses_scale_iff (hf : x.isFinite = true) : (scale x).Reverses ↔ x.toUnits < 0 :=
  Binary64.lt_iff hf rfl

theorem reverses_toRange_iff (hf : x.isFinite = true) : (toRange x).Reverses ↔ x.toUnits < 0 :=
  Binary64.lt_iff hf rfl

theorem keepsRanges_of_not_reverses (ht : t.isFinite = true) (h : ¬ t.Reverses) : t.KeepsRanges := by
  intro v w hv ho happly
  by_cases hnull : v.isNull = true
  · rw [apply.eq_def, if_pos hnull] at happly
    cases happly
    trivial
  have hresult := happly
  rw [apply.eq_def, if_neg hnull] at hresult
  cases t with
  | identity =>
    cases hresult
    exact ho
  | scale factor =>
    have hfactor := not_lt.mp ((reverses_scale_iff ht).not.mp h)
    exact mapNumbers_inOrder (Binary64.keepsOrder_mul hfactor) hv ho hresult
  | offset amount => exact mapNumbers_inOrder (Binary64.keepsOrder_add amount) hv ho hresult
  | clamp least greatest =>
    obtain ⟨hleast, hgreatest⟩ := Bool.and_eq_true_iff.mp ht
    exact mapNumbers_inOrder (keepsOrder_clampNumber hleast hgreatest) hv ho hresult
  | round decimals => exact mapNumbers_inOrder (keepsOrder_roundNumber decimals) hv ho hresult
  | rangeMin => exact rangeBound_inOrder (.inl rfl) happly
  | rangeMax => exact rangeBound_inOrder (.inr rfl) happly
  | toRange width =>
    have hwidth := not_lt.mp ((reverses_toRange_iff ht).not.mp h)
    exact toRange_inOrder hwidth ht hv happly
  | _ => exact mapTexts_inOrder hresult

theorem not_keepsRanges_scale (hf : x.isFinite = true) (h : x.toUnits < 0) : ¬ (scale x).KeepsRanges := by
  intro hkeeps
  obtain ⟨y, hy, hpos, hone⟩ : ∃ y : Binary64, y.isFinite = true ∧ 0 ≤ y.toUnits ∧ y.mul x = x := by
    refine ⟨.one, Binary64.isFinite_one, ?_, Binary64.one_mul hf⟩
    rw [Binary64.toUnits_one]
    exact Int.natCast_nonneg _
  have hlower : finite (·.mul x) .zero = some (Binary64.zero.mul x) :=
    finite_eq_some_iff.mpr ⟨rfl, Binary64.isFinite_zero_mul hf⟩
  have hupper : finite (·.mul x) y = some x := finite_eq_some_iff.mpr ⟨hone, hf⟩
  have hrange : (Value.numberRange ⟨some .zero, some y⟩).isFinite = true := hy
  have horder : (Value.numberRange ⟨some .zero, some y⟩).InOrder := by
    rintro _ ⟨⟩ _ ⟨⟩
    exact (Binary64.not_lt_iff hy rfl).mpr hpos
  have hkept := hkeeps _ _ hrange horder rfl _ hlower _ hupper
  rw [Binary64.not_lt_iff hf (Binary64.isFinite_zero_mul hf), Binary64.toUnits_zero_mul hf] at hkept
  exact hkept.not_gt h

theorem not_keepsRanges_toRange (hf : x.isFinite = true) (h : x.toUnits < 0) :
    ¬ (toRange x).KeepsRanges := by
  intro hkeeps
  have hsum := Binary64.isFinite_zero_add hf
  have hunits : (Binary64.zero.add x).toUnits = x.toUnits := by
    rw [Binary64.toUnits_add hsum]
    exact (congrArg _ (Int.zero_add _)).trans (Binary64.nearestUnits_toUnits x)
  have hkept := hkeeps (.number .zero) _ rfl trivial rfl .zero rfl _ rfl
  rw [Binary64.not_lt_iff hsum rfl, hunits] at hkept
  exact hkept.not_gt h

theorem keeps_ranges_iff (ht : t.isFinite = true) : t.KeepsRanges ↔ ¬ t.Reverses := by
  refine ⟨fun hkeeps hreverses => ?_, keepsRanges_of_not_reverses ht⟩
  cases t with
  | scale factor => exact not_keepsRanges_scale ht ((reverses_scale_iff ht).mp hreverses) hkeeps
  | toRange width => exact not_keepsRanges_toRange ht ((reverses_toRange_iff ht).mp hreverses) hkeeps
  | _ => exact hreverses

theorem doubling_keeps_ranges :
    (scale (.ofNat 2)).isFinite = true ∧ (scale (.ofNat 2)).KeepsRanges := by
  have hfinite : (scale (.ofNat 2)).isFinite = true := by decide +kernel
  exact ⟨hfinite, (keeps_ranges_iff hfinite).mpr (show ¬ (Binary64.ofNat 2).lt .zero = true by decide +kernel)⟩

theorem negation_reverses_range :
    (scale (.ofInt (-1))).isFinite = true ∧ (toRange (.ofInt (-1))).isFinite = true ∧
      (Value.numberRange ⟨some (.ofNat 2), some (.ofNat 5)⟩).isFinite = true ∧
      (Value.numberRange ⟨some (.ofNat 2), some (.ofNat 5)⟩).InOrder ∧
      (scale (.ofInt (-1))).apply (.numberRange ⟨some (.ofNat 2), some (.ofNat 5)⟩) =
        some (.numberRange ⟨some (.ofInt (-2)), some (.ofInt (-5))⟩) ∧
      ¬ (Value.numberRange ⟨some (.ofInt (-2)), some (.ofInt (-5))⟩).InOrder ∧
      (toRange (.ofInt (-1))).apply (.number (.ofNat 5)) =
        some (.numberRange ⟨some (.ofNat 5), some (.ofNat 4)⟩) ∧
      ¬ (Value.numberRange ⟨some (.ofNat 5), some (.ofNat 4)⟩).InOrder := by
  decide +kernel

end Transform

end LinkedControls
