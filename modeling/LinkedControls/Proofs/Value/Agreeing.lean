import LinkedControls.Value.Basic

/-!
Equality of values as numbers. It is symmetric and transitive; a value that holds what is not a number
does not even equal itself.
-/

namespace LinkedControls

namespace Decimal.Binary64

variable {x y z : Binary64}

theorem eqv_symm (h : x.eqv y = true) : y.eqv x = true := by
  cases x with
  | nan => cases h
  | infinity s =>
    cases y with
    | infinity t => exact beq_iff_eq.mpr (beq_iff_eq.mp h).symm
    | _ => cases h
  | finite s m =>
    cases y with
    | finite t n => exact beq_iff_eq.mpr (beq_iff_eq.mp h).symm
    | _ => cases h

theorem eqv_trans (h : x.eqv y = true) (h' : y.eqv z = true) : x.eqv z = true := by
  cases y with
  | nan => cases h'
  | infinity t =>
    cases x with
    | infinity s =>
      obtain rfl : s = t := beq_iff_eq.mp h
      exact h'
    | _ => cases h
  | finite t n =>
    cases x with
    | finite s m =>
      cases z with
      | finite u k => exact beq_iff_eq.mpr ((beq_iff_eq.mp h).trans (beq_iff_eq.mp h'))
      | _ => cases h'
    | _ => cases h

end Decimal.Binary64

open Decimal

section Bounds

variable {a b c : Option Binary64}

theorem sameBound_symm (h : sameBound a b = true) : sameBound b a = true := by
  cases a <;> cases b <;> first | exact h | exact Binary64.eqv_symm h

theorem sameBound_trans (h : sameBound a b = true) (h' : sameBound b c = true) :
    sameBound a c = true := by
  cases b with
  | none =>
    cases a with
    | none => exact h'
    | some x => cases h
  | some y =>
    cases a with
    | none => cases h
    | some x =>
      cases c with
      | none => cases h'
      | some z => exact Binary64.eqv_trans h h'

end Bounds

namespace Value

variable {u v w : Value} {x : Binary64} {r : Range Binary64}

theorem agrees_number_iff : (number x).agrees w = true ↔ ∃ y, w = number y ∧ x.eqv y = true := by
  cases w <;> simp [agrees]

theorem agrees_numberRange_iff : (numberRange r).agrees w = true ↔ ∃ t, w = numberRange t ∧
    sameBound r.lower t.lower = true ∧ sameBound r.upper t.upper = true := by
  cases w <;> simp [agrees]

theorem agrees_symm (h : v.agrees w = true) : w.agrees v = true := by
  cases v with
  | number x =>
    obtain ⟨y, rfl, hxy⟩ := agrees_number_iff.mp h
    exact agrees_number_iff.mpr ⟨x, rfl, Binary64.eqv_symm hxy⟩
  | numberRange r =>
    obtain ⟨t, rfl, hlower, hupper⟩ := agrees_numberRange_iff.mp h
    exact agrees_numberRange_iff.mpr ⟨r, rfl, sameBound_symm hlower, sameBound_symm hupper⟩
  | _ => exact eq_of_beq h ▸ h

theorem agrees_trans (h : u.agrees v = true) (h' : v.agrees w = true) : u.agrees w = true := by
  cases u with
  | number x =>
    obtain ⟨y, rfl, hxy⟩ := agrees_number_iff.mp h
    obtain ⟨z, rfl, hyz⟩ := agrees_number_iff.mp h'
    exact agrees_number_iff.mpr ⟨z, rfl, Binary64.eqv_trans hxy hyz⟩
  | numberRange r =>
    obtain ⟨s, rfl, hlower, hupper⟩ := agrees_numberRange_iff.mp h
    obtain ⟨t, rfl, hlower', hupper'⟩ := agrees_numberRange_iff.mp h'
    exact agrees_numberRange_iff.mpr
      ⟨t, rfl, sameBound_trans hlower hlower', sameBound_trans hupper hupper'⟩
  | _ => exact eq_of_beq h ▸ h'

end Value

end LinkedControls
