/-!
Binary floating point with 53 significant bits. Every finite magnitude is a whole number of units
of 2^-1074, so exact results are quotients of natural numbers, and each operation is its exact
result rounded once, to the nearest magnitude and a tie to the even one.
-/

namespace LinkedControls.Decimal

def unitsPerOne : Nat := Nat.pow 2 1074

theorem unitsPerOne_pos : 0 < unitsPerOne := by decide +kernel

def unitLimit : Nat := Nat.pow 2 2098

theorem unitLimit_pos : 0 < unitLimit := by decide +kernel

def spacing (u : Nat) : Nat := Nat.pow 2 (u.log2 - 52)

def Representable (u : Nat) : Prop := u < unitLimit ∧ spacing u ∣ u

instance (u : Nat) : Decidable (Representable u) := by unfold Representable; infer_instance

structure Magnitude where
  units : Nat
  representable : Representable units
deriving DecidableEq

def roundHalfEven (num den : Nat) : Nat :=
  let q := num / den
  let r := num % den
  if 2 * r < den then q else if 2 * r = den then q + q % 2 else q + 1

theorem roundHalfEven_le_succ (num den : Nat) : roundHalfEven num den ≤ num / den + 1 := by
  have : num / den % 2 < 2 := Nat.mod_lt _ (by decide)
  simp only [roundHalfEven]
  split
  · omega
  · split <;> omega

theorem spacing_dvd_mul {t k : Nat} (ht : t ≤ Nat.pow 2 53) :
    spacing (t * Nat.pow 2 k) ∣ t * Nat.pow 2 k := by
  unfold spacing
  simp only [Nat.pow_eq] at ht ⊢
  by_cases h0 : t = 0
  · simp [h0]
  by_cases h53 : t = 2 ^ 53
  · subst h53
    rw [← Nat.pow_add, Nat.log2_two_pow]
    exact Nat.pow_dvd_pow 2 (by omega)
  · have hlt : t < 2 ^ 53 := by omega
    have hpos : t * 2 ^ k ≠ 0 := Nat.mul_ne_zero h0 (Nat.ne_of_gt (Nat.two_pow_pos k))
    have : (t * 2 ^ k).log2 < 53 + k := by
      rw [Nat.log2_lt hpos, Nat.pow_add]
      exact Nat.mul_lt_mul_of_pos_right hlt (Nat.two_pow_pos k)
    exact Nat.dvd_trans (Nat.pow_dvd_pow 2 (by omega)) (Nat.dvd_mul_left _ _)

/-- `num / den` units rounded to 53 significant bits; it may pass the limit. -/
def roundUnits (num den : Nat) : Nat :=
  let s := spacing (num / den)
  roundHalfEven num (den * s) * s

theorem spacing_dvd_roundUnits (num den : Nat) : spacing (roundUnits num den) ∣ roundUnits num den := by
  unfold roundUnits
  simp only
  rw [show spacing (num / den) = 2 ^ ((num / den).log2 - 52) from rfl]
  apply spacing_dvd_mul
  rw [Nat.pow_eq]
  refine Nat.le_trans (roundHalfEven_le_succ _ _) ?_
  rw [← Nat.div_div_eq_div_mul]
  suffices h : num / den / 2 ^ ((num / den).log2 - 52) < 2 ^ 53 by omega
  have h2 : 0 < 2 ^ ((num / den).log2 - 52) := Nat.two_pow_pos _
  rw [Nat.div_lt_iff_lt_mul h2, ← Nat.pow_add]
  exact Nat.lt_of_lt_of_le Nat.lt_log2_self (Nat.pow_le_pow_right (by decide) (by omega))

def Magnitude.nearest? (num den : Nat) : Option Magnitude :=
  if h : roundUnits num den < unitLimit then
    some ⟨roundUnits num den, h, spacing_dvd_roundUnits num den⟩
  else none

def Magnitude.zero : Magnitude := ⟨0, unitLimit_pos, Nat.dvd_zero _⟩

inductive Binary64
  | nan
  | infinity (negative : Bool)
  | finite (negative : Bool) (magnitude : Magnitude)
deriving DecidableEq

namespace Binary64

def zero : Binary64 := .finite false .zero

instance : Inhabited Binary64 := ⟨zero⟩

/-- `± num / den` units, rounded once; past the limit it is infinite. -/
def ofUnits (negative : Bool) (num den : Nat) : Binary64 :=
  match Magnitude.nearest? num den with
  | some m => .finite negative m
  | none => .infinity negative

def ofNat (n : Nat) : Binary64 := ofUnits false (n * unitsPerOne) 1

def ofInt (n : Int) : Binary64 := ofUnits (n < 0) (n.natAbs * unitsPerOne) 1

def one : Binary64 := ofNat 1

def isFinite : Binary64 → Bool
  | .finite _ _ => true
  | _ => false

def isNan : Binary64 → Bool
  | .nan => true
  | _ => false

def toUnits : Binary64 → Int
  | .finite true m => -(m.units : Int)
  | .finite false m => m.units
  | _ => 0

def ofSignedUnits (zeroSign : Bool) (u : Int) : Binary64 :=
  ofUnits (if u = 0 then zeroSign else u < 0) u.natAbs 1

def neg : Binary64 → Binary64
  | .nan => .nan
  | .infinity s => .infinity (!s)
  | .finite s m => .finite (!s) m

def add : Binary64 → Binary64 → Binary64
  | .nan, _ => .nan
  | _, .nan => .nan
  | .infinity s, .infinity t => if s = t then .infinity s else .nan
  | .infinity s, .finite _ _ => .infinity s
  | .finite _ _, .infinity t => .infinity t
  | .finite s m, .finite t n =>
      ofSignedUnits (s && t) ((Binary64.finite s m).toUnits + (Binary64.finite t n).toUnits)

def mul : Binary64 → Binary64 → Binary64
  | .nan, _ => .nan
  | _, .nan => .nan
  | .infinity s, .infinity t => .infinity (s != t)
  | .infinity s, .finite t n => if n.units = 0 then .nan else .infinity (s != t)
  | .finite s m, .infinity t => if m.units = 0 then .nan else .infinity (s != t)
  | .finite s m, .finite t n => ofUnits (s != t) (m.units * n.units) unitsPerOne

def div : Binary64 → Binary64 → Binary64
  | .nan, _ => .nan
  | _, .nan => .nan
  | .infinity _, .infinity _ => .nan
  | .infinity s, .finite t _ => .infinity (s != t)
  | .finite s _, .infinity t => .finite (s != t) .zero
  | .finite s m, .finite t n =>
      if n.units = 0 then
        if m.units = 0 then .nan else .infinity (s != t)
      else ofUnits (s != t) (m.units * unitsPerOne) n.units

def lt : Binary64 → Binary64 → Bool
  | .nan, _ => false
  | _, .nan => false
  | .infinity s, .infinity t => s && !t
  | .infinity s, .finite _ _ => s
  | .finite _ _, .infinity t => !t
  | .finite s m, .finite t n => (Binary64.finite s m).toUnits < (Binary64.finite t n).toUnits

def eqv : Binary64 → Binary64 → Bool
  | .infinity s, .infinity t => s == t
  | .finite s m, .finite t n => (Binary64.finite s m).toUnits == (Binary64.finite t n).toUnits
  | _, _ => false

def le (x y : Binary64) : Bool := x.lt y || x.eqv y

/-- The larger number. Of equal ones it is the second, and a number wins over not a number. -/
def max (x y : Binary64) : Binary64 :=
  if x.isNan then y else if y.isNan || y.lt x then x else y

def min (x y : Binary64) : Binary64 :=
  if x.isNan then y else if y.isNan || x.lt y then x else y

def roundHalfAway : Binary64 → Binary64
  | .finite s m =>
      let q := m.units / unitsPerOne
      let r := m.units % unitsPerOne
      ofUnits s ((if unitsPerOne ≤ 2 * r then q + 1 else q) * unitsPerOne) 1
  | x => x

def truncateTo (lo hi : Int) : Binary64 → Int
  | .nan => 0
  | .infinity s => if s then lo else hi
  | .finite s m =>
      let q : Int := m.units / unitsPerOne
      let n := if s then -q else q
      if n < lo then lo else if hi < n then hi else n

def floorNat (limit : Nat) : Binary64 → Nat
  | .finite false m => Nat.min limit (m.units / unitsPerOne)
  | .infinity false => limit
  | _ => 0

def ceilNat (limit : Nat) : Binary64 → Nat
  | .finite false m =>
      Nat.min limit ((m.units + (unitsPerOne - 1)) / unitsPerOne)
  | .infinity false => limit
  | _ => 0

end Binary64

end LinkedControls.Decimal
