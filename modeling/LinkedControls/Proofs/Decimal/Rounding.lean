import LinkedControls.Decimal.Shortest

/-!
Rounding depends on the quotient alone, so digits may be moved against their exponent without changing
what they read as, and the digits chosen for a magnitude read back as that magnitude.
-/

namespace LinkedControls.Decimal

variable {c : Nat}

theorem roundHalfEven_mul_right (hc : 0 < c) (num den : Nat) :
    roundHalfEven (num * c) (den * c) = roundHalfEven num den := by
  have hlt : 2 * (num % den * c) < den * c ↔ 2 * (num % den) < den := by
    rw [← Nat.mul_assoc]
    exact Nat.mul_lt_mul_right hc
  have heq : 2 * (num % den * c) = den * c ↔ 2 * (num % den) = den := by
    rw [← Nat.mul_assoc]
    exact Nat.mul_left_inj (Nat.ne_of_gt hc)
  simp only [roundHalfEven, Nat.mul_div_mul_right _ _ hc, Nat.mul_mod_mul_right, hlt, heq]

theorem roundUnits_mul_right (hc : 0 < c) (num den : Nat) :
    roundUnits (num * c) (den * c) = roundUnits num den := by
  have hden : den * c * spacing (num / den) = den * spacing (num / den) * c := Nat.mul_right_comm ..
  simp only [roundUnits, Nat.mul_div_mul_right _ _ hc, hden, roundHalfEven_mul_right hc]

theorem spacing_pos (u : Nat) : 0 < spacing u := Nat.pow_pos (by decide)

theorem roundUnits_of_dvd {u : Nat} (h : spacing u ∣ u) : roundUnits u 1 = u := by
  have hmod : u % (1 * spacing u) = 0 := by rw [Nat.one_mul, Nat.mod_eq_zero_of_dvd h]
  have hpos : 2 * 0 < 1 * spacing u := by simpa using spacing_pos u
  simp only [roundUnits, roundHalfEven, Nat.div_one, hmod, if_pos hpos]
  rw [Nat.one_mul, Nat.div_mul_cancel h]

namespace Magnitude

theorem nearest?_mul_right (hc : 0 < c) (num den : Nat) :
    nearest? (num * c) (den * c) = nearest? num den := by
  simp only [nearest?, roundUnits_mul_right hc]

theorem nearest?_units (m : Magnitude) : nearest? m.units 1 = some m := by
  have hm : roundUnits m.units 1 = m.units := roundUnits_of_dvd m.representable.2
  simp only [nearest?, hm, dif_pos m.representable.1]

end Magnitude

namespace DecimalNumber

theorem pow_ten_pos (k : Nat) : 0 < Nat.pow 10 k := Nat.pow_pos (by decide)

theorem pow_ten_add (a b : Nat) : Nat.pow 10 (a + b) = Nat.pow 10 a * Nat.pow 10 b :=
  Nat.pow_add 10 a b

theorem magnitude?_eq (n a b : Nat) :
    magnitude? ⟨n, (a : Int) - b⟩ =
      Magnitude.nearest? (n * Nat.pow 10 a * unitsPerOne) (Nat.pow 10 b) := by
  by_cases hab : b ≤ a
  · obtain ⟨k, rfl⟩ := Nat.exists_eq_add_of_le hab
    have he : ((b + k : Nat) : Int) - b = .ofNat k := by rw [Int.ofNat_eq_natCast]; omega
    have hnum : n * Nat.pow 10 (b + k) * unitsPerOne =
        n * Nat.pow 10 k * unitsPerOne * Nat.pow 10 b := by
      rw [pow_ten_add, Nat.mul_comm (Nat.pow 10 b), ← Nat.mul_assoc, Nat.mul_right_comm]
    have hscale := Magnitude.nearest?_mul_right (pow_ten_pos b) (n * Nat.pow 10 k * unitsPerOne) 1
    rw [Nat.one_mul] at hscale
    rw [he, hnum, hscale, magnitude?]
  · obtain ⟨k, rfl⟩ := Nat.exists_eq_add_of_lt (Nat.lt_of_not_le hab)
    have he : (a : Int) - ((a + k + 1 : Nat) : Int) = .negSucc k := by omega
    have hden : Nat.pow 10 (a + k + 1) = Nat.pow 10 (k + 1) * Nat.pow 10 a := by
      rw [← pow_ten_add, Nat.add_comm (k + 1), Nat.add_assoc]
    have hscale := Magnitude.nearest?_mul_right (pow_ten_pos a) (n * unitsPerOne) (Nat.pow 10 (k + 1))
    rw [he, hden, Nat.mul_right_comm, hscale, magnitude?]

theorem magnitude?_shift (n z : Nat) (e : Int) :
    magnitude? ⟨n * Nat.pow 10 z, e⟩ = magnitude? ⟨n, e + z⟩ := by
  obtain ⟨a, b, rfl⟩ : ∃ a b : Nat, e = a - b := ⟨e.toNat, (-e).toNat, by omega⟩
  have he : (a : Int) - b + z = ((z + a : Nat) : Int) - b := by omega
  rw [he, magnitude?_eq, magnitude?_eq, pow_ten_add, Nat.mul_assoc n]

theorem magnitude?_zero (e : Int) : magnitude? ⟨0, e⟩ = some .zero := by
  obtain ⟨a, b, rfl⟩ : ∃ a b : Nat, e = a - b := ⟨e.toNat, (-e).toNat, by omega⟩
  have hzero := Magnitude.nearest?_mul_right (pow_ten_pos b) 0 1
  rw [Nat.zero_mul, Nat.one_mul] at hzero
  rw [magnitude?_eq, Nat.zero_mul, Nat.zero_mul, hzero]
  exact Magnitude.nearest?_units .zero

end DecimalNumber

namespace Magnitude

theorem nearest?_expanded (m : Magnitude) {k : Nat} (hk : unitsPerOne = Nat.pow 2 k) :
    nearest? (m.units * Nat.pow 5 k * unitsPerOne) (Nat.pow 10 k) = some m := by
  have hten : Nat.pow 10 k = 1 * (Nat.pow 5 k * unitsPerOne) := by
    rw [Nat.one_mul, hk]
    exact Nat.mul_pow 5 2 k
  have hpos : 0 < Nat.pow 5 k * unitsPerOne := Nat.mul_pos (Nat.pow_pos (by decide)) unitsPerOne_pos
  rw [hten, Nat.mul_assoc, nearest?_mul_right hpos, nearest?_units]

theorem expansion_magnitude? (m : Magnitude) : m.expansion.magnitude? = some m := by
  have he : (-1074 : Int) = ((0 : Nat) : Int) - (1074 : Nat) := by decide
  have hzero (n : Nat) : n * Nat.pow 10 0 = n := Nat.mul_one n
  have hunits : unitsPerOne = Nat.pow 2 1074 := by decide +kernel
  rw [expansion, he, DecimalNumber.magnitude?_eq, hzero]
  -- as a variable, the exponent is not computed with
  generalize (1074 : Nat) = k at hunits ⊢
  exact m.nearest?_expanded hunits

theorem withDigits?_magnitude? {tie : Tie} {m : Magnitude} {n : Nat} {d : DecimalNumber}
    (h : m.withDigits? tie n = some d) : d.magnitude? = some m := by
  unfold withDigits? at h
  have hfound := List.find?_some h
  exact eq_of_beq hfound

theorem shortest_magnitude? (tie : Tie) (m : Magnitude) : (m.shortest tie).magnitude? = some m := by
  unfold shortest
  split
  · next h =>
    rw [DecimalNumber.magnitude?_zero]
    cases m
    cases h
    rfl
  · cases hd : (List.range 17).findSome? fun n => m.withDigits? tie (n + 1) with
    | none => exact m.expansion_magnitude?
    | some d =>
      obtain ⟨n, _, hn⟩ := List.exists_of_findSome?_eq_some hd
      exact withDigits?_magnitude? hn

end Magnitude

end LinkedControls.Decimal
