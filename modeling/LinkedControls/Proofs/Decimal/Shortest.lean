import LinkedControls.Proofs.Decimal.Digits
import LinkedControls.Proofs.Decimal.Exact
import LinkedControls.Proofs.Decimal.Order

/-!
What the shortest digits of a magnitude say about it: whether it is whole, how large it is, and that it lies
halfway between two decimals where their choice depends on the way in which ties go.
-/

namespace LinkedControls.Decimal

open Magnitude (digitCount)

theorem unitsPerOne_dvd_of_le {u : ℕ} (h : 2 ^ 53 * unitsPerOne ≤ u) (hu : spacing u ∣ u) : unitsPerOne ∣ u := by
  obtain ⟨e, -, hone⟩ := exists_unitsPerOne_eq
  rw [hone, ← Nat.pow_add] at h
  have hne : u ≠ 0 := ((Nat.two_pow_pos _).trans_le h).ne'
  have hlog : 53 + e ≤ u.log2 := (Nat.le_log2 hne).mpr h
  rw [hone]
  exact Nat.dvd_trans (Nat.pow_dvd_pow 2 (by omega)) hu

theorem unitsPerOne_dvd_roundUnits (n : ℕ) : unitsPerOne ∣ roundUnits (n * unitsPerOne) 1 := by
  rcases le_total n (2 ^ 53) with h | h
  · rw [roundUnits_mul_unitsPerOne h]
    exact Nat.dvd_mul_left ..
  · refine unitsPerOne_dvd_of_le ?_ (spacing_dvd_roundUnits ..)
    calc 2 ^ 53 * unitsPerOne = roundUnits (2 ^ 53 * unitsPerOne) 1 := (roundUnits_mul_unitsPerOne le_rfl).symm
      _ ≤ roundUnits (n * unitsPerOne) 1 := roundUnits_mono (Nat.mul_le_mul_right _ h) 1

theorem units_of_nearest? {num den : ℕ} {m : Magnitude} (h : Magnitude.nearest? num den = some m) :
    m.units = roundUnits num den := by
  unfold Magnitude.nearest? at h
  split at h
  next =>
    cases h
    rfl
  next => cases h

variable {d : DecimalNumber} {m p : Magnitude} {tie : Tie} {n : ℕ}

theorem DecimalNumber.IsWhole.dvd_units (hd : d.IsWhole) (hm : d.magnitude? = some m) :
    unitsPerOne ∣ m.units := by
  obtain ⟨n, hn⟩ := hd
  have hexponent : d.exponent + (-d.exponent).toNat = (d.exponent.toNat : ℤ) - (0 : ℕ) := by omega
  have hread : d.magnitude? = Magnitude.nearest? (n * Nat.pow 10 d.exponent.toNat * unitsPerOne) 1 := by
    rw [← Nat.pow_zero 10, ← Nat.pow_eq, ← magnitude?_eq, ← hexponent, ← magnitude?_shift, Nat.mul_comm n,
      Nat.pow_eq, ← hn]
  rw [units_of_nearest? (hread.symm.trans hm)]
  exact unitsPerOne_dvd_roundUnits _

namespace Magnitude

theorem decade_of_whole (hn : n ≠ 0) (hm : m.units = n * unitsPerOne) : m.decade = digitCount n - 1 := by
  have hplaces : (401 : ℤ) = (400 : ℕ) + 1 := rfl
  rw [decade, hplaces]
  generalize (400 : ℕ) = k
  rw [hm, Nat.mul_right_comm, Nat.mul_div_cancel _ unitsPerOne_pos, Nat.pow_eq, digitCount_mul_pow hn]
  omega

theorem withDigits?_of_whole (tie : Tie) (hn : n ≠ 0) (hm : m.units = n * unitsPerOne) :
    m.withDigits? tie (digitCount n) = some ⟨n, 0⟩ := by
  have hexponent : m.decade - ((digitCount n : ℤ) - 1) = .ofNat 0 := by
    rw [decade_of_whole hn hm]
    exact sub_self _
  have hread : (DecimalNumber.mk n 0).magnitude? = some m := by
    rw [← m.nearest?_units, hm]
    exact congrArg (fun k => nearest? (k * unitsPerOne) 1) (Nat.mul_one n)
  have hpow (u : ℕ) : u * Nat.pow 10 0 = u := Nat.mul_one u
  have hscaled : m.scaled (.ofNat 0) = (n * unitsPerOne, unitsPerOne) := by
    rw [scaled, hpow, hm]
  have hneighbours : neighbours tie (.ofNat 0) (n * unitsPerOne) unitsPerOne = [⟨n, 0⟩, ⟨n + 1, 0⟩] := by
    simp [neighbours, Nat.mul_div_cancel _ unitsPerOne_pos, unitsPerOne_pos]
  rw [withDigits?, hexponent, hscaled, hneighbours]
  exact List.find?_cons_of_pos (by simp [hread])

theorem exponent_of_withDigits? {k : ℕ} (h : m.withDigits? tie k = some d) :
    d.exponent = m.decade - ((k : ℤ) - 1) := by
  have hmem := List.mem_of_find?_eq_some h
  unfold neighbours at hmem
  dsimp only at hmem
  split at hmem <;> simp at hmem <;> rcases hmem with rfl | rfl <;> rfl

theorem findSome?_range_eq {α : Type} {f : ℕ → Option α} {k limit : ℕ} {a : α} (hf : f k = some a)
    (hk : k < limit) : ∃ j ≤ k, (List.range limit).findSome? f = f j ∧ (f j).isSome = true := by
  induction limit with
  | zero => cases hk
  | succ limit ih =>
    rw [List.range_succ, List.findSome?_append]
    rcases Nat.lt_succ_iff_lt_or_eq.mp hk with hlt | rfl
    · obtain ⟨j, hj, hfirst, hsome⟩ := ih hlt
      exact ⟨j, hj, by rw [hfirst, Option.or_of_isSome hsome], hsome⟩
    · cases hfirst : (List.range k).findSome? f with
      | none => exact ⟨k, le_rfl, by simp [hf], by simp [hf]⟩
      | some b =>
        obtain ⟨j, hj, hb⟩ := List.exists_of_findSome?_eq_some hfirst
        exact ⟨j, (List.mem_range.mp hj).le, by simp [hb], by simp [hb]⟩

theorem isWhole_of_nonneg (h : 0 ≤ d.exponent) : d.IsWhole := by
  rw [DecimalNumber.IsWhole, Int.toNat_of_nonpos (by omega)]
  exact Nat.one_dvd _

theorem isWhole_expansion (hm : unitsPerOne ∣ m.units) : m.expansion.IsWhole := by
  have hunits : unitsPerOne = Nat.pow 2 1074 := by decide +kernel
  have hexponent : (-m.expansion.exponent).toNat = 1074 := rfl
  have hdigits : m.expansion.digits = m.units * Nat.pow 5 1074 := rfl
  rw [DecimalNumber.IsWhole, hexponent, hdigits]
  generalize (1074 : ℕ) = k at hunits ⊢
  have hten : 10 ^ k = unitsPerOne * Nat.pow 5 k := by
    rw [hunits]
    exact Nat.mul_pow 2 5 k
  rw [hten]
  exact Nat.mul_dvd_mul_right hm _

/-- The shortest digits of a whole number are those of a whole decimal: the search reaches all digits of the
number before it goes on to digits behind the point. -/
theorem isWhole_shortest (tie : Tie) (hm : unitsPerOne ∣ m.units) : (m.shortest tie).IsWhole := by
  by_cases hzero : m.units = 0
  · rw [shortest, if_pos hzero]
    exact isWhole_of_nonneg le_rfl
  obtain ⟨n, hn⟩ := hm
  rw [Nat.mul_comm] at hn
  have hne : n ≠ 0 := by
    rintro rfl
    exact hzero (hn.trans (Nat.zero_mul _))
  rw [shortest, if_neg hzero]
  cases hfound : (List.range 17).findSome? fun k => m.withDigits? tie (k + 1) with
  | none => exact isWhole_expansion ⟨n, hn.trans (Nat.mul_comm ..)⟩
  | some d =>
    obtain ⟨k, hk, hd⟩ : ∃ k < digitCount n, m.withDigits? tie (k + 1) = some d := by
      rcases lt_or_ge (digitCount n) 18 with hcount | hcount
      · have hpos := (lt_digitCount_iff hne 0).mpr (Nat.pos_of_ne_zero hne)
        have hall := withDigits?_of_whole tie hne hn
        rw [← Nat.sub_add_cancel hpos] at hall
        obtain ⟨k, hk, hfirst, -⟩ := findSome?_range_eq (f := fun k => m.withDigits? tie (k + 1)) hall
          (show digitCount n - 1 < 17 by omega)
        exact ⟨k, by omega, hfirst.symm.trans hfound⟩
      · obtain ⟨k, hk, hd⟩ := List.exists_of_findSome?_eq_some hfound
        exact ⟨k, by have := List.mem_range.mp hk; omega, hd⟩
    refine isWhole_of_nonneg (d := d) ?_
    rw [exponent_of_withDigits? hd, decade_of_whole hne hn]
    omega

theorem isWhole_shortest_iff (tie : Tie) : (m.shortest tie).IsWhole ↔ unitsPerOne ∣ m.units :=
  ⟨fun h => h.dvd_units (shortest_magnitude? tie m), isWhole_shortest tie⟩

end Magnitude

namespace DecimalNumber

theorem units_mono {n n' a a' b : ℕ} (h : n * 10 ^ a ≤ n' * 10 ^ a')
    (hm : magnitude? ⟨n, a - b⟩ = some m) (hp : magnitude? ⟨n', a' - b⟩ = some p) : m.units ≤ p.units := by
  rw [magnitude?_eq] at hm hp
  rw [units_of_nearest? hm, units_of_nearest? hp]
  exact roundUnits_mono (Nat.mul_le_mul_right _ h) _

variable {k : ℤ}

theorem exists_exponents (e k : ℤ) : ∃ a b c : ℕ, e = a - b ∧ k = c - b :=
  ⟨(e + ((-e).toNat + (-k).toNat)).toNat, (-e).toNat + (-k).toNat, (k + ((-e).toNat + (-k).toNat)).toNat,
    by omega, by omega⟩

theorem units_le_of_le_decade (h : d.digits ≠ 0) (hm : d.magnitude? = some m)
    (hp : magnitude? ⟨1, k⟩ = some p) (hk : k ≤ d.significant.2) : p.units ≤ m.units := by
  obtain ⟨a, b, c, he, rfl⟩ := exists_exponents d.exponent k
  have hpower := (le_decade_iff h he c).mp hk
  rw [← Nat.one_mul (10 ^ c)] at hpower
  rw [show d = ⟨d.digits, a - b⟩ from congrArg (mk d.digits) he] at hm
  exact units_mono hpower hp hm

theorem units_le_of_decade_lt (h : d.digits ≠ 0) (hm : d.magnitude? = some m)
    (hp : magnitude? ⟨1, k⟩ = some p) (hk : d.significant.2 < k) : m.units ≤ p.units := by
  obtain ⟨a, b, c, he, rfl⟩ := exists_exponents d.exponent k
  have hpower := (not_le.mp ((le_decade_iff h he c).not.mp hk.not_ge)).le
  rw [← Nat.one_mul (10 ^ c)] at hpower
  rw [show d = ⟨d.digits, a - b⟩ from congrArg (mk d.digits) he] at hm
  exact units_mono hpower hm hp

end DecimalNumber

namespace Magnitude

theorem eq_of_units (h : m.units = p.units) : m = p := by
  cases m
  cases p
  cases h
  rfl

theorem digits_shortest_ne_zero (tie : Tie) (h : m.units ≠ 0) : (m.shortest tie).digits ≠ 0 := by
  intro hzero
  have hread := DecimalNumber.magnitude?_zero (m.shortest tie).exponent
  rw [← hzero] at hread
  exact h (congrArg units (Option.some.inj (hread.symm.trans (shortest_magnitude? tie m)))).symm

def hundredThousandth : Magnitude :=
  ⟨roundUnits unitsPerOne (Nat.pow 10 5), by decide +kernel, spacing_dvd_roundUnits _ _⟩

theorem hundredThousandth_read : (DecimalNumber.mk 1 (-5)).magnitude? = some hundredThousandth := by
  decide +kernel

theorem shortest_of_first (tie : Tie) (h : m.units ≠ 0) (hd : m.withDigits? tie 1 = some d) :
    m.shortest tie = d := by
  rw [shortest, if_neg h, List.range_succ_eq_map, List.findSome?_cons_of_isSome (by rw [hd]; rfl), hd,
    Option.getD_some]

theorem decade_eq {k : ℕ} (hlower : 10 ^ k ≤ m.units * Nat.pow 10 400 / unitsPerOne)
    (hupper : m.units * Nat.pow 10 400 / unitsPerOne < 10 ^ (k + 1)) : m.decade = (k : ℤ) - 400 := by
  unfold decade
  generalize m.units * Nat.pow 10 400 / unitsPerOne = n at *
  have hne : n ≠ 0 := ((Nat.pow_pos (by decide)).trans_le hlower).ne'
  have hlt := (lt_digitCount_iff hne k).mpr hlower
  have hle := (lt_digitCount_iff hne (k + 1)).not.mpr hupper.not_ge
  omega

theorem decade_hundredThousandth : hundredThousandth.decade = -5 :=
  decade_eq (k := 395) (by decide +kernel) (by decide +kernel)

theorem shortest_hundredThousandth : hundredThousandth.shortest .even = ⟨1, -5⟩ := by
  refine shortest_of_first .even (by decide +kernel) ?_
  rw [withDigits?, decade_hundredThousandth]
  decide +kernel

theorem le_decade_shortest_iff (h : m.units ≠ 0) :
    -5 ≤ (m.shortest .even).significant.2 ↔ hundredThousandth.units ≤ m.units := by
  have hdigits := digits_shortest_ne_zero .even h
  have hread := shortest_magnitude? .even m
  refine ⟨DecimalNumber.units_le_of_le_decade hdigits hread hundredThousandth_read, fun hle => ?_⟩
  by_contra hdecade
  have hge := DecimalNumber.units_le_of_decade_lt hdigits hread hundredThousandth_read (not_le.mp hdecade)
  have hm : m = hundredThousandth := eq_of_units (le_antisymm hge hle)
  rw [hm, shortest_hundredThousandth] at hdecade
  exact hdecade le_rfl

theorem exists_read_ten_pow_sixteen :
    ∃ p : Magnitude, (DecimalNumber.mk 1 16).magnitude? = some p ∧ 2 ^ 53 * unitsPerOne ≤ p.units :=
  ⟨⟨roundUnits (Nat.pow 10 16 * unitsPerOne) 1, by decide +kernel, spacing_dvd_roundUnits _ _⟩,
    by decide +kernel, by decide +kernel⟩

theorem decade_shortest_lt (tie : Tie) (h : ¬ unitsPerOne ∣ m.units) : (m.shortest tie).significant.2 < 16 := by
  by_contra hdecade
  have hne : m.units ≠ 0 := by
    intro hzero
    exact h (hzero ▸ Nat.dvd_zero _)
  obtain ⟨p, hp, hle⟩ := exists_read_ten_pow_sixteen
  have hge := DecimalNumber.units_le_of_le_decade (digits_shortest_ne_zero tie hne) (shortest_magnitude? tie m) hp
    (not_lt.mp hdecade)
  exact h (unitsPerOne_dvd_of_le (hle.trans hge) m.representable.2)

end Magnitude

theorem findSome?_pair {α β : Type} {f g : α → Option β} (h : ∀ a, (f a).isSome = (g a).isSome) (l : List α) :
    (l.findSome? f = none ∧ l.findSome? g = none) ∨
      ∃ a b c, l.findSome? f = some b ∧ l.findSome? g = some c ∧ f a = some b ∧ g a = some c := by
  induction l with
  | nil => exact .inl ⟨rfl, rfl⟩
  | cons a l ih =>
    have ha := h a
    cases hf : f a with
    | none =>
      rw [hf] at ha
      rwa [List.findSome?_cons_of_isNone (by rw [hf]; rfl), List.findSome?_cons_of_isNone (by simpa using ha.symm)]
    | some b =>
      rw [hf] at ha
      obtain ⟨c, hg⟩ := Option.isSome_iff_exists.mp ha.symm
      exact .inr ⟨a, b, c, by simp [hf], by simp [hg], hf, hg⟩

namespace Magnitude

def Tied (m : Magnitude) : Prop :=
  ∃ (q : ℕ) (e : ℤ), Even q ∧ m.shortest .even = ⟨q, e⟩ ∧ m.shortest .up = ⟨q + 1, e⟩ ∧
    2 * (Binary64.finite false m).value = (2 * q + 1) * (10 : ℚ) ^ e

theorem neighbours_even (e : ℤ) (num den : ℕ) : neighbours .even e num den = neighbours .up e num den ∨
    Even (num / den) ∧ 2 * num = (2 * (num / den) + 1) * den ∧
      neighbours .even e num den = [⟨num / den, e⟩, ⟨num / den + 1, e⟩] ∧
      neighbours .up e num den = [⟨num / den + 1, e⟩, ⟨num / den, e⟩] := by
  by_cases hgap : 2 * (num % den) = den
  · by_cases heven : Even (num / den)
    · have hnum : 2 * num = (2 * (num / den) + 1) * den := by
        have hdivision := Nat.div_add_mod num den
        calc 2 * num = 2 * (den * (num / den) + num % den) := by rw [hdivision]
          _ = 2 * (num / den) * den + 2 * (num % den) := by ring
          _ = (2 * (num / den) + 1) * den := by rw [hgap]; ring
      refine .inr ⟨heven, hnum, ?_, ?_⟩ <;> simp [neighbours, hgap, Nat.even_iff.mp heven]
    · exact .inl (by simp [neighbours, hgap, Nat.not_even_iff.mp heven])
  · exact .inl (by simp [neighbours, hgap])

theorem scaled_den_pos (m : Magnitude) (e : ℤ) : 0 < (m.scaled e).2 := by
  cases e with
  | ofNat k =>
    simp only [scaled]
    exact Nat.mul_pos unitsPerOne_pos (DecimalNumber.pow_ten_pos k)
  | negSucc k =>
    simp only [scaled]
    exact unitsPerOne_pos

theorem value_scaled (m : Magnitude) (e : ℤ) :
    (Binary64.finite false m).value * (m.scaled e).2 = (m.scaled e).1 * (10 : ℚ) ^ e := by
  have hunits := Binary64.cast_units_pos.ne'
  rw [Binary64.value_finite_false]
  cases e with
  | ofNat k =>
    simp only [scaled, Nat.pow_eq, Nat.cast_mul, Nat.cast_pow, Nat.cast_ofNat, Int.ofNat_eq_natCast, zpow_natCast]
    rw [← mul_assoc, div_mul_cancel₀ _ hunits]
  | negSucc k =>
    have hpow : (10 : ℚ) ^ (k + 1) ≠ 0 := pow_ne_zero _ (by norm_num)
    simp only [scaled, Nat.pow_eq, Nat.cast_mul, Nat.cast_pow, Nat.cast_ofNat, zpow_negSucc]
    rw [div_mul_cancel₀ _ hunits, mul_inv_cancel_right₀ hpow]

theorem value_of_halfway {q : ℕ} {e : ℤ} (h : 2 * (m.scaled e).1 = (2 * q + 1) * (m.scaled e).2) :
    2 * (Binary64.finite false m).value = (2 * q + 1) * (10 : ℚ) ^ e := by
  have hden : ((m.scaled e).2 : ℚ) ≠ 0 := Nat.cast_ne_zero.mpr (m.scaled_den_pos e).ne'
  have hvalue := m.value_scaled e
  have hcast : 2 * ((m.scaled e).1 : ℚ) = (2 * q + 1) * (m.scaled e).2 := by exact_mod_cast h
  refine mul_right_cancel₀ hden ?_
  calc 2 * (Binary64.finite false m).value * (m.scaled e).2
      = 2 * ((m.scaled e).1 * (10 : ℚ) ^ e) := by rw [mul_assoc, hvalue]
    _ = (2 * q + 1) * (m.scaled e).2 * (10 : ℚ) ^ e := by rw [← mul_assoc, hcast]
    _ = (2 * q + 1) * (10 : ℚ) ^ e * (m.scaled e).2 := by ring

theorem withDigits?_even (m : Magnitude) (n : ℕ) : m.withDigits? .even n = m.withDigits? .up n ∨
    ∃ (q : ℕ) (e : ℤ), Even q ∧ m.withDigits? .even n = some ⟨q, e⟩ ∧ m.withDigits? .up n = some ⟨q + 1, e⟩ ∧
      2 * (Binary64.finite false m).value = (2 * q + 1) * (10 : ℚ) ^ e := by
  obtain ⟨e, hfound⟩ : ∃ e, ∀ tie, m.withDigits? tie n =
      (neighbours tie e (m.scaled e).1 (m.scaled e).2).find? fun d => d.magnitude? == some m :=
    ⟨_, fun _ => rfl⟩
  rcases neighbours_even e (m.scaled e).1 (m.scaled e).2 with heq | ⟨hq, hhalf, heven, hup⟩
  · exact .inl (by rw [hfound, hfound, heq])
  · rw [hfound, hfound, heven, hup]
    generalize (m.scaled e).1 / (m.scaled e).2 = q at *
    cases hlower : (DecimalNumber.mk q e).magnitude? == some m <;>
      cases hupper : (DecimalNumber.mk (q + 1) e).magnitude? == some m
    · exact .inl (by simp [List.find?, hlower, hupper])
    · exact .inl (by simp [List.find?, hlower, hupper])
    · exact .inl (by simp [List.find?, hlower, hupper])
    · exact .inr ⟨q, e, hq, by simp [List.find?, hlower], by simp [List.find?, hupper], value_of_halfway hhalf⟩

theorem shortest_even_eq_up_iff (m : Magnitude) : m.shortest .even = m.shortest .up ↔ ¬ m.Tied := by
  constructor
  · rintro heq ⟨q, e, -, heven, hup, -⟩
    rw [heven, hup] at heq
    simp at heq
  · intro htied
    by_contra hne
    have hzero : m.units ≠ 0 := fun hzero => hne (by simp [shortest, hzero])
    have hplaces (k : ℕ) : (m.withDigits? .even (k + 1)).isSome = (m.withDigits? .up (k + 1)).isSome := by
      rcases m.withDigits?_even (k + 1) with heq | ⟨q, e, -, heven, hup, -⟩
      · rw [heq]
      · rw [heven, hup]
        rfl
    have hshortest (tie : Tie) : m.shortest tie =
        ((List.range 17).findSome? fun k => m.withDigits? tie (k + 1)).getD m.expansion := if_neg hzero
    rcases findSome?_pair hplaces (List.range 17) with ⟨heven, hup⟩ | ⟨k, d, d', heven, hup, hd, hd'⟩
    · exact hne (by rw [hshortest, hshortest, heven, hup])
    · rw [hshortest, hshortest, heven, hup] at hne
      rcases m.withDigits?_even (k + 1) with heq | ⟨q, e, hq, hlower, hupper, hvalue⟩
      · rw [hd, hd'] at heq
        exact hne (congrArg (Option.getD · m.expansion) heq)
      · rw [hd] at hlower
        rw [hd'] at hupper
        exact htied ⟨q, e, hq, by rw [hshortest, heven, hlower]; rfl, by rw [hshortest, hup, hupper]; rfl, hvalue⟩

def betweenTenths : Magnitude := ⟨(2 ^ 52 + 1) * Nat.pow 2 1072, by decide +kernel⟩

example : betweenTenths.shortest .even = ⟨11258999068426242, -1⟩ ∧
    betweenTenths.shortest .up = ⟨11258999068426243, -1⟩ := by
  have hdecade : betweenTenths.decade = 15 := decade_eq (k := 415) (by decide +kernel) (by decide +kernel)
  simp only [shortest, withDigits?, hdecade]
  decide +kernel

end Magnitude

end LinkedControls.Decimal
