import LinkedControls.Proofs.Decimal.ReadBack
import Mathlib.Algebra.Group.Nat.Defs
import Mathlib.Data.List.DropRight
import Mathlib.Order.Basic

/-!
The digits that are written of a decimal: how many there are, where the first one stands, and whether any
stands behind the point.
-/

namespace LinkedControls.Decimal

open Magnitude (digitCount)

theorem head?_toDigits {n : Nat} (h : n ≠ 0) : (Nat.toDigits 10 n).head? ≠ some '0' := by
  induction n using Nat.strongRecOn with
  | ind n ih =>
    rw [Nat.toDigits_eq_if (by decide)]
    split
    next hlt =>
      have hdigit : ∀ n < 10, n ≠ 0 → Nat.digitChar n ≠ '0' := by decide
      simpa using hdigit n hlt h
    next hle =>
      have htens : n / 10 ≠ 0 := by omega
      rw [List.head?_append_of_ne_nil _ Nat.toDigits_ne_nil]
      exact ih _ (by omega) htens

theorem lt_digitCount_iff {n : ℕ} (hn : n ≠ 0) (k : ℕ) : k < digitCount n ↔ 10 ^ k ≤ n := by
  have hcount : digitCount n = (Nat.toDigits 10 n).length := by
    rw [digitCount, ← Nat.toList_repr, String.length_toList]
  rw [hcount]
  rcases Nat.eq_zero_or_pos k with rfl | hpos
  · have hlength := List.length_pos_iff.mpr (Nat.toDigits_ne_nil (n := n) (b := 10))
    simp [Nat.one_le_iff_ne_zero, hn, hlength]
  · have hlength := Nat.length_toDigits_le_iff (b := 10) (n := n) (by decide) hpos
    rw [← not_le, hlength, not_lt]

theorem digitCount_mul_pow {n : ℕ} (hn : n ≠ 0) (k : ℕ) : digitCount (n * 10 ^ k) = digitCount n + k := by
  have hpos : n * 10 ^ k ≠ 0 := Nat.mul_ne_zero hn (Nat.pow_pos (by decide)).ne'
  refine eq_of_forall_lt_iff fun j => ?_
  rw [lt_digitCount_iff hpos]
  rcases lt_or_ge j k with h | h
  · have hle : 10 ^ j ≤ 10 ^ k := Nat.pow_le_pow_right (by decide) h.le
    exact iff_of_true (hle.trans (Nat.le_mul_of_pos_left _ (Nat.pos_of_ne_zero hn))) (by omega)
  · obtain ⟨i, rfl⟩ := Nat.exists_eq_add_of_le h
    rw [Nat.add_comm k i, Nat.pow_add, Nat.mul_le_mul_right_iff (Nat.pow_pos (by decide)),
      Nat.add_lt_add_iff_right, lt_digitCount_iff hn]

namespace DecimalNumber

variable {d : DecimalNumber}

def IsWhole (d : DecimalNumber) : Prop := 10 ^ (-d.exponent).toNat ∣ d.digits

theorem significant_ne_nil (h : d.digits ≠ 0) : d.significant.1 ≠ [] := by
  intro hnil
  obtain ⟨z, hdigits, -⟩ := significant_eq d
  rw [hnil] at hdigits
  exact h (hdigits.trans (Nat.zero_mul _))

theorem head?_significant (h : d.digits ≠ 0) : d.significant.1.head? ≠ some '0' := by
  obtain ⟨z, hz⟩ := significant_zeros d
  have hhead := head?_toDigits h
  rwa [← Nat.toList_repr, hz, List.head?_append_of_ne_nil _ (significant_ne_nil h)] at hhead

theorem getLast?_significant (d : DecimalNumber) : d.significant.1.getLast? ≠ some '0' := by
  intro hlast
  rw [significant, List.getLast?_reverse] at hlast
  have hhead := List.head?_dropWhile_not (· == '0') (Nat.repr d.digits).toList.reverse
  rw [hlast] at hhead
  cases hhead

theorem not_ten_dvd_digitsValue {ds : List Char} {c : Char} (hc : isDigit c = true) (hzero : c ≠ '0') :
    ¬ 10 ∣ digitsValue (ds ++ [c]) := by
  have hvalue : digitsValue (ds ++ [c]) = digitsValue ds * 10 + digitValue c := by
    rw [digitsValue, List.foldl_append]
    rfl
  simp only [isDigit, Bool.and_eq_true, decide_eq_true_eq] at hc
  have hlo : 48 ≤ c.toNat := hc.1
  have hhi : c.toNat ≤ 57 := hc.2
  have hne : c.toNat ≠ 48 := fun h => hzero (Char.toNat_inj.mp h)
  have hdigit : digitValue c = c.toNat - 48 := rfl
  rw [hvalue, hdigit]
  omega

theorem not_ten_dvd_significant (h : d.digits ≠ 0) : ¬ 10 ∣ digitsValue d.significant.1 := by
  obtain ⟨ds, c, hds⟩ := List.eq_nil_or_concat d.significant.1 |>.resolve_left (significant_ne_nil h)
  have hlast := getLast?_significant d
  have hdigits := allDigits_significant d
  rw [hds, List.concat_eq_append] at hlast hdigits ⊢
  exact not_ten_dvd_digitsValue (hdigits c (by simp)) (by simpa using hlast)

theorem not_isWhole_iff (h : d.digits ≠ 0) :
    ¬ d.IsWhole ↔ d.significant.2 + 1 < d.significant.1.length := by
  obtain ⟨z, hdigits, hexponent⟩ := significant_eq d
  have hten := not_ten_dvd_significant h
  rw [IsWhole, hdigits]
  constructor
  · intro hwhole
    by_contra hlength
    have hle : (-d.exponent).toNat ≤ z := by omega
    exact hwhole (Nat.dvd_trans (Nat.pow_dvd_pow 10 hle) (Nat.dvd_mul_left _ _))
  · intro hlength hdvd
    obtain ⟨j, hj⟩ := Nat.exists_eq_add_of_lt (show z < (-d.exponent).toNat by omega)
    have hpow : 10 ^ (-d.exponent).toNat = 10 * 10 ^ j * Nat.pow 10 z := by
      rw [hj, show z + j + 1 = j + 1 + z by omega, Nat.pow_add, Nat.pow_succ']
      rfl
    rw [hpow] at hdvd
    have hquotient := Nat.dvd_of_mul_dvd_mul_right (DecimalNumber.pow_ten_pos z) hdvd
    exact hten (Nat.dvd_trans (Nat.dvd_mul_right 10 _) hquotient)

theorem eq_of_significant {d' : DecimalNumber} (he : d.exponent = d'.exponent)
    (h : d.significant = d'.significant) : d = d' := by
  obtain ⟨z, hdigits, hexponent⟩ := significant_eq d
  obtain ⟨z', hdigits', hexponent'⟩ := significant_eq d'
  rw [h] at hdigits hexponent
  obtain rfl : z = z' := by omega
  cases d
  cases d'
  cases he
  exact congrArg (mk · _) (hdigits.trans hdigits'.symm)

theorem le_decade_iff (h : d.digits ≠ 0) {a b : ℕ} (hd : d.exponent = a - b) (c : ℕ) :
    (c : ℤ) - b ≤ d.significant.2 ↔ 10 ^ c ≤ d.digits * 10 ^ a := by
  have hpos : d.digits * 10 ^ a ≠ 0 := Nat.mul_ne_zero h (Nat.pow_pos (by decide)).ne'
  have hdecade : d.significant.2 = d.exponent + digitCount d.digits - 1 := rfl
  rw [← lt_digitCount_iff hpos, digitCount_mul_pow h, hdecade, hd]
  omega

end DecimalNumber

theorem dropWhile_zeros {ds : List Char} (h : ds.head? ≠ some '0') (z : ℕ) :
    (List.replicate z '0' ++ ds).dropWhile (· == '0') = ds := by
  induction z with
  | zero =>
    cases ds with
    | nil => rfl
    | cons c ds => exact List.dropWhile_cons_of_neg (by simpa using h)
  | succ z ih => simpa [List.replicate_succ] using ih

variable {digits digits' : List Char} {decade decade' : ℤ}

theorem positional_digits (hhead : digits.head? ≠ some '0') (hfraction : decade + 1 < digits.length) :
    (positional digits decade).digits.dropWhile (· == '0') = digits ∧
      decade + 1 = digits.length - (positional digits decade).fraction.length := by
  cases decade with
  | ofNat k =>
    have hdecade : Int.ofNat k = (k : ℤ) := rfl
    have hk : k + 1 < digits.length := by omega
    have htake : (digits.take (k + 1)).length = k + 1 := by
      rw [List.length_take]
      omega
    have hdigits : (positional digits (.ofNat k)).digits = digits := by
      simp [positional, Numeral.digits, htake]
    refine ⟨?_, ?_⟩
    · rw [hdigits]
      exact dropWhile_zeros hhead 0
    · simp only [positional, List.length_drop]
      omega
  | negSucc k =>
    refine ⟨dropWhile_zeros hhead (k + 1), ?_⟩
    simp only [positional, List.length_append, List.length_replicate]
    omega

theorem positional_inj (hhead : digits.head? ≠ some '0') (hhead' : digits'.head? ≠ some '0')
    (hfraction : decade + 1 < digits.length) (hfraction' : decade' + 1 < digits'.length)
    (h : positional digits decade = positional digits' decade') : digits = digits' ∧ decade = decade' := by
  obtain ⟨hdigits, hdecade⟩ := positional_digits hhead hfraction
  obtain ⟨hdigits', hdecade'⟩ := positional_digits hhead' hfraction'
  rw [h] at hdigits hdecade
  have heq := hdigits.symm.trans hdigits'
  refine ⟨heq, ?_⟩
  rw [heq] at hdecade
  omega

theorem written_inj {n n' : Numeral} (hw : AllDigits n.whole ∧ AllDigits n.fraction) (hne : n.whole ≠ [])
    (he : n.exponent = 0) (hw' : AllDigits n'.whole ∧ AllDigits n'.fraction) (hne' : n'.whole ≠ [])
    (he' : n'.exponent = 0) (h : n.written = n'.written) : n = n' := by
  have hread := Numeral.ofText?_written hw.1 hw.2 hne he
  rw [h, Numeral.ofText?_written hw'.1 hw'.2 hne' he'] at hread
  exact (Option.some.inj hread).symm

theorem exponent_positional (digits : List Char) (decade : ℤ) : (positional digits decade).exponent = 0 := by
  cases decade <;> rfl

theorem writePositional_of_fraction (wholePoint : Bool) (h : decade + 1 < digits.length) :
    writePositional wholePoint digits decade = (positional digits decade).written := by
  cases decade with
  | ofNat k =>
    have hdecade : Int.ofNat k = (k : ℤ) := rfl
    have hfraction : digits.drop (k + 1) ≠ [] := by
      rw [ne_eq, List.drop_eq_nil_iff]
      omega
    simp [writePositional, positional, Numeral.written, hfraction]
  | negSucc k =>
    have hfraction : List.replicate k '0' ++ digits ≠ [] := by
      rw [← List.length_pos_iff, List.length_append, List.length_replicate]
      omega
    simp [writePositional, positional, Numeral.written, hfraction]

theorem fraction_positional (hne : digits ≠ []) (h : ¬ decade + 1 < digits.length) :
    (positional digits decade).fraction = [] := by
  have hpos := List.length_pos_iff.mpr hne
  cases decade with
  | negSucc k => omega
  | ofNat k =>
    have hdecade : Int.ofNat k = (k : ℤ) := rfl
    exact List.drop_of_length_le (by omega)

theorem point_mem_writePositional (digits : List Char) (decade : ℤ) :
    '.' ∈ writePositional true digits decade := by
  cases decade with
  | negSucc k => simp [writePositional]
  | ofNat k =>
    unfold writePositional
    dsimp only
    split <;> simp

theorem e_mem_writeExponent (plusSign : Bool) (digits : List Char) (decade : ℤ) :
    'e' ∈ writeExponent plusSign digits decade :=
  List.mem_append_left _ (List.mem_append_right _ (by split <;> simp))

end LinkedControls.Decimal
