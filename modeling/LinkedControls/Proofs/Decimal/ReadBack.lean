import LinkedControls.Decimal.Layout
import LinkedControls.Decimal.Reader
import LinkedControls.Proofs.Decimal.Rounding
import LinkedControls.Proofs.Text.Split

/-!
The plain written form of a finite number reads back as that number. No layout leaves a number without
a text.
-/

namespace LinkedControls.Decimal

theorem digitsValue_eq (s : List Char) : digitsValue s = Nat.ofDigitChars 10 s 0 := by
  simp only [digitsValue, digitValue, Nat.ofDigitChars_eq_foldl, Nat.mul_comm]

theorem digitsValue_repr (n : Nat) : digitsValue (Nat.repr n).toList = n := by
  rw [digitsValue_eq, Nat.toList_repr, Nat.ofDigitChars_toDigits (by decide) (by decide)]

theorem isDigit_of_mem_repr {n : Nat} {c : Char} (h : c ∈ (Nat.repr n).toList) : isDigit c = true := by
  rw [Nat.toList_repr] at h
  exact Nat.isDigit_of_mem_toDigits (by decide) (by decide) h

theorem digitsValue_append_zeros (s : List Char) (z : Nat) :
    digitsValue (s ++ List.replicate z '0') = digitsValue s * Nat.pow 10 z := by
  rw [digitsValue_eq, digitsValue_eq, Nat.ofDigitChars_append, Nat.ofDigitChars_replicate_zero,
    Nat.mul_comm]
  rfl

theorem digitsValue_zeros_append (z : Nat) (s : List Char) :
    digitsValue (List.replicate z '0' ++ s) = digitsValue s := by
  rw [digitsValue_eq, digitsValue_eq, Nat.ofDigitChars_append, Nat.ofDigitChars_replicate_zero,
    Nat.mul_zero]

def AllDigits (s : List Char) : Prop := ∀ c ∈ s, isDigit c = true

theorem allDigits_replicate (n : Nat) : AllDigits (List.replicate n '0') := by
  intro c hc
  rw [List.eq_of_mem_replicate hc]
  rfl

theorem AllDigits.append {s t : List Char} (hs : AllDigits s) (ht : AllDigits t) :
    AllDigits (s ++ t) := by
  intro c hc
  rcases List.mem_append.mp hc with h | h
  · exact hs c h
  · exact ht c h

theorem stripped_zeros (s : List Char) :
    ∃ z, s = (s.reverse.dropWhile (· == '0')).reverse ++ List.replicate z '0' := by
  have hall := List.all_eq_true.mp (List.all_takeWhile (p := (· == '0')) (l := s.reverse))
  have hzeros := List.eq_replicate_of_mem fun c hc => eq_of_beq (hall c hc)
  refine ⟨(s.reverse.takeWhile (· == '0')).length, ?_⟩
  rw [← List.reverse_replicate, ← hzeros, ← List.reverse_append, List.takeWhile_append_dropWhile,
    List.reverse_reverse]

theorem significant_zeros (d : DecimalNumber) :
    ∃ z, (Nat.repr d.digits).toList = d.significant.1 ++ List.replicate z '0' :=
  stripped_zeros _

theorem significant_eq (d : DecimalNumber) : ∃ z,
    d.digits = digitsValue d.significant.1 * Nat.pow 10 z ∧
      d.significant.2 + 1 - d.significant.1.length = d.exponent + z := by
  obtain ⟨z, hz⟩ := significant_zeros d
  refine ⟨z, ?_, ?_⟩
  · rw [← digitsValue_append_zeros, ← hz, digitsValue_repr]
  · have hlength := congrArg List.length hz
    rw [List.length_append, List.length_replicate] at hlength
    simp only [DecimalNumber.significant] at hlength ⊢
    omega

theorem significant_magnitude? (d : DecimalNumber) :
    (DecimalNumber.mk (digitsValue d.significant.1)
      (d.significant.2 + 1 - d.significant.1.length)).magnitude? = d.magnitude? := by
  obtain ⟨z, hdigits, hexponent⟩ := significant_eq d
  rw [hexponent, ← DecimalNumber.magnitude?_shift, ← hdigits]

theorem allDigits_significant (d : DecimalNumber) : AllDigits d.significant.1 := by
  obtain ⟨z, hz⟩ := significant_zeros d
  intro c hc
  refine isDigit_of_mem_repr (n := d.digits) ?_
  rw [hz]
  exact List.mem_append_left _ hc

namespace Numeral

def written (n : Numeral) : List Char :=
  n.whole ++ if n.fraction.isEmpty then [] else '.' :: n.fraction

theorem ofText?_written {n : Numeral} (hw : AllDigits n.whole) (hf : AllDigits n.fraction)
    (hne : n.whole ≠ []) (he : n.exponent = 0) : ofText? n.written = some n := by
  obtain ⟨whole, fraction, exponent⟩ := n
  simp only at hw hf hne he
  subst he
  unfold ofText? written
  cases fraction with
  | nil =>
    have htake := Text.takeWhile_append_of_head hw (t := []) (by simp)
    have hdrop := Text.dropWhile_append_of_head hw (t := []) (by simp)
    simp only [List.isEmpty_nil, if_true, htake, hdrop]
    simp [hne, readExponent]
  | cons c fraction =>
    have hpoint : ∀ d ∈ ('.' :: c :: fraction).head?, isDigit d = false := by simp; decide
    have htake := Text.takeWhile_append_of_head hf (t := []) (by simp)
    have hdrop := Text.dropWhile_append_of_head hf (t := []) (by simp)
    rw [List.append_nil] at htake hdrop
    simp only [List.isEmpty_cons, Bool.false_eq_true, if_false, htake, hdrop,
      Text.takeWhile_append_of_head hw hpoint, Text.dropWhile_append_of_head hw hpoint]
    simp [readExponent]

theorem mem_written {n : Numeral} (hw : AllDigits n.whole) (hf : AllDigits n.fraction) {c : Char}
    (h : c ∈ n.written) : isDigit c = true ∨ c = '.' ∧ n.fraction ≠ [] := by
  rcases List.mem_append.mp h with hwhole | hfraction
  · exact .inl (hw c hwhole)
  · split at hfraction
    next => cases hfraction
    next hne =>
      rcases List.mem_cons.mp hfraction with rfl | hdigit
      · exact .inr ⟨rfl, by simpa using hne⟩
      · exact .inl (hf c hdigit)

end Numeral

def positional (digits : List Char) : Int → Numeral
  | .negSucc k => ⟨['0'], List.replicate k '0' ++ digits, 0⟩
  | .ofNat k =>
      ⟨digits.take (k + 1) ++ List.replicate (k + 1 - (digits.take (k + 1)).length) '0',
        digits.drop (k + 1), 0⟩

theorem writePositional_eq {digits : List Char} (hne : digits ≠ []) (decade : Int) :
    writePositional false digits decade = (positional digits decade).written := by
  cases decade with
  | ofNat k => simp [writePositional, positional, Numeral.written]
  | negSucc k => simp [writePositional, positional, Numeral.written, hne]

theorem positional_magnitude? (digits : List Char) (decade : Int) :
    (positional digits decade).decimal.magnitude? =
      (DecimalNumber.mk (digitsValue digits) (decade + 1 - digits.length)).magnitude? := by
  cases decade with
  | negSucc k =>
    have hvalue : digitsValue (['0'] ++ (List.replicate k '0' ++ digits)) = digitsValue digits := by
      rw [← List.append_assoc, ← List.replicate_one, List.replicate_append_replicate,
        digitsValue_zeros_append]
    have he : (0 : Int) - (List.replicate k '0' ++ digits).length = .negSucc k + 1 - digits.length := by
      rw [List.length_append, List.length_replicate]
      omega
    simp only [positional, Numeral.decimal, Numeral.digits, hvalue, he]
  | ofNat k =>
    by_cases hk : k + 1 ≤ digits.length
    · have htake : k + 1 - (digits.take (k + 1)).length = 0 := by
        rw [List.length_take]
        omega
      have hdigits : (positional digits (.ofNat k)).digits = digits := by
        simp only [positional, Numeral.digits, htake, List.replicate_zero, List.append_nil,
          List.take_append_drop]
      have he : (0 : Int) - (digits.drop (k + 1)).length = Int.ofNat k + 1 - digits.length := by
        rw [List.length_drop]
        simp only [Int.ofNat_eq_natCast]
        omega
      rw [Numeral.decimal, hdigits]
      exact congrArg (fun e => (DecimalNumber.mk (digitsValue digits) e).magnitude?) he
    · have htake : digits.take (k + 1) = digits := List.take_of_length_le (by omega)
      have hdrop : digits.drop (k + 1) = [] := List.drop_of_length_le (by omega)
      have he : (0 : Int) + (k + 1 - digits.length : Nat) = Int.ofNat k + 1 - digits.length := by
        simp only [Int.ofNat_eq_natCast]
        omega
      have hvalue : (positional digits (.ofNat k)).decimal =
          ⟨digitsValue digits * Nat.pow 10 (k + 1 - digits.length), 0⟩ := by
        simp [positional, Numeral.decimal, Numeral.digits, htake, hdrop, digitsValue_append_zeros]
      rw [hvalue, DecimalNumber.magnitude?_shift, he]

theorem allDigits_positional {digits : List Char} (h : AllDigits digits) (decade : Int) :
    AllDigits (positional digits decade).whole ∧ AllDigits (positional digits decade).fraction := by
  cases decade with
  | negSucc k => exact ⟨allDigits_replicate 1, (allDigits_replicate k).append h⟩
  | ofNat k =>
    refine ⟨AllDigits.append ?_ (allDigits_replicate _), ?_⟩
    · exact fun c hc => h c (List.mem_of_mem_take hc)
    · exact fun c hc => h c (List.mem_of_mem_drop hc)

theorem positional_whole_ne_nil {digits : List Char} (h : digits ≠ []) (decade : Int) :
    (positional digits decade).whole ≠ [] := by
  cases decade with
  | negSucc k => exact List.cons_ne_nil _ _
  | ofNat k => simp [positional, h]

namespace Numeral

theorem toBinary64_of_magnitude? {n : Numeral} {m : Magnitude} (negative : Bool)
    (hm : n.decimal.magnitude? = some m) (hpos : m.units ≠ 0) (he : n.exponent = 0) :
    n.toBinary64 negative = .finite negative m := by
  have hdigits : n.decimal.digits ≠ 0 := by
    intro hzero
    have hm' : (DecimalNumber.mk 0 n.decimal.exponent).magnitude? = some m := hzero ▸ hm
    rw [DecimalNumber.magnitude?_zero] at hm'
    exact hpos (congrArg Magnitude.units (Option.some.inj hm')).symm
  have hexponent : n.decimal.exponent = -(n.fraction.length : Int) := by simp [decimal, he]
  have hlength : n.digits.length = n.whole.length + n.fraction.length := List.length_append
  unfold toBinary64
  rw [if_neg hdigits, if_neg (by omega), if_neg (by omega), hm]

end Numeral

namespace Magnitude

def numeral (m : Magnitude) : Numeral :=
  if m.units = 0 then ⟨['0'], [], 0⟩
  else positional (m.shortest .up).significant.1 (m.shortest .up).significant.2

theorem significant_shortest {m : Magnitude} (h : m.units ≠ 0) :
    (m.shortest .up).significant.1 ≠ [] := by
  intro hnil
  have hm := significant_magnitude? (m.shortest .up)
  rw [shortest_magnitude?, hnil] at hm
  exact h (congrArg units (Option.some.inj ((DecimalNumber.magnitude?_zero _).symm.trans hm))).symm

theorem writeMagnitude_plain (m : Magnitude) : Layout.plain.writeMagnitude m = m.numeral.written := by
  unfold Layout.writeMagnitude numeral
  by_cases h : m.units = 0
  · rw [if_pos h, if_pos h]
    rfl
  · rw [if_neg h, if_neg h, ← writePositional_eq (significant_shortest h)]
    rfl

theorem exponent_numeral (m : Magnitude) : m.numeral.exponent = 0 := by
  unfold numeral
  split
  · rfl
  · cases (m.shortest .up).significant.2 <;> rfl

theorem whole_numeral_ne_nil (m : Magnitude) : m.numeral.whole ≠ [] := by
  unfold numeral
  split
  · exact List.cons_ne_nil _ _
  · next h => exact positional_whole_ne_nil (significant_shortest h) _

theorem allDigits_numeral (m : Magnitude) :
    AllDigits m.numeral.whole ∧ AllDigits m.numeral.fraction := by
  unfold numeral
  split
  · exact ⟨allDigits_replicate 1, allDigits_replicate 0⟩
  · exact allDigits_positional (allDigits_significant _) _

theorem toBinary64_numeral (negative : Bool) (m : Magnitude) :
    m.numeral.toBinary64 negative = .finite negative m := by
  by_cases h : m.units = 0
  · have hm : m = .zero := by
      cases m
      cases h
      rfl
    subst hm
    rfl
  · refine Numeral.toBinary64_of_magnitude? negative ?_ h m.exponent_numeral
    rw [numeral, if_neg h, positional_magnitude?, significant_magnitude?, shortest_magnitude?]

end Magnitude

namespace Binary64

def sign (negative : Bool) : List Char := if negative then ['-'] else []

theorem toText_finite (negative : Bool) (m : Magnitude) :
    (Binary64.finite negative m).toText.toList = sign negative ++ m.numeral.written := by
  rw [← m.writeMagnitude_plain]
  exact String.toList_ofList

theorem exists_written_numeral (m : Magnitude) :
    ∃ c rest, m.numeral.written = c :: rest ∧ isDigit c = true := by
  obtain ⟨c, rest, hw⟩ := List.exists_cons_of_ne_nil m.whole_numeral_ne_nil
  refine ⟨c, _, congrArg (· ++ _) hw, ?_⟩
  exact m.allDigits_numeral.1 c (hw ▸ List.mem_cons_self)

theorem splitSign_sign (negative : Bool) {c : Char} (hc : isDigit c = true) (rest : List Char) :
    splitSign (sign negative ++ c :: rest) = (negative, c :: rest) := by
  cases negative with
  | true => rfl
  | false =>
    have hminus : c ≠ '-' := by rintro rfl; exact absurd hc (by decide)
    have hplus : c ≠ '+' := by rintro rfl; exact absurd hc (by decide)
    simp [sign, splitSign, hminus, hplus]

theorem toLower_of_isDigit {c : Char} (h : isDigit c = true) : c.toLower = c := by
  simp only [isDigit, Bool.and_eq_true, decide_eq_true_eq] at h
  have hval : c.val ≤ '9'.val := h.2
  refine dif_neg fun hupper => ?_
  exact absurd (Nat.le_trans hupper.1 hval) (by decide)

theorem asciiLower_ne {c : Char} (hc : isDigit c = true) (rest word : List Char)
    (hword : word.all (fun d => !isDigit d) = true) : Text.asciiLower (c :: rest) ≠ word := by
  rintro rfl
  have hlower := List.all_eq_true.mp hword c.toLower List.mem_cons_self
  rw [toLower_of_isDigit hc, hc] at hlower
  cases hlower

theorem ofText?_toText {x : Binary64} (h : x.isFinite = true) :
    Binary64.ofText? x.toText.toList = some x := by
  cases x with
  | nan => cases h
  | infinity => cases h
  | finite negative m =>
    obtain ⟨c, rest, hw, hc⟩ := exists_written_numeral m
    have hread : Numeral.ofText? (c :: rest) = some m.numeral := by
      rw [← hw]
      exact Numeral.ofText?_written m.allDigits_numeral.1 m.allDigits_numeral.2
        m.whole_numeral_ne_nil m.exponent_numeral
    have hinf := asciiLower_ne hc rest "inf".toList (by decide)
    have hinfinity := asciiLower_ne hc rest "infinity".toList (by decide)
    have hnan := asciiLower_ne hc rest "nan".toList (by decide)
    rw [toText_finite, hw]
    unfold Binary64.ofText?
    simp only [splitSign_sign negative hc rest]
    rw [if_neg (not_or.mpr ⟨hinf, hinfinity⟩), if_neg hnan, hread, Option.map_some,
      m.toBinary64_numeral]

theorem mem_toText {x : Binary64} (h : x.isFinite = true) {c : Char} (hc : c ∈ x.toText.toList) :
    isDigit c = true ∨ c = '.' ∨ c = '-' := by
  cases x with
  | nan => cases h
  | infinity => cases h
  | finite negative m =>
    rw [toText_finite] at hc
    rcases List.mem_append.mp hc with hsign | hwritten
    · cases negative with
      | true => exact .inr (.inr (List.mem_singleton.mp hsign))
      | false => cases hsign
    · rcases Numeral.mem_written m.allDigits_numeral.1 m.allDigits_numeral.2 hwritten with hdigit | ⟨rfl, -⟩
      · exact .inl hdigit
      · exact .inr (.inl rfl)

theorem isBlank_of_isDigit {c : Char} (h : isDigit c = true) : Text.isBlank c = false := by
  simp only [isDigit, Bool.and_eq_true, decide_eq_true_eq] at h
  have hlow : 48 ≤ c.toNat := h.1
  have hhigh : c.toNat ≤ 57 := h.2
  simp [Text.isBlank]
  omega

theorem finiteOfText?_toText {x : Binary64} (h : x.isFinite = true) :
    Binary64.finiteOfText? x.toText.toList = some x := by
  have hblank : ∀ c ∈ x.toText.toList, Text.isBlank c = false := by
    intro c hc
    rcases mem_toText h hc with hd | rfl | rfl
    · exact isBlank_of_isDigit hd
    · decide
    · decide
  rw [finiteOfText?, Text.trim_of_forall hblank, ofText?_toText h]
  exact Option.filter_some_pos h

end Binary64

theorem writePositional_ne_nil (wholePoint : Bool) (digits : List Char) (decade : Int) :
    writePositional wholePoint digits decade ≠ [] := by
  cases decade with
  | negSucc k => exact List.cons_ne_nil _ _
  | ofNat k =>
    intro hnil
    obtain ⟨hdigits, -⟩ := List.append_eq_nil_iff.mp hnil
    obtain ⟨hwhole, hpadding⟩ := List.append_eq_nil_iff.mp hdigits
    rw [hwhole] at hpadding
    simp at hpadding

theorem writeExponent_ne_nil (plusSign : Bool) (digits : List Char) (decade : Int) :
    writeExponent plusSign digits decade ≠ [] := by
  intro hnil
  obtain ⟨hmark, -⟩ := List.append_eq_nil_iff.mp hnil
  have hmark := (List.append_eq_nil_iff.mp hmark).2
  split at hmark <;> cases hmark

theorem Layout.write_ne_empty (layout : Layout) (x : Binary64) : layout.write x ≠ "" := by
  cases x with
  | nan => simp [write]
  | infinity negative => cases negative <;> simp [write]
  | finite negative m =>
    have hmagnitude : layout.writeMagnitude m ≠ [] := by
      unfold writeMagnitude
      split
      · split <;> exact List.cons_ne_nil _ _
      · exact iteInduction (motive := (· ≠ [])) (fun _ => writePositional_ne_nil _ _ _)
          fun _ => writeExponent_ne_nil _ _ _
    simp [write, hmagnitude]

end LinkedControls.Decimal
