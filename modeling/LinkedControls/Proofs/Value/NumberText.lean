import LinkedControls.Filter.Predicate
import LinkedControls.Proofs.Decimal.Shortest
import LinkedControls.Proofs.Value.Loose
import LinkedControls.Proofs.Value.Wire
import LinkedControls.Store.Basic

/-!
The texts of a number. A control of texts keeps the text of the number in a JSON document, filters and links
use the plain one. Which numbers have the same text in both.
-/

namespace LinkedControls

open Decimal

namespace Decimal.Magnitude

variable {m : Magnitude}

def OneText (m : Magnitude) : Prop :=
  ¬ unitsPerOne ∣ m.units ∧ hundredThousandth.units ≤ m.units ∧ ¬ m.Tied

theorem writeMagnitude_json (h : m.units ≠ 0) : Layout.json.writeMagnitude m =
    if -5 ≤ (m.shortest .even).significant.2 ∧ (m.shortest .even).significant.2 < 16 then
      writePositional true (m.shortest .even).significant.1 (m.shortest .even).significant.2
    else writeExponent true (m.shortest .even).significant.1 (m.shortest .even).significant.2 := by
  rw [Layout.writeMagnitude, if_neg h]
  exact if_congr decide_eq_true_iff rfl rfl

theorem not_digit_mem_json (m : Magnitude) :
    ∃ c ∈ Layout.json.writeMagnitude m, isDigit c = false := by
  by_cases h : m.units = 0
  · rw [Layout.writeMagnitude, if_pos h]
    exact ⟨'.', by decide, rfl⟩
  · rw [writeMagnitude_json h]
    split
    · exact ⟨'.', point_mem_writePositional _ _, rfl⟩
    · exact ⟨'e', e_mem_writeExponent _ _ _, rfl⟩

theorem numeral_of_ne (h : m.units ≠ 0) :
    m.numeral = positional (m.shortest .up).significant.1 (m.shortest .up).significant.2 := if_neg h

theorem significant_fraction_iff (tie : Tie) (h : m.units ≠ 0) :
    ¬ unitsPerOne ∣ m.units ↔
      (m.shortest tie).significant.2 + 1 < ((m.shortest tie).significant.1.length : ℤ) := by
  rw [← isWhole_shortest_iff tie, DecimalNumber.not_isWhole_iff (digits_shortest_ne_zero tie h)]

theorem fraction_numeral (h : unitsPerOne ∣ m.units) : m.numeral.fraction = [] := by
  by_cases hzero : m.units = 0
  · rw [numeral, if_pos hzero]
  · rw [numeral_of_ne hzero]
    refine fraction_positional (DecimalNumber.significant_ne_nil (digits_shortest_ne_zero .up hzero)) ?_
    exact (significant_fraction_iff .up hzero).not.mp (not_not.mpr h)

theorem not_whole_of_json_eq (h : Layout.json.writeMagnitude m = m.numeral.written) :
    ¬ unitsPerOne ∣ m.units := by
  intro hwhole
  obtain ⟨c, hmem, hc⟩ := m.not_digit_mem_json
  rw [h] at hmem
  rcases Numeral.mem_written m.allDigits_numeral.1 m.allDigits_numeral.2 hmem with hdigit | ⟨-, hfraction⟩
  · rw [hc] at hdigit
    cases hdigit
  · exact hfraction (fraction_numeral hwhole)

theorem writeMagnitude_json_of_positional (hzero : m.units ≠ 0) (h : ¬ unitsPerOne ∣ m.units)
    (hdecade : -5 ≤ (m.shortest .even).significant.2) : Layout.json.writeMagnitude m =
      (positional (m.shortest .even).significant.1 (m.shortest .even).significant.2).written := by
  rw [writeMagnitude_json hzero, if_pos ⟨hdecade, decade_shortest_lt .even h⟩,
    writePositional_of_fraction true ((significant_fraction_iff .even hzero).mp h)]

theorem le_decade_of_json_eq (hzero : m.units ≠ 0)
    (h : Layout.json.writeMagnitude m = m.numeral.written) : -5 ≤ (m.shortest .even).significant.2 := by
  by_contra hdecade
  rw [writeMagnitude_json hzero, if_neg fun hin => hdecade hin.1] at h
  have hmem := e_mem_writeExponent true (m.shortest .even).significant.1 (m.shortest .even).significant.2
  rw [h] at hmem
  rcases Numeral.mem_written m.allDigits_numeral.1 m.allDigits_numeral.2 hmem with hdigit | ⟨hpoint, -⟩
  · cases hdigit
  · cases hpoint

theorem shortest_eq_of_written_eq (hzero : m.units ≠ 0) (hwhole : ¬ unitsPerOne ∣ m.units)
    (h : (positional (m.shortest .even).significant.1 (m.shortest .even).significant.2).written =
      (positional (m.shortest .up).significant.1 (m.shortest .up).significant.2).written) :
    m.shortest .even = m.shortest .up := by
  have hdigits (tie : Tie) := allDigits_significant (m.shortest tie)
  have hnonzero (tie : Tie) := digits_shortest_ne_zero tie hzero
  have hne (tie : Tie) := DecimalNumber.significant_ne_nil (hnonzero tie)
  have hform := written_inj (allDigits_positional (hdigits .even) _) (positional_whole_ne_nil (hne .even) _)
    (exponent_positional _ _) (allDigits_positional (hdigits .up) _) (positional_whole_ne_nil (hne .up) _)
    (exponent_positional _ _) h
  obtain ⟨heq, hdecade⟩ := positional_inj (DecimalNumber.head?_significant (hnonzero .even))
    (DecimalNumber.head?_significant (hnonzero .up)) ((significant_fraction_iff .even hzero).mp hwhole)
    ((significant_fraction_iff .up hzero).mp hwhole) hform
  rw [shortest_even_eq_up_iff]
  rintro ⟨q, e, -, heven, hup, -⟩
  rw [heven, hup] at heq hdecade
  have hsame : DecimalNumber.mk q e = ⟨q + 1, e⟩ := DecimalNumber.eq_of_significant rfl (Prod.ext heq hdecade)
  simp at hsame

theorem writeMagnitude_json_eq_iff (m : Magnitude) :
    Layout.json.writeMagnitude m = Layout.plain.writeMagnitude m ↔ m.OneText := by
  rw [writeMagnitude_plain, OneText, ← shortest_even_eq_up_iff]
  constructor
  · intro h
    have hwhole := not_whole_of_json_eq h
    have hzero : m.units ≠ 0 := fun hzero => hwhole (hzero ▸ Nat.dvd_zero _)
    have hdecade := le_decade_of_json_eq hzero h
    refine ⟨hwhole, (le_decade_shortest_iff hzero).mp hdecade, ?_⟩
    rw [writeMagnitude_json_of_positional hzero hwhole hdecade, numeral_of_ne hzero] at h
    exact shortest_eq_of_written_eq hzero hwhole h
  · rintro ⟨hwhole, hleast, hshortest⟩
    have hzero : m.units ≠ 0 := fun hzero => hwhole (hzero ▸ Nat.dvd_zero _)
    rw [writeMagnitude_json_of_positional hzero hwhole ((le_decade_shortest_iff hzero).mpr hleast), hshortest,
      numeral_of_ne hzero]

def hundred : Magnitude := ⟨100 * unitsPerOne, by decide +kernel⟩

theorem shortest_hundred (tie : Tie) : hundred.shortest tie = ⟨1, 2⟩ := by
  have hdecade : hundred.decade = 2 := decade_of_whole (n := 100) (by decide) rfl
  refine shortest_of_first tie (by decide +kernel) ?_
  rw [withDigits?, hdecade]
  cases tie <;> decide +kernel

theorem ofNat_hundred : Binary64.ofNat 100 = .finite false hundred := by decide +kernel

end Decimal.Magnitude

namespace Value

variable {x : Binary64}

theorem coerce_number_text (id : String) (h : x.isFinite = true) :
    coerce id (.number x) .text = .ok (.text (Layout.json.write x)) := by
  have hfits : ¬ (number x).fits .text = true := by simp [fits, kind?]
  have hjson : toJson (.number x) = .number (.double x) := if_pos h
  have htext : looseText? (.number (.double x)) = some (Layout.json.write x) := congrArg some (if_pos h)
  rw [coerce, if_neg hfits, hjson, ofLoose_text, htext]
  rfl

theorem encode_number (h : x.isFinite = true) : Wire.encode (.number x) .number = x.toText.toList := by
  simp [Wire.encode, Wire.encodeNumber, fits, kind?, h]

theorem isUnreserved_of_isDigit {c : Char} (h : isDigit c = true) : Text.isUnreserved c = true := by
  simp only [isDigit, Bool.and_eq_true] at h
  simp [Text.isUnreserved, h.1, h.2]

theorem encode_text_toText (h : x.isFinite = true) : Wire.encode (.text x.toText) .text = x.toText.toList := by
  have hunreserved : ∀ c ∈ x.toText.toList, Text.isUnreserved c = true := by
    intro c hc
    rcases Binary64.mem_toText h hc with hdigit | rfl | rfl
    · exact isUnreserved_of_isDigit hdigit
    · decide
    · decide
  have hne : x.toText.isEmpty = false := by
    rw [← Bool.not_eq_true, String.isEmpty_iff]
    exact Layout.write_ne_empty .plain x
  simp [Wire.encode, fits, kind?, hne, Text.escapeComponent_of_forall hunreserved]

theorem write_json_eq_iff (negative : Bool) (m : Magnitude) :
    Layout.json.write (.finite negative m) = (Binary64.finite negative m).toText ↔ m.OneText := by
  rw [← Magnitude.writeMagnitude_json_eq_iff, Binary64.toText, Layout.write, Layout.write, String.ofList_inj,
    List.append_cancel_left_eq]

/-- Wherever a text stands for itself, it stands for the number too: in the tests of columns of texts and in
links. -/
def SameInUse (s : String) (x : Binary64) : Prop :=
  (∀ op caseSensitive, Predicate.condition? (.text op caseSensitive) (.text s) =
      Predicate.condition? (.text op caseSensitive) (.number x)) ∧
    Wire.encode (.text s) .text = Wire.encode (.number x) .number

theorem sameInUse_iff {s : String} (h : x.isFinite = true) : SameInUse s x ↔ s = x.toText := by
  constructor
  · rintro ⟨hcondition, -⟩
    have hnumber := hcondition ⟨.equals, false⟩ false
    simpa [Predicate.condition?, scalarText?] using hnumber
  · rintro rfl
    exact ⟨fun op caseSensitive => rfl, by rw [encode_text_toText h, encode_number h]⟩

theorem texts_of_number (id : String) (negative : Bool) (m : Magnitude) : ∃ kept,
    coerce id (.number (.finite negative m)) .text = .ok (.text kept) ∧
      scalarText? (.number (.finite negative m)) = some (Binary64.finite negative m).toText ∧
      Wire.encode (.number (.finite negative m)) .number = (Binary64.finite negative m).toText.toList ∧
      (kept = (Binary64.finite negative m).toText ↔ m.OneText) ∧
      (SameInUse kept (.finite negative m) ↔ m.OneText) := by
  refine ⟨_, coerce_number_text id rfl, rfl, encode_number rfl, write_json_eq_iff negative m, ?_⟩
  rw [sameInUse_iff rfl, write_json_eq_iff]

theorem hundred_has_two_texts :
    coerce "t" (.number (.ofNat 100)) .text = .ok (.text "100.0") ∧
      scalarText? (.number (.ofNat 100)) = some "100" ∧
      Wire.encode (.number (.ofNat 100)) .number = ['1', '0', '0'] := by
  have hfinite : (Binary64.ofNat 100).isFinite = true := Binary64.isFinite_ofNat (by decide)
  have hne : Magnitude.hundred.units ≠ 0 := by decide +kernel
  have hjson : Layout.json.write (.ofNat 100) = "100.0" := by
    rw [Magnitude.ofNat_hundred, Layout.write, Magnitude.writeMagnitude_json hne, Magnitude.shortest_hundred]
    decide
  have hplain : (Binary64.ofNat 100).toText = "100" := by
    rw [Magnitude.ofNat_hundred, Binary64.toText, Layout.write, Magnitude.writeMagnitude_plain,
      Magnitude.numeral_of_ne hne, Magnitude.shortest_hundred]
    decide
  refine ⟨?_, ?_, ?_⟩
  · rw [coerce_number_text "t" hfinite, hjson]
  · rw [scalarText?, hplain]
  · rw [encode_number hfinite, hplain]
    decide

end Value

end LinkedControls
