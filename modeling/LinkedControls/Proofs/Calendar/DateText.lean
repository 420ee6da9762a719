import LinkedControls.Calendar.DateText
import LinkedControls.Proofs.Decimal.ReadBack

namespace LinkedControls.Calendar

open Decimal

theorem allDigits_repr (n : Nat) : AllDigits (Nat.repr n).toList := fun _ => isDigit_of_mem_repr

theorem allDigits_padded (places n : Nat) : AllDigits (padded places n) :=
  (allDigits_replicate _).append (allDigits_repr n)

theorem digitsValue_padded (places n : Nat) : digitsValue (padded places n) = n := by
  rw [padded, digitsValue_zeros_append, digitsValue_repr]

theorem length_padded (places n : Nat) :
    (padded places n).length = max places (Nat.repr n).toList.length := by
  simp only [padded, List.length_append, List.length_replicate]
  omega

theorem length_padded_of_lt {places n : Nat} (hp : 0 < places) (hn : n < Nat.pow 10 places) :
    (padded places n).length = places := by
  have hrepr : (Nat.repr n).toList.length ≤ places := by
    rw [Nat.toList_repr]
    exact (Nat.length_toDigits_le_iff (by decide) hp).mpr hn
  rw [length_padded]
  omega

theorem readDigits_append {ds rest : List Char} {width : Nat} (hds : AllDigits ds) (hne : ds ≠ [])
    (hwidth : ds.length ≤ width) (hrest : ∀ c ∈ rest.head?, isDigit c = false) :
    readDigits width (ds ++ rest) = some (digitsValue ds, rest) := by
  have htake : ((ds ++ rest).takeWhile isDigit).take width = ds := by
    rw [Text.takeWhile_append_of_head hds hrest, List.take_of_length_le hwidth]
  simp [readDigits, htake, hne]

theorem padded_ne_nil (places n : Nat) : padded places n ≠ [] := by
  have hrepr : (Nat.repr n).toList ≠ [] := by
    rw [Nat.toList_repr]
    exact Nat.toDigits_ne_nil
  exact List.append_ne_nil_of_right_ne_nil _ hrepr

theorem readDigits_padded {places n width : Nat} {rest : List Char}
    (hwidth : (padded places n).length ≤ width) (hrest : ∀ c ∈ rest.head?, isDigit c = false) :
    readDigits width (padded places n ++ rest) = some (n, rest) := by
  rw [readDigits_append (allDigits_padded places n) (padded_ne_nil places n) hwidth hrest,
    digitsValue_padded]

theorem splits_padded (places n : Nat) :
    ∃ c ds, padded places n = c :: ds ∧ isDigit c = true := by
  obtain ⟨c, ds, hds⟩ := List.exists_cons_of_ne_nil (padded_ne_nil places n)
  exact ⟨c, ds, hds, allDigits_padded places n c (hds ▸ List.mem_cons_self)⟩

theorem trimStart_padded (places n : Nat) (rest : List Char) :
    Text.trimStart (padded places n ++ rest) = padded places n ++ rest := by
  obtain ⟨c, ds, hds, hc⟩ := splits_padded places n
  rw [hds]
  exact Text.trimStart_cons (Binary64.isBlank_of_isDigit hc) _

theorem readField_padded {lo hi n : Nat} (hlo : lo ≤ n) (hhi : n ≤ hi) (hn : n < 100) (rest : List Char)
    (hrest : ∀ c ∈ rest.head?, isDigit c = false) :
    readField lo hi (padded 2 n ++ rest) = some (n, rest) := by
  have hwidth : (padded 2 n).length ≤ 2 := Nat.le_of_eq (length_padded_of_lt (by decide) hn)
  have hbounds : (decide (lo ≤ n) && decide (n ≤ hi)) = true := by simp [hlo, hhi]
  rw [readField, trimStart_padded, readDigits_padded hwidth hrest]
  show (if (decide (lo ≤ n) && decide (n ≤ hi)) = true then some () else none).bind
    (fun _ => some (n, rest)) = some (n, rest)
  rw [if_pos hbounds]
  rfl

theorem readYear_yearText (year : Int) {rest : List Char}
    (hrest : ∀ c ∈ rest.head?, isDigit c = false) :
    readYear (Date.yearText year ++ rest) = some (year, rest) := by
  have hlength (n : Nat) : (padded 4 n).length ≤ (padded 4 n ++ rest).length := by
    rw [List.length_append]
    exact Nat.le_add_right _ _
  by_cases hplain : 0 ≤ year ∧ year ≤ 9999
  · obtain ⟨c, ds, hds, hc⟩ := splits_padded 4 year.toNat
    have hminus : c ≠ '-' := by rintro rfl; exact absurd hc (by decide)
    have hplus : c ≠ '+' := by rintro rfl; exact absurd hc (by decide)
    have hwidth : (padded 4 year.toNat).length ≤ 4 :=
      Nat.le_of_eq (length_padded_of_lt (by decide) (show year.toNat < 10000 by omega))
    have hread := readDigits_padded hwidth hrest
    have htext : Date.yearText year = padded 4 year.toNat := if_pos hplain
    have hvalue : (year.toNat : Int) = year := by omega
    rw [readYear, htext, trimStart_padded]
    rw [hds, List.cons_append] at hread ⊢
    split
    · next h => exact absurd (List.cons.inj h).1 hminus
    · next h => exact absurd (List.cons.inj h).1 hplus
    · simp only [hread, Option.map_some, hvalue]
  · by_cases hneg : year < 0
    · have htext : Date.yearText year = '-' :: padded 4 year.natAbs := by
        simp [Date.yearText, hplain, hneg]
      have hread := readDigits_padded (hlength year.natAbs) hrest
      have hvalue : -(year.natAbs : Int) = year := by omega
      rw [readYear, htext, List.cons_append, Text.trimStart_cons (by decide)]
      simp only [hread, Option.map_some, hvalue]
    · have htext : Date.yearText year = '+' :: padded 4 year.natAbs := by
        simp [Date.yearText, hplain, hneg]
      have hread := readDigits_padded (hlength year.natAbs) hrest
      have hvalue : (year.natAbs : Int) = year := by omega
      rw [readYear, htext, List.cons_append, Text.trimStart_cons (by decide)]
      simp only [hread, Option.map_some, hvalue]

theorem bounds_of_isDay {year : Int} {month day : Nat} (h : isDay year month day = true) :
    1 ≤ month ∧ month ≤ 12 ∧ 1 ≤ day ∧ day ≤ 31 := by
  have hmonth : daysInMonth year month ≤ 31 := by
    unfold daysInMonth
    split <;> (try split) <;> decide
  simp only [isDay, Bool.and_eq_true, decide_eq_true_eq] at h
  omega

theorem toChars_eq (d : Date) :
    d.toChars = Date.yearText d.year ++ '-' :: (padded 2 d.month ++ '-' :: padded 2 d.day) := by
  simp [Date.toChars]

theorem readDate_toChars (d : Date) : readDate d.toChars = some (d, []) := by
  obtain ⟨hm1, hm12, hd1, hd31⟩ := bounds_of_isDay d.isDay
  have hdate : Date.of? d.year d.month d.day = some d := dif_pos d.isDay
  have hdash (rest : List Char) : ∀ c ∈ ('-' :: rest).head?, isDigit c = false := by
    simp
    decide
  have hyear := readYear_yearText d.year (hdash (padded 2 d.month ++ '-' :: padded 2 d.day))
  have hmonth := readField_padded hm1 hm12 (by omega) _ (hdash (padded 2 d.day))
  have hday := readField_padded hd1 hd31 (by omega) [] (by simp)
  rw [List.append_nil] at hday
  simp [readDate, toChars_eq, hyear, hmonth, hday, readChar, hdate]

theorem mem_yearText {year : Int} {c : Char} (h : c ∈ Date.yearText year) :
    isDigit c = true ∨ c = '-' ∨ c = '+' := by
  unfold Date.yearText at h
  split at h
  · exact .inl (allDigits_padded _ _ c h)
  · rcases List.mem_cons.mp h with rfl | h
    · split
      · exact .inr (.inl rfl)
      · exact .inr (.inr rfl)
    · exact .inl (allDigits_padded _ _ c h)

theorem mem_toChars {d : Date} {c : Char} (h : c ∈ d.toChars) :
    isDigit c = true ∨ c = '-' ∨ c = '+' := by
  rw [toChars_eq] at h
  simp only [List.mem_append, List.mem_cons] at h
  rcases h with h | rfl | h | rfl | h
  · exact mem_yearText h
  · exact .inr (.inl rfl)
  · exact .inl (allDigits_padded _ _ c h)
  · exact .inr (.inl rfl)
  · exact .inl (allDigits_padded _ _ c h)

theorem ofText?_toChars (d : Date) : Date.ofText? d.toChars = some d := by
  have hblank : ∀ c ∈ d.toChars, Text.isBlank c = false := by
    intro c hc
    rcases mem_toChars hc with hd | rfl | rfl
    · exact Binary64.isBlank_of_isDigit hd
    · decide
    · decide
  rw [Date.ofText?, Text.trim_of_forall hblank, dayOfText?, readDate_toChars]
  rfl

end LinkedControls.Calendar
