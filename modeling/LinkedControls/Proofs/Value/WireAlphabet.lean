import LinkedControls.Proofs.Value.Wire

/-!
The characters of written values. Those that separate the pairs of a link, and a key from its value, are
not among them.
-/

namespace LinkedControls

open Decimal Calendar Text

namespace Wire

variable {α : Type} {write : α → Option (List Char)}

def IsWireCharacter (c : Char) : Prop := isUnreserved c = true ∨ c ∈ ['%', '~', ',', ':', '+']

instance (c : Char) : Decidable (IsWireCharacter c) := inferInstanceAs (Decidable (_ ∨ _))

theorem isWireCharacter_of_isDigit {c : Char} (h : isDigit c = true) : IsWireCharacter c := by
  refine .inl ?_
  simp only [isDigit] at h
  simp [isUnreserved, h]

theorem isWireCharacter_of_escapeComponent {s : List Char} {c : Char} (h : c ∈ escapeComponent s) :
    IsWireCharacter c := by
  rcases mem_escapeComponent h with h | rfl
  · exact .inl h
  · decide

theorem isWireCharacter_of_encodeNumber {x : Binary64} {s : List Char} (h : encodeNumber x = some s)
    {c : Char} (hc : c ∈ s) : IsWireCharacter c := by
  obtain ⟨hx, rfl⟩ : x.isFinite = true ∧ x.toText.toList = s := by simpa [encodeNumber] using h
  rcases Binary64.mem_toText hx hc with hd | rfl | rfl
  · exact isWireCharacter_of_isDigit hd
  · decide
  · decide

theorem isWireCharacter_of_toChars {d : Date} {c : Char} (h : c ∈ d.toChars) :
    IsWireCharacter c := by
  rcases mem_toChars h with hd | rfl | rfl
  · exact isWireCharacter_of_isDigit hd
  · decide
  · decide

theorem isWireCharacter_of_encodeRange {r : Range α}
    (h : ∀ a s, write a = some s → ∀ c ∈ s, IsWireCharacter c) {c : Char}
    (hc : c ∈ encodeRange write r) : IsWireCharacter c := by
  have hmark : ∀ c ∈ lowerMark ++ ',' :: upperMark, IsWireCharacter c :=
    List.all_iff_forall_prop.mp (by decide)
  have hbound {b : Option α} (hc : c ∈ encodeBound write b) : IsWireCharacter c := by
    obtain ⟨a, s, hs, hc⟩ := mem_encodeBound hc
    exact h a s hs c hc
  simp only [encodeRange_eq, List.mem_append, List.mem_cons] at hc hmark
  rcases hc with (hc | hc) | hc | hc | hc
  · exact hmark c (.inl hc)
  · exact hbound hc
  · exact hmark c (.inr (.inl hc))
  · exact hmark c (.inr (.inr hc))
  · exact hbound hc

theorem isWireCharacter_of_encodeItem {item : String} {c : Char} (h : c ∈ encodeItem item) :
    IsWireCharacter c := by
  have htoken : ∀ c ∈ emptyItemToken, IsWireCharacter c := List.all_iff_forall_prop.mp (by decide)
  unfold encodeItem at h
  split at h
  · exact htoken c h
  · exact isWireCharacter_of_escapeComponent h

theorem isWireCharacter_of_mem_encode {v : Value} {k : Kind} {c : Char} (h : c ∈ encode v k) :
    IsWireCharacter c := by
  have hnull : ∀ c ∈ nullToken, IsWireCharacter c := List.all_iff_forall_prop.mp (by decide)
  have hempty : ∀ c ∈ emptyToken, IsWireCharacter c := List.all_iff_forall_prop.mp (by decide)
  unfold encode at h
  split at h
  · exact hnull c h
  · cases v with
    | null => exact hnull c h
    | text s =>
      dsimp only at h
      split at h
      · exact hempty c h
      · exact isWireCharacter_of_escapeComponent h
    | number x =>
      dsimp only at h
      cases hx : encodeNumber x with
      | none => exact hnull c (by simpa [hx] using h)
      | some s => exact isWireCharacter_of_encodeNumber hx (by simpa [hx] using h)
    | boolean b =>
      have hbool : ∀ c ∈ ['t', 'r', 'u', 'e'] ++ ['f', 'a', 'l', 's', 'e'], IsWireCharacter c :=
        List.all_iff_forall_prop.mp (by decide)
      cases b with
      | false => exact hbool c (List.mem_append_right _ h)
      | true => exact hbool c (List.mem_append_left _ h)
    | date d => exact isWireCharacter_of_toChars h
    | dateRange r =>
      refine isWireCharacter_of_encodeRange (fun d s hs c hc => ?_) h
      cases hs
      exact isWireCharacter_of_toChars hc
    | numberRange r =>
      exact isWireCharacter_of_encodeRange (fun x s hs c hc => isWireCharacter_of_encodeNumber hs hc) h
    | list items =>
      dsimp only at h
      split at h
      · exact hempty c h
      · rcases mem_join h with hc | ⟨piece, hp, hc⟩
        · obtain rfl := List.mem_singleton.mp hc
          decide
        · obtain ⟨item, -, rfl⟩ := List.mem_map.mp hp
          exact isWireCharacter_of_encodeItem hc

end Wire

end LinkedControls
