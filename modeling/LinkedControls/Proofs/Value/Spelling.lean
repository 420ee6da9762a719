import LinkedControls.Proofs.Value.Loose
import LinkedControls.Proofs.Value.PercentFree
import LinkedControls.Proofs.Value.Reading

/-!
Spellings of values. What any text is read as can be written, and what is then written is read as the same
value. Texts that differ only in which characters are percent-encoded are read as the same value, but
for a range that begins with its mark: it is taken as it stands, and a percent sign in it makes it
unreadable.
-/

namespace LinkedControls

open Text

namespace Wire

theorem decode_settles (raw : List Char) (k : Kind) :
    let v := decode raw k
    (v = .null ∨ v.kind? = some k) ∧ v.isFinite = true ∧ decode (encode v k) k = v ∧
      ∀ w, (∃ raw', decode raw' k = w) ↔ (w = .null ∨ w.kind? = some k) ∧ w.isFinite = true := by
  intro v
  have hfits : v.fits k = true := fits_decode raw k
  have hfinite : v.isFinite = true := isFinite_decode raw k
  refine ⟨Value.fits_iff.mp hfits, hfinite, (decode_encode_eq_self_iff v k).mpr ⟨hfits, hfinite⟩,
    fun w => ⟨?_, ?_⟩⟩
  · rintro ⟨raw', rfl⟩
    exact ⟨Value.fits_iff.mp (fits_decode raw' k), isFinite_decode raw' k⟩
  · rintro ⟨hkind, hw⟩
    exact ⟨encode w k, (decode_encode_eq_self_iff w k).mpr ⟨Value.fits_iff.mpr hkind, hw⟩⟩

variable {α : Type} {read : List Char → Option α} {raw raw' s t : List Char} {k : Kind}

def openRange? (read : List Char → Option α) (s : List Char) : Option (Range α) := do
  let (lower, upper) ← splitFirst ',' s
  let lower ← afterLead lowerMark (trim lower)
  let upper ← afterLead upperMark (trim upper)
  return ⟨← decodeBound? read lower, ← decodeBound? read upper⟩

theorem decodeRange?_of_marked (h : lowerMark <+: raw) :
    decodeRange? read raw = openRange? read raw := by
  rw [decodeRange?, if_pos (List.isPrefixOf_iff_prefix.mpr h)]
  rfl

theorem decodeRange?_of_not_marked (h : ¬ lowerMark <+: raw) :
    decodeRange? read raw = (unescapeComponent? raw).bind (openRange? read) := by
  rw [decodeRange?, if_neg (mt List.isPrefixOf_iff_prefix.mp h)]
  rfl

theorem decodeBound?_of_percent (hread : ∀ s, '%' ∈ s → read s = none) (h : '%' ∈ s) :
    decodeBound? read s = none := by
  have hne : s ≠ [] := List.ne_nil_of_mem h
  simp [decodeBound?, hread s h, hne]

theorem not_percent_of_side (hread : ∀ s, '%' ∈ s → read s = none) {mark : List Char}
    (hmark : '%' ∉ mark) {bound : Option α} (hs : afterLead mark (trim s) = some t)
    (ht : decodeBound? read t = some bound) : '%' ∉ s := by
  intro h
  have htrim := mem_trim_of_mem h (by decide)
  rw [of_afterLead hs] at htrim
  have hmem : '%' ∈ t := (List.mem_append.mp htrim).resolve_left hmark
  rw [decodeBound?_of_percent hread hmem] at ht
  cases ht

theorem openRange?_of_percent (hread : ∀ s, '%' ∈ s → read s = none) (h : '%' ∈ s) :
    openRange? read s = none := by
  rw [Option.eq_none_iff_forall_ne_some]
  intro r hr
  obtain ⟨⟨lower, upper⟩, hsplit, hr⟩ := Option.bind_eq_some_iff.mp hr
  obtain ⟨lo, hlo, hr⟩ := Option.bind_eq_some_iff.mp hr
  obtain ⟨hi, hhi, hr⟩ := Option.bind_eq_some_iff.mp hr
  obtain ⟨first, hfirst, hr⟩ := Option.bind_eq_some_iff.mp hr
  obtain ⟨last, hlast, -⟩ := Option.bind_eq_some_iff.mp hr
  obtain ⟨rfl, -⟩ := of_splitFirst hsplit
  rcases List.mem_append.mp h with h | h
  · exact not_percent_of_side hread (by decide) hlo hfirst h
  · exact not_percent_of_side hread (by decide) hhi hlast
      ((List.mem_cons.mp h).resolve_left (by decide))

structure HalfEscaped (raw : List Char) (k : Kind) : Prop where
  isRange : k.isRange = true
  marked : lowerMark <+: raw
  percent : '%' ∈ raw

theorem content_of_halfEscaped (h : HalfEscaped raw k) : content raw k = .null := by
  obtain ⟨hrange, hmarked, hpercent⟩ := h
  cases k with
  | numberRange =>
    rw [content, decodeRange?_of_marked hmarked,
      openRange?_of_percent (fun _ => Decimal.Binary64.finiteOfText?_of_percent) hpercent]
    rfl
  | dateRange =>
    rw [content, decodeRange?_of_marked hmarked,
      openRange?_of_percent (fun _ => Calendar.Date.ofText?_of_percent) hpercent]
    rfl
  | _ => cases hrange

theorem decodeRange?_of_not_halfEscaped (hrange : k.isRange = true) (h : ¬ HalfEscaped raw k) :
    decodeRange? read raw = (unescapeComponent? raw).bind (openRange? read) := by
  by_cases hmarked : lowerMark <+: raw
  · have hpercent : '%' ∉ raw := fun hp => h ⟨hrange, hmarked, hp⟩
    rw [decodeRange?_of_marked hmarked, unescapeComponent?_of_not_mem hpercent, Option.bind_some]
  · exact decodeRange?_of_not_marked hmarked

theorem content_congr (hk : k ≠ .list) (h : unescapeComponent? raw = unescapeComponent? raw')
    (hraw : ¬ HalfEscaped raw k) (hraw' : ¬ HalfEscaped raw' k) : content raw k = content raw' k := by
  cases k with
  | list => exact absurd rfl hk
  | numberRange =>
    rw [content, content, decodeRange?_of_not_halfEscaped rfl hraw,
      decodeRange?_of_not_halfEscaped rfl hraw', h]
  | dateRange =>
    rw [content, content, decodeRange?_of_not_halfEscaped rfl hraw,
      decodeRange?_of_not_halfEscaped rfl hraw', h]
  | _ => simp only [content, decodeScalar?, h]

theorem content_of_invalid (hk : k ≠ .list) (h : unescapeComponent? raw = none) :
    content raw k = .null := by
  by_cases hraw : HalfEscaped raw k
  · exact content_of_halfEscaped hraw
  · cases k with
    | list => exact absurd rfl hk
    | numberRange =>
      rw [content, decodeRange?_of_not_halfEscaped rfl hraw, h]
      rfl
    | dateRange =>
      rw [content, decodeRange?_of_not_halfEscaped rfl hraw, h]
      rfl
    | _ =>
      simp only [content, decodeScalar?, h]
      rfl

theorem not_halfEscaped_escapeComponent (t : List Char) (k : Kind) :
    ¬ HalfEscaped (escapeComponent t) k := fun h =>
  not_mem_escapeComponent (c := ':') (by decide) (by decide) t (h.marked.subset (by decide))

theorem not_isToken_escapeComponent (hraw : raw ≠ []) (h : unescapeComponent? raw = some t) :
    ¬ IsToken (escapeComponent t) := by
  refine not_isToken_of_not_mem (fun hnil => hraw ?_) (tilde_not_mem_escapeComponent t)
  rw [escapeComponent_eq_nil.mp hnil] at h
  exact unescapeComponent?_eq_nil.mp h

theorem decode_spelled (hk : k ≠ .list) (hraw : ¬ IsToken raw) (h : unescapeComponent? raw = some t) :
    (HalfEscaped raw k → decode raw k = .null) ∧
      (¬ HalfEscaped raw k → decode raw k = decode (escapeComponent t) k) := by
  have hne : raw ≠ [] := fun hnil => hraw (.inr (.inl hnil))
  have htoken := not_isToken_escapeComponent hne h
  have hsame : unescapeComponent? raw = unescapeComponent? (escapeComponent t) := by
    rw [h, unescapeComponent?_escapeComponent]
  rw [decode_eq_content hraw, decode_eq_content htoken]
  exact ⟨content_of_halfEscaped,
    fun hhalf => content_congr hk hsame hhalf (not_halfEscaped_escapeComponent t k)⟩

theorem respelled_alike_iff (hk : k ≠ .list) (hraw : ¬ IsToken raw) (hraw' : ¬ IsToken raw')
    (h : unescapeComponent? raw = unescapeComponent? raw') :
    (k.isRange = false → decode raw k = decode raw' k) ∧
      (decode raw k = decode raw' k ↔
        ((HalfEscaped raw k ↔ HalfEscaped raw' k) ∨
          ∀ t, unescapeComponent? raw = some t → decode (escapeComponent t) k = .null)) := by
  have hiff : decode raw k = decode raw' k ↔
      ((HalfEscaped raw k ↔ HalfEscaped raw' k) ∨
        ∀ t, unescapeComponent? raw = some t → decode (escapeComponent t) k = .null) := by
    cases ht : unescapeComponent? raw with
    | none =>
      rw [decode_eq_content hraw, decode_eq_content hraw', content_of_invalid hk ht,
        content_of_invalid hk (h ▸ ht)]
      simp
    | some t =>
      obtain ⟨hlost, hkept⟩ := decode_spelled hk hraw ht
      obtain ⟨hlost', hkept'⟩ := decode_spelled hk hraw' (h ▸ ht)
      by_cases hhalf : HalfEscaped raw k
      · by_cases hhalf' : HalfEscaped raw' k
        · simp [hlost hhalf, hlost' hhalf', hhalf, hhalf']
        · simp [hlost hhalf, hkept' hhalf', hhalf, hhalf', eq_comm]
      · by_cases hhalf' : HalfEscaped raw' k
        · simp [hkept hhalf, hlost' hhalf', hhalf, hhalf']
        · simp [hkept hhalf, hkept' hhalf', hhalf, hhalf']
  refine ⟨fun hrange => hiff.mpr (.inl ?_), hiff⟩
  have hnot (raw : List Char) : ¬ HalfEscaped raw k := fun hhalf =>
    absurd hhalf.isRange (by simp [hrange])
  exact iff_of_false (hnot raw) (hnot raw')

theorem spells_of_bytes (ht : '%' ∉ t) (h : componentBytes raw = t.flatMap String.utf8EncodeChar) :
    unescapeComponent? raw = unescapeComponent? t := by
  rw [unescapeComponent?_of_not_mem ht, unescapeComponent?_eq_some, h]

theorem respelled_alike_iff_escapedMark :
    let raw := "min%3A1,max%3a2".toList
    let raw' := "min:1,max:2".toList
    ¬ IsToken raw ∧ ¬ IsToken raw' ∧ unescapeComponent? raw = unescapeComponent? raw' ∧
      decode raw .numberRange = decode raw' .numberRange ∧ decode raw' .numberRange ≠ .null := by
  intro raw raw'
  have hraw : ¬ IsToken raw := not_isToken_of_not_mem (by decide) (by decide)
  have hraw' : ¬ IsToken raw' := not_isToken_of_not_mem (by decide) (by decide)
  have hsame : unescapeComponent? raw = unescapeComponent? raw' :=
    spells_of_bytes (by decide) (by decide)
  have hhalf : ¬ HalfEscaped raw .numberRange := fun h => absurd h.marked (by decide)
  have hhalf' : ¬ HalfEscaped raw' .numberRange := fun h => absurd h.percent (by decide)
  have halike := (respelled_alike_iff (k := .numberRange) (by decide) hraw hraw' hsame).2
  exact ⟨hraw, hraw', hsame, halike.mpr (.inl (iff_of_false hhalf hhalf')), by decide +kernel⟩

theorem escapedComma_loses_range :
    let raw := "min:1%2Cmax:2".toList
    let raw' := "min:1,max:2".toList
    ¬ IsToken raw ∧ ¬ IsToken raw' ∧ unescapeComponent? raw = unescapeComponent? raw' ∧
      decode raw .numberRange = .null ∧
      decode raw' .numberRange = .numberRange ⟨some (.ofNat 1), some (.ofNat 2)⟩ := by
  intro raw raw'
  have hsame : unescapeComponent? raw = unescapeComponent? raw' :=
    spells_of_bytes (by decide) (by decide)
  exact ⟨not_isToken_of_not_mem (by decide) (by decide),
    not_isToken_of_not_mem (by decide) (by decide), hsame, by decide +kernel, by decide +kernel⟩

end Wire

end LinkedControls
