import LinkedControls.Proofs.Value.Wire

/-!
What any text in a link is read as: a finite value of the kind that is asked for, whose texts all stand
somewhere in the text that the percent signs of the whole stand for.
-/

namespace LinkedControls

open Decimal Calendar Text

namespace Value

def texts : Value → List String
  | .text s => [s]
  | .list items => items
  | _ => []

theorem ofBound_cases {α : Type} {form : α → Value} {b : Option α} {P : Value → Prop}
    (hnull : P .null) (h : ∀ a, b = some a → P (form a)) : P (ofBound form b) := by
  cases b with
  | none => exact hnull
  | some a => exact h a rfl

end Value

namespace Wire

theorem eq_null_or_empty_of_isToken {raw : List Char} (h : IsToken raw) (k : Kind) :
    decode raw k = .null ∨ decode raw k = .text "" ∧ k = .text ∨
      decode raw k = .list [] ∧ k = .list := by
  rcases h with rfl | rfl | rfl
  · exact .inl (decode_nullToken k)
  · exact .inl rfl
  · cases k <;> decide

theorem fits_decode (raw : List Char) (k : Kind) : (decode raw k).fits k = true := by
  by_cases h : IsToken raw
  · rcases eq_null_or_empty_of_isToken h k with h | ⟨h, rfl⟩ | ⟨h, rfl⟩ <;> rw [h] <;> rfl
  · rw [decode_eq_content h]
    cases k <;> exact Value.ofBound_cases (P := fun v => v.fits _ = true) rfl fun _ _ => rfl

theorem isFinite_of_finiteOfText? {s : List Char} {x : Binary64}
    (h : Binary64.finiteOfText? s = some x) : x.isFinite = true :=
  (Option.filter_eq_some_iff.mp h).2

theorem all_isFinite_of_decodeBound? {s : List Char} {b : Option Binary64}
    (h : decodeBound? Binary64.finiteOfText? s = some b) : b.all (·.isFinite) = true := by
  unfold decodeBound? at h
  split at h
  · cases h
    rfl
  · obtain ⟨x, hx, rfl⟩ := Option.map_eq_some_iff.mp h
    exact isFinite_of_finiteOfText? hx

theorem isFinite_of_decodeRange? {raw : List Char} {r : Range Binary64}
    (h : decodeRange? Binary64.finiteOfText? raw = some r) :
    (Value.numberRange r).isFinite = true := by
  have hbounds {lower upper : List Char} {lo hi : Option Binary64}
      (hlo : decodeBound? Binary64.finiteOfText? lower = some lo)
      (hhi : decodeBound? Binary64.finiteOfText? upper = some hi) :
      (Value.numberRange ⟨lo, hi⟩).isFinite = true := by
    simp [Value.isFinite, all_isFinite_of_decodeBound? hlo, all_isFinite_of_decodeBound? hhi]
  simp only [decodeRange?, Option.bind_eq_bind, Option.pure_def] at h
  split at h
  · simp only [Option.bind_eq_some_iff, Option.some.injEq] at h
    obtain ⟨_, _, _, _, _, _, _, _, lo, hlo, hi, hhi, rfl⟩ := h
    exact hbounds hlo hhi
  · simp only [Option.bind_eq_some_iff, Option.some.injEq] at h
    obtain ⟨_, _, _, _, _, _, _, _, lo, hlo, hi, hhi, rfl⟩ := h
    exact hbounds hlo hhi

theorem isFinite_content (raw : List Char) (k : Kind) : (content raw k).isFinite = true := by
  have cases {α : Type} {form : α → Value} {b : Option α}
      (h : ∀ a, b = some a → (form a).isFinite = true) : (Value.ofBound form b).isFinite = true :=
    Value.ofBound_cases (P := fun v => v.isFinite = true) rfl h
  cases k with
  | number =>
    refine cases fun x h => ?_
    obtain ⟨s, -, hs⟩ := Option.bind_eq_some_iff.mp h
    exact isFinite_of_finiteOfText? hs
  | numberRange => exact cases fun r h => isFinite_of_decodeRange? h
  | _ => exact cases fun _ _ => rfl

theorem isFinite_decode (raw : List Char) (k : Kind) : (decode raw k).isFinite = true := by
  by_cases h : IsToken raw
  · rcases eq_null_or_empty_of_isToken h k with h | ⟨h, -⟩ | ⟨h, -⟩ <;> rw [h] <;> rfl
  · rw [decode_eq_content h]
    exact isFinite_content raw k

theorem unescapeComponent?_of_decodeItem? {piece : List Char} {item : String}
    (h : decodeItem? piece = some item) :
    ∃ whole, unescapeComponent? piece = some whole ∧ item.toList <:+: whole := by
  unfold decodeItem? at h
  split at h
  next he =>
    cases h
    subst he
    exact ⟨emptyItemToken, unescapeComponent?_of_not_mem (by decide), List.nil_infix⟩
  · obtain ⟨whole, hw, rfl⟩ := Option.map_eq_some_iff.mp h
    exact ⟨whole, hw, by simp [String.toList_ofList]⟩

-- the comma that ends a piece also ends every percent sign in it, so pieces can be read one by one
theorem unescapeComponent?_join {pieces : List (List Char)} {items : List String}
    (hne : pieces ≠ []) (h : pieces.mapM decodeItem? = some items) :
    ∃ whole, unescapeComponent? (join [','] pieces) = some whole ∧
      ∀ item ∈ items, item.toList <:+: whole := by
  induction pieces generalizing items with
  | nil => exact absurd rfl hne
  | cons piece pieces ih =>
    simp only [List.mapM_cons, Option.bind_eq_bind, Option.bind_eq_some_iff, Option.pure_def,
      Option.some.injEq] at h
    obtain ⟨item, hitem, rest, hrest, rfl⟩ := h
    obtain ⟨first, hfirst, hinfix⟩ := unescapeComponent?_of_decodeItem? hitem
    cases pieces with
    | nil =>
      cases hrest
      exact ⟨first, hfirst, by simpa using hinfix⟩
    | cons next pieces =>
      obtain ⟨whole, hwhole, hitems⟩ := ih (by simp) hrest
      have hall := unescapeComponent?_append_separator (c := ',') (by decide) (by decide) hfirst
        hwhole
      refine ⟨first ++ ',' :: whole, ?_, List.forall_mem_cons.mpr ⟨?_, fun item hm => ?_⟩⟩
      · rw [join_cons_cons, List.append_assoc]
        exact hall
      · exact hinfix.trans (List.prefix_append _ _).isInfix
      · exact (hitems item hm).trans ⟨first ++ [','], [], by simp⟩

theorem infix_of_mem_texts {raw : List Char} {k : Kind} {s : String}
    (h : s ∈ (decode raw k).texts) :
    ∃ whole, unescapeComponent? raw = some whole ∧ s.toList <:+: whole := by
  by_cases ht : IsToken raw
  · have hs : s = "" := by
      rcases eq_null_or_empty_of_isToken ht k with hd | ⟨hd, -⟩ | ⟨hd, -⟩ <;> rw [hd] at h
      · cases h
      · exact List.mem_singleton.mp h
      · cases h
    have hraw : '%' ∉ raw := by rcases ht with rfl | rfl | rfl <;> decide
    exact ⟨raw, unescapeComponent?_of_not_mem hraw, hs ▸ List.nil_infix⟩
  · rw [decode_eq_content ht] at h
    revert h
    have cases {α : Type} {form : α → Value} {b : Option α}
        (h : ∀ a, b = some a → s ∈ (form a).texts →
          ∃ whole, unescapeComponent? raw = some whole ∧ s.toList <:+: whole) :=
      Value.ofBound_cases (P := fun v => s ∈ v.texts → _) nofun h
    cases k with
    | text =>
      refine cases fun whole hw hs => ?_
      have htext : s.toList = whole := by rw [List.mem_singleton.mp hs, String.toList_ofList]
      exact ⟨whole, hw, htext ▸ List.infix_rfl⟩
    | list =>
      refine cases fun items hm hs => ?_
      obtain ⟨whole, hw, hitems⟩ := unescapeComponent?_join (splitOn_ne_nil ',' raw) hm
      rw [join_splitOn] at hw
      exact ⟨whole, hw, hitems s hs⟩
    | _ => exact cases fun _ _ => nofun

end Wire

end LinkedControls
