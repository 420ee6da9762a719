import LinkedControls.Proofs.Value.Reading
import LinkedControls.Value.Loose

/-!
What JSON of any shape is taken for: a value of the kind that is asked for, with finite numbers only. The
plain JSON of such a value is taken for the value again, so that loose shapes are settled in one step.
-/

namespace LinkedControls.Value

open Decimal Calendar

variable {v : Value} {k : Kind}

theorem fits_iff : v.fits k = true ↔ v = .null ∨ v.kind? = some k := by
  cases v <;> simp [fits, kind?]

theorem ofLoose_text (j : Json) : ofLoose j .text = ofBound .text (looseText? j) := by
  cases j <;> rfl

theorem ofLoose_number (j : Json) : ofLoose j .number = ofBound .number (looseNumber? j) := by
  cases j <;> rfl

theorem ofLoose_boolean (j : Json) : ofLoose j .boolean = ofBound .boolean (looseBool? j) := by
  cases j <;> rfl

theorem fits_looseRange {α : Type} {read : Json → Option α} {form : Range α → Value} {k : Kind}
    (h : ∀ r, (form r).fits k = true) (sides : Option (Option Json × Option Json)) :
    (looseRange read form sides).fits k = true := by
  cases sides with
  | none => rfl
  | some sides => exact h _

theorem fits_ofLoose (j : Json) (k : Kind) : (ofLoose j k).fits k = true := by
  have cases {α : Type} {form : α → Value} (h : ∀ a, (form a).fits k = true) (b : Option α) :
      (ofBound form b).fits k = true :=
    ofBound_cases (P := fun v => v.fits k = true) rfl fun a _ => h a
  unfold ofLoose
  split
  · rfl
  · cases k with
    | dateRange => exact fits_looseRange (fun _ => rfl) _
    | numberRange => exact fits_looseRange (fun _ => rfl) _
    | list =>
      dsimp only
      split
      · rfl
      · exact cases (fun _ => rfl) _
    | _ => exact cases (fun _ => rfl) _

theorem isFinite_of_looseNumber? {j : Json} {x : Binary64} (h : looseNumber? j = some x) :
    x.isFinite = true := by
  cases j with
  | number n =>
    unfold looseNumber? at h
    exact (Option.filter_eq_some_iff.mp h).2
  | text s => exact Wire.isFinite_of_finiteOfText? h
  | _ => cases h

theorem isFinite_numberRange_filterMap {α : Type} {f : α → Option Binary64}
    (hf : ∀ a x, f a = some x → x.isFinite = true) (lo hi : Option α) :
    (numberRange ⟨lo.bind f, hi.bind f⟩).isFinite = true := by
  have bound (b : Option α) : (b.bind f).all (·.isFinite) = true := by
    rw [Option.all_eq_true]
    intro x hx
    obtain ⟨a, -, ha⟩ := Option.bind_eq_some_iff.mp hx
    exact hf a x ha
  simp [isFinite, bound]

theorem isFinite_ofLoose (j : Json) (k : Kind) : (ofLoose j k).isFinite = true := by
  have cases {α : Type} {form : α → Value} {b : Option α}
      (h : ∀ a, b = some a → (form a).isFinite = true) : (ofBound form b).isFinite = true :=
    ofBound_cases (P := fun v => v.isFinite = true) rfl h
  unfold ofLoose
  split
  · rfl
  · cases k with
    | number => exact cases fun x h => isFinite_of_looseNumber? h
    | numberRange =>
      dsimp only
      cases looseSides? "min" "max" j with
      | none => rfl
      | some sides => exact isFinite_numberRange_filterMap (fun _ _ => isFinite_of_looseNumber?) _ _
    | dateRange =>
      dsimp only
      cases looseSides? "start" "end" j <|> looseSides? "min" "max" j with
      | none => rfl
      | some sides => rfl
    | list =>
      dsimp only
      split
      · rfl
      · exact cases fun _ _ => rfl
    | _ => exact cases fun _ _ => rfl

theorem looseDate?_dateJson (d : Date) : looseDate? (dateJson d) = some d := by
  rw [dateJson, looseDate?, Date.toText, String.toList_ofList, ofText?_toChars]

theorem looseNumber?_ofBinary64 (x : Binary64) :
    looseNumber? (.ofBinary64 x) = if x.isFinite then some x else none := by
  unfold Json.ofBinary64
  cases hx : x.isFinite <;> simp [looseNumber?, Json.Number.toBinary64, hx]

theorem bind_ofOption {α : Type} (write : α → Json) {read : Json → Option α}
    (hnull : read .null = none) (b : Option α) :
    read (.ofOption write b) = b.bind fun a => read (write a) := by
  cases b with
  | none => exact hnull
  | some a => rfl

theorem filterMap_looseText? (items : List String) :
    (items.map Json.text).filterMap looseText? = items := by
  induction items with
  | nil => rfl
  | cons s items ih => exact congrArg (s :: ·) ih

theorem ofLoose_toJson_number (x : Binary64) :
    ofLoose (toJson (.number x)) .number = finitePart (.number x) := by
  rw [toJson, ofLoose_number, looseNumber?_ofBinary64, finitePart]
  split <;> rfl

theorem ofLoose_toJson_dateRange (r : Range Date) :
    ofLoose (toJson (.dateRange r)) .dateRange = .dateRange r := by
  have hbound (b : Option Date) : looseDate? (.ofOption dateJson b) = _ :=
    bind_ofOption dateJson rfl b
  change Value.dateRange ⟨looseDate? (.ofOption dateJson r.lower),
    looseDate? (.ofOption dateJson r.upper)⟩ = _
  simp only [hbound, looseDate?_dateJson, Option.bind_fun_some]

theorem ofLoose_toJson_numberRange (r : Range Binary64) :
    ofLoose (toJson (.numberRange r)) .numberRange = finitePart (.numberRange r) := by
  have hbound (b : Option Binary64) : looseNumber? (.ofOption .ofBinary64 b) = _ :=
    bind_ofOption Json.ofBinary64 rfl b
  change Value.numberRange ⟨looseNumber? (.ofOption .ofBinary64 r.lower),
    looseNumber? (.ofOption .ofBinary64 r.upper)⟩ = _
  simp only [hbound, looseNumber?_ofBinary64]
  rfl

theorem ofLoose_toJson (h : v.fits k = true) : ofLoose v.toJson k = v.finitePart := by
  rcases fits_iff.mp h with rfl | hk
  · rfl
  · cases v with
    | null => rfl
    | number x =>
      cases hk
      exact ofLoose_toJson_number x
    | date d =>
      cases hk
      exact congrArg (ofBound .date) (looseDate?_dateJson d)
    | dateRange r =>
      cases hk
      exact ofLoose_toJson_dateRange r
    | numberRange r =>
      cases hk
      exact ofLoose_toJson_numberRange r
    | list items =>
      cases hk
      exact congrArg list (filterMap_looseText? items)
    | _ =>
      cases hk
      rfl

theorem ofLoose_toJson_eq_self_iff : ofLoose v.toJson k = v ↔ v.fits k = true ∧ v.isFinite = true := by
  constructor
  · intro h
    have hfits := fits_ofLoose v.toJson k
    have hfinite := isFinite_ofLoose v.toJson k
    rw [h] at hfits hfinite
    exact ⟨hfits, hfinite⟩
  · rintro ⟨hfits, hfinite⟩
    rw [ofLoose_toJson hfits, finitePart_eq_self.mpr hfinite]

theorem ofLoose_settles (j : Json) (k : Kind) :
    (ofLoose j k = .null ∨ (ofLoose j k).kind? = some k) ∧ (ofLoose j k).isFinite = true ∧
      ofLoose (ofLoose j k).toJson k = ofLoose j k ∧
      ∀ v, ofLoose v.toJson k = v ↔ (v = .null ∨ v.kind? = some k) ∧ v.isFinite = true := by
  have hfits := fits_ofLoose j k
  have hfinite := isFinite_ofLoose j k
  refine ⟨fits_iff.mp hfits, hfinite, ofLoose_toJson_eq_self_iff.mpr ⟨hfits, hfinite⟩, fun v => ?_⟩
  rw [ofLoose_toJson_eq_self_iff, fits_iff]

end LinkedControls.Value
