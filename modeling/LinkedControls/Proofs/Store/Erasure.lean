import LinkedControls.Proofs.Store.InPlace

/-!
What becomes of an active value that is put before a control of another kind. It is kept in an active
form or refused, unless the control is for a range and the value is taken for one of which no side can be
read: then the control is left with a range that is open on both sides.
-/

namespace LinkedControls

open Decimal Calendar

namespace Value

variable {v : Value} {k : Kind}

def openRange : Kind → Value
  | .numberRange => .numberRange ⟨none, none⟩
  | _ => .dateRange ⟨none, none⟩

/-- The value is taken for a range of kind `k`, but neither of its two sides is read. -/
def Empties : Value → Kind → Prop
  | .numberRange _, .dateRange => True
  | .list [lo, hi], .numberRange =>
      Binary64.finiteOfText? lo.toList = none ∧ Binary64.finiteOfText? hi.toList = none
  | .list [lo, hi], .dateRange => Date.ofText? lo.toList = none ∧ Date.ofText? hi.toList = none
  | _, _ => False

def Converts (v : Value) (k : Kind) : Prop :=
  v.fits k = true ∨ (ofLoose v.toJson k).isActive = true

theorem ofLoose_numberRange_dateRange (r : Range Binary64) :
    ofLoose (toJson (.numberRange r)) .dateRange = openRange .dateRange := by
  have hbound (b : Option Binary64) : looseDate? (.ofOption .ofBinary64 b) = none := by
    cases b with
    | none => rfl
    | some x =>
      change looseDate? (.ofBinary64 x) = none
      unfold Json.ofBinary64
      split <;> rfl
  change Value.dateRange ⟨looseDate? (.ofOption .ofBinary64 r.lower),
    looseDate? (.ofOption .ofBinary64 r.upper)⟩ = _
  rw [hbound, hbound]
  rfl

theorem ofLoose_of_empties (h : v.Empties k) :
    v.fits k = false ∧ ofLoose v.toJson k = openRange k := by
  unfold Empties at h
  split at h
  · exact ⟨rfl, ofLoose_numberRange_dateRange _⟩
  next lo hi =>
    refine ⟨rfl, ?_⟩
    change Value.numberRange ⟨Binary64.finiteOfText? lo.toList, Binary64.finiteOfText? hi.toList⟩ = _
    rw [h.1, h.2]
    rfl
  next lo hi =>
    refine ⟨rfl, ?_⟩
    change Value.dateRange ⟨Date.ofText? lo.toList, Date.ofText? hi.toList⟩ = _
    rw [h.1, h.2]
    rfl
  · exact h.elim

theorem isActive_openRange (k : Kind) : (openRange k).isActive = false := by
  cases k <;> rfl

theorem range_cases {α : Type} {form : Range α → Value}
    (hopen : ∀ r, (form r).isActive = !r.isOpen) (lo hi : Option α) :
    (form ⟨lo, hi⟩).isActive = true ∨ (lo = none ∧ hi = none) := by
  cases lo <;> cases hi <;> simp [hopen, Range.isOpen]

theorem looseSides?_ofBinary64 (lower upper : String) (x : Binary64) :
    looseSides? lower upper (.ofBinary64 x) = none := by
  unfold Json.ofBinary64
  split <;> rfl

theorem ofLoose_range_cases (hk : k = .numberRange ∨ k = .dateRange) (hactive : v.isActive = true)
    (hfits : v.fits k = false) :
    ofLoose v.toJson k = .null ∨ (ofLoose v.toJson k).isActive = true ∨ v.Empties k := by
  cases v with
  | null => cases hactive
  | number x =>
    refine .inl ?_
    unfold ofLoose
    split
    · rfl
    · rcases hk with rfl | rfl <;> simp [toJson, looseSides?_ofBinary64, looseRange]
  | numberRange r =>
    rcases hk with rfl | rfl
    · cases hfits
    · exact .inr (.inr trivial)
  | dateRange r =>
    rcases hk with rfl | rfl
    · exact .inl rfl
    · cases hfits
  | list items =>
    rcases items with _ | ⟨lo, _ | ⟨hi, _ | ⟨_, _⟩⟩⟩
    · cases hactive
    · rcases hk with rfl | rfl <;> exact .inl rfl
    · rcases hk with rfl | rfl
      · exact .inr (range_cases (fun _ => rfl) (Binary64.finiteOfText? lo.toList)
          (Binary64.finiteOfText? hi.toList))
      · exact .inr (range_cases (fun _ => rfl) (Date.ofText? lo.toList) (Date.ofText? hi.toList))
    · rcases hk with rfl | rfl <;> exact .inl rfl
  | _ => rcases hk with rfl | rfl <;> exact .inl rfl

theorem ne_empty_of_looseText? {s : String} (hactive : v.isActive = true)
    (h : looseText? v.toJson = some s) : s ≠ "" := by
  cases v with
  | text t =>
    cases h
    simpa [isActive] using hactive
  | number x =>
    simp only [toJson, Json.ofBinary64] at h
    split at h
    next hx =>
      cases h
      simp only [Json.Number.toText, hx, if_true]
      exact Layout.json.write_ne_empty x
    · cases h
  | boolean b =>
    cases h
    cases b <;> decide
  | date d =>
    cases h
    simp [Date.toText, Date.toChars]
  | _ => cases h

theorem ofLoose_cases (hactive : v.isActive = true) (hfits : v.fits k = false) :
    ofLoose v.toJson k = .null ∨ (ofLoose v.toJson k).isActive = true ∨ v.Empties k := by
  have hbound {α : Type} {form : α → Value} {b : Option α}
      (h : ∀ a, b = some a → (form a).isActive = true) :
      ofBound form b = .null ∨ (ofBound form b).isActive = true ∨ v.Empties k :=
    ofBound_cases (P := fun w => w = .null ∨ w.isActive = true ∨ v.Empties k) (.inl rfl)
      fun a ha => .inr (.inl (h a ha))
  by_cases hnull : v.toJson.isNull = true
  · exact .inl (if_pos hnull)
  have hloose : ofLoose v.toJson k = _ := if_neg hnull
  rw [hloose]
  cases k with
  | dateRange => exact hloose ▸ ofLoose_range_cases (.inr rfl) hactive hfits
  | numberRange => exact hloose ▸ ofLoose_range_cases (.inl rfl) hactive hfits
  | text => exact hbound fun s hs => by simpa [isActive] using ne_empty_of_looseText? hactive hs
  | list =>
    dsimp only
    split
    next items hitems =>
      cases v with
      | list items => cases hfits
      | number x =>
        simp only [toJson, Json.ofBinary64] at hitems
        split at hitems <;> cases hitems
      | _ => cases hitems
    · exact hbound fun _ _ => rfl
  | _ => exact hbound fun _ _ => rfl

end Value

theorem coerce_of_not_fits {id : String} {v : Value} {k : Kind} (hfits : v.fits k = false)
    (hne : Value.ofLoose v.toJson k ≠ .null) : coerce id v k = .ok (Value.ofLoose v.toJson k) := by
  unfold coerce
  rw [if_neg (by simp [hfits])]
  split
  next hnull => exact absurd hnull hne
  · rfl

theorem coerce_of_null {id : String} {v : Value} {k : Kind} (hfits : v.fits k = false)
    (hnull : Value.ofLoose v.toJson k = .null) :
    coerce id v k = .error (.typeMismatch id k v.typeName) := by
  simp [coerce, hfits, hnull]

namespace Store

variable {s : Store} {a : Action} {id : String} {k : Kind} {v : Value}

inductive Offers (s : Store) : Action → String → Kind → Value → Prop
  | register {id : String} {k : Kind} {v : Value} :
      s.get? id = none → Offers s (.register id k v) id k v
  | write {id : String} {v : Value} {origin : Origin} {c : Control} :
      s.get? id = some c → Offers s (.write id v origin) id c.kind v

theorem Offers.perform_of_ok {w : Value} (h : s.Offers a id k v) (hw : coerce id v k = .ok w) :
    (∃ change, (s.perform a).1 = .ok change) ∧ (s.perform a).2.valueOf id = w := by
  cases h with
  | register hid =>
    have hstep := perform_eq_ok.mpr (.register hid hw)
    refine ⟨⟨_, congrArg Prod.fst hstep⟩, ?_⟩
    rw [hstep]
    refine valueOf_of_get? (c := ⟨id, k, w⟩) ?_
    have hnone : s.controls.find? (·.id == id) = none := hid
    simp [get?, List.find?_append, hnone]
  | @write _ _ origin c hget =>
    have hstep : s.perform (.write id v origin) = _ := perform_eq_ok.mpr (.write hget hw)
    refine ⟨⟨_, congrArg Prod.fst hstep⟩, ?_⟩
    rw [hstep]
    refine valueOf_of_get? (c := { c with value := w }) ?_
    rw [get?, find?_replaceControl, if_pos (id_of_get? hget).symm]

theorem Offers.perform_of_error {e : StoreError} (h : s.Offers a id k v)
    (he : coerce id v k = .error e) : s.perform a = (.error e, s) := by
  rw [perform_eq]
  cases h with
  | register hid => simp [apply, Store.register, contains, hid, he, bind, Except.bind, Except.map]
  | write hget => simp [apply, Store.write, hget, he, bind, Except.bind, Except.map]

theorem Offers.converts (h : s.Offers a id k v) (hactive : v.isActive = true)
    (hv : v.Converts k) :
    (∃ change, (s.perform a).1 = .ok change) ∧ ((s.perform a).2.valueOf id).isActive = true := by
  cases hfits : v.fits k with
  | true =>
    obtain ⟨hok, hvalue⟩ := h.perform_of_ok (coerce_of_fits hfits)
    exact ⟨hok, hvalue ▸ hactive⟩
  | false =>
    have hloose : (Value.ofLoose v.toJson k).isActive = true := by
      simpa [Value.Converts, hfits] using hv
    obtain ⟨hok, hvalue⟩ := h.perform_of_ok (coerce_of_not_fits hfits fun hnull => by
      rw [hnull] at hloose
      cases hloose)
    exact ⟨hok, hvalue ▸ hloose⟩

theorem Offers.empties (h : s.Offers a id k v) (hv : v.Empties k) :
    (∃ change, (s.perform a).1 = .ok change) ∧ (s.perform a).2.valueOf id = .openRange k := by
  obtain ⟨hfits, hloose⟩ := Value.ofLoose_of_empties hv
  have hne : Value.ofLoose v.toJson k ≠ .null := by
    rw [hloose]
    cases k <;> simp [Value.openRange]
  rw [← hloose]
  exact h.perform_of_ok (coerce_of_not_fits hfits hne)

theorem Offers.refused (h : s.Offers a id k v) (hactive : v.isActive = true)
    (hconverts : ¬ v.Converts k) (hempties : ¬ v.Empties k) :
    s.perform a = (.error (.typeMismatch id k v.typeName), s) := by
  obtain ⟨hfits, hloose⟩ : v.fits k = false ∧ ¬ (Value.ofLoose v.toJson k).isActive = true := by
    simpa [Value.Converts] using hconverts
  refine h.perform_of_error (coerce_of_null hfits ?_)
  exact (Value.ofLoose_cases hactive hfits).resolve_right fun hor => hor.elim hloose hempties

theorem accepted_active_iff (hoffer : s.Offers a id k v) (hactive : v.isActive = true) :
    (v.Converts k →
      (∃ change, (s.perform a).1 = .ok change) ∧ ((s.perform a).2.valueOf id).isActive = true) ∧
    (v.Empties k → ¬ v.Converts k ∧
      (∃ change, (s.perform a).1 = .ok change) ∧ (s.perform a).2.valueOf id = .openRange k) ∧
    (((∀ change, (s.perform a).1 = .ok change → ((s.perform a).2.valueOf id).isActive = true) ∧
      (¬ v.Converts k → s.perform a = (.error (.typeMismatch id k v.typeName), s))) ↔
        ¬ v.Empties k) := by
  have hexclusive : v.Empties k → ¬ v.Converts k := by
    intro hempties hconverts
    obtain ⟨-, hkept⟩ := hoffer.converts hactive hconverts
    rw [(hoffer.empties hempties).2, Value.isActive_openRange] at hkept
    cases hkept
  refine ⟨hoffer.converts hactive, fun h => ⟨hexclusive h, hoffer.empties h⟩, ?_, fun hempties => ⟨?_, ?_⟩⟩
  · rintro ⟨hkept, -⟩ hempties
    obtain ⟨⟨change, hok⟩, hopen⟩ := hoffer.empties hempties
    have hactive := hkept change hok
    rw [hopen, Value.isActive_openRange] at hactive
    cases hactive
  · intro change hok
    by_cases hconverts : v.Converts k
    · exact (hoffer.converts hactive hconverts).2
    · rw [hoffer.refused hactive hconverts hempties] at hok
      cases hok
  · exact fun hconverts => hoffer.refused hactive hconverts hempties

def dayStore : Store := Store.empty.performAll [.register "d" .dateRange .null]

def fromZero : Value := .numberRange ⟨some .zero, none⟩

theorem offers_fromZero :
    dayStore.Offers (.write "d" fromZero .user) "d" .dateRange fromZero :=
  .write (c := ⟨"d", .dateRange, .null⟩) rfl

theorem accepted_active_iff_fromZero :
    dayStore.Offers (.write "d" fromZero .user) "d" .dateRange fromZero ∧ fromZero.isActive = true ∧
    (fromZero.Converts .dateRange →
      (∃ change, (dayStore.perform (.write "d" fromZero .user)).1 = .ok change) ∧
        ((dayStore.perform (.write "d" fromZero .user)).2.valueOf "d").isActive = true) ∧
    (fromZero.Empties .dateRange → ¬ fromZero.Converts .dateRange ∧
      (∃ change, (dayStore.perform (.write "d" fromZero .user)).1 = .ok change) ∧
        (dayStore.perform (.write "d" fromZero .user)).2.valueOf "d" = .openRange .dateRange) ∧
    (((∀ change, (dayStore.perform (.write "d" fromZero .user)).1 = .ok change →
        ((dayStore.perform (.write "d" fromZero .user)).2.valueOf "d").isActive = true) ∧
      (¬ fromZero.Converts .dateRange → dayStore.perform (.write "d" fromZero .user) =
        (.error (.typeMismatch "d" .dateRange fromZero.typeName), dayStore))) ↔
      ¬ fromZero.Empties .dateRange) :=
  ⟨offers_fromZero, rfl, accepted_active_iff offers_fromZero rfl⟩

theorem fromZero_lost :
    fromZero.isActive = true ∧ fromZero.isFinite = true ∧
    (∃ change, (dayStore.perform (.write "d" fromZero .user)).1 = .ok change) ∧
    ((dayStore.perform (.write "d" fromZero .user)).2.valueOf "d").isActive = false := by
  obtain ⟨haccepted, hvalue⟩ := offers_fromZero.empties trivial
  exact ⟨rfl, rfl, haccepted, hvalue ▸ rfl⟩

end Store

end LinkedControls
