import LinkedControls.Proofs.Decimal.Order
import LinkedControls.Proofs.Filter.Composition
import LinkedControls.Proofs.Value.Loose

/-!
Fields of records beside the values that controls take from the host. Texts and numbers are read alike, and
so are truth values, but for the doubles that a control takes for one.
-/

namespace LinkedControls

open Decimal

namespace Field

def IsTruthDouble (j : Json) : Prop :=
  ∃ x, j = .number (.double x) ∧ (x.eqv .zero = true ∨ x.eqv .one = true)

theorem eqv_ofInt_zero_iff (n : ℤ) : (Binary64.ofInt n).eqv .zero = true ↔ n = 0 :=
  Binary64.eqv_ofInt_iff (k := 0) (by decide) rfl (Int.zero_mul _).symm

theorem eqv_ofInt_one_iff (n : ℤ) : (Binary64.ofInt n).eqv .one = true ↔ n = 1 := by
  refine Binary64.eqv_ofInt_iff (k := 1) (by decide) Binary64.isFinite_one ?_
  rw [Binary64.toUnits_one, Nat.cast_one, Int.one_mul]

theorem looseBool?_integer (n : ℤ) :
    Value.looseBool? (.number (.integer n)) = bool? (.number (.integer n)) := by
  simp only [Value.looseBool?, Json.Number.toBinary64, eqv_ofInt_zero_iff, eqv_ofInt_one_iff]
  rcases eq_or_ne n 0 with rfl | hzero
  · rfl
  rcases eq_or_ne n 1 with rfl | hone
  · rfl
  rw [if_neg hzero, if_neg hone]
  unfold bool?
  dsimp only
  split
  next h =>
    obtain ⟨-, rfl⟩ : _ ∧ n = 0 := by simpa [Json.Number.toInt64?] using h
    exact absurd rfl hzero
  next h =>
    obtain ⟨-, rfl⟩ : _ ∧ n = 1 := by simpa [Json.Number.toInt64?] using h
    exact absurd rfl hone
  next => rfl

theorem isTruthDouble_double (x : Binary64) :
    IsTruthDouble (.number (.double x)) ↔ x.eqv .zero = true ∨ x.eqv .one = true := by
  simp [IsTruthDouble]

theorem looseBool?_double (x : Binary64) :
    (Value.looseBool? (.number (.double x))).isSome = true ↔ IsTruthDouble (.number (.double x)) := by
  rw [isTruthDouble_double]
  cases hzero : x.eqv .zero <;> cases hone : x.eqv .one <;>
    simp [Value.looseBool?, Json.Number.toBinary64, hzero, hone]

theorem looseBool?_eq_bool? {j : Json} (h : ¬ IsTruthDouble j) : Value.looseBool? j = bool? j := by
  cases j with
  | number n =>
    cases n with
    | integer n => exact looseBool?_integer n
    | double x => exact Option.not_isSome_iff_eq_none.mp ((looseBool?_double x).not.mpr h)
  | _ => rfl

theorem bool?_of_isTruthDouble {j : Json} (h : IsTruthDouble j) :
    bool? j = none ∧ (Value.looseBool? j).isSome = true := by
  obtain ⟨x, rfl, hx⟩ := h
  exact ⟨rfl, (looseBool?_double x).mpr ((isTruthDouble_double x).mpr hx)⟩

theorem looseBool?_eq_bool?_iff (j : Json) : Value.looseBool? j = bool? j ↔ ¬ IsTruthDouble j := by
  refine ⟨fun heq h => ?_, looseBool?_eq_bool?⟩
  obtain ⟨hnone, hsome⟩ := bool?_of_isTruthDouble h
  rw [heq, hnone] at hsome
  cases hsome

end Field

/-- A control that takes the JSON value from the host, as one of the kind `k`, keeps each record that has the
same JSON value in the column it filters. -/
def KeepsOwn (k : Kind) (kind : FilterKind) (j : Json) : Prop :=
  ∀ (s : Snapshot) (c : Control) (t : FilterTarget) (records : List Record),
    s.get? t.control = some c → c.value = Value.ofLoose j k → t.kind = kind →
      ∀ record ∈ records, record.lookup t.column = some j → record ∈ filterRecords records [t] s

section Keeping

variable {j : Json} {k : Kind} {kind : FilterKind}

theorem filterRecords_singleton {s : Snapshot} {t : FilterTarget} {c : Control} (h : s.get? t.control = some c)
    (records : List Record) :
    filterRecords records [t] s = applyFilters records (Predicate.derive? t c).toList := by
  unfold filterRecords Predicate.deriveAll
  rw [List.filterMap_cons, h, Option.bind_some]
  cases Predicate.derive? t c <;> rfl

theorem keepsOwn_of_inactive (h : (Value.ofLoose j k).isActive = false) : KeepsOwn k kind j := by
  intro s c t records hc hvalue _ record hrecord _
  have hderive : Predicate.derive? t c = none := by
    simp [Predicate.derive?, Control.isActive, hvalue, h]
  rw [filterRecords_singleton hc, hderive, Option.toList_none, applyFilters_eq]
  simpa [accepted] using hrecord

theorem keepsOwn_iff_accepts {condition : Condition} (hactive : (Value.ofLoose j k).isActive = true)
    (hcondition : Predicate.condition? kind (Value.ofLoose j k) = some condition)
    (hsingle : ∀ id k column, (Predicate.mk id k column condition).isRanking = false ∧
      (Predicate.mk id k column condition).hidesAll = false) :
    KeepsOwn k kind j ↔ condition.accepts condition.matcher? (some j) = true := by
  have hderive {t : FilterTarget} {c : Control} (hvalue : c.value = Value.ofLoose j k) (hkind : t.kind = kind) :
      Predicate.derive? t c = some ⟨c.id, c.kind, t.column, condition⟩ := by
    simp [Predicate.derive?, Control.isActive, hvalue, hactive, hkind, hcondition]
  constructor
  · intro h
    have hmem := h ⟨[⟨"", k, Value.ofLoose j k⟩], 0⟩ ⟨"", k, Value.ofLoose j k⟩ ⟨"", "", kind⟩ [[("", j)]]
      rfl rfl rfl [("", j)] (List.mem_singleton_self _) rfl
    rw [filterRecords_singleton rfl, hderive rfl rfl] at hmem
    exact ((mem_applyFilters_singleton (hsingle ..).1 (hsingle ..).2).mp hmem).2
  · intro h s c t records hc hvalue hkind record hrecord hfield
    rw [filterRecords_singleton hc, hderive hvalue hkind]
    refine (mem_applyFilters_singleton (hsingle ..).1 (hsingle ..).2).mpr ⟨hrecord, ?_⟩
    rw [Predicate.accepts, hfield]
    exact h

theorem looseText?_eq_text? (j : Json) : Value.looseText? j = Field.text? j := by
  cases j <;> rfl

theorem looseNumber?_eq_number? (j : Json) : Value.looseNumber? j = Field.number? j := by
  cases j <;> rfl

theorem ofBound_boolean_inj {b c : Option Bool} :
    Value.ofBound .boolean b = Value.ofBound .boolean c ↔ b = c := by
  cases b <;> cases c <;> simp [Value.ofBound]

theorem ofBound_boolean_ne_null {b : Option Bool} : Value.ofBound .boolean b ≠ .null ↔ b.isSome = true := by
  cases b <;> simp [Value.ofBound]

theorem NumberOp.accepts_self (op : NumberOp) {x : Binary64} (hx : x.isFinite = true) :
    op.accepts x x = true := by
  cases op <;> simp [accepts, Binary64.le, Binary64.eqv_self hx]

theorem keepsOwn_number (op : NumberOp) (j : Json) : KeepsOwn .number (.number op) j := by
  have hvalue := Value.ofLoose_number j
  cases h : Value.looseNumber? j with
  | none =>
    rw [h] at hvalue
    exact keepsOwn_of_inactive (by rw [hvalue]; rfl)
  | some x =>
    rw [h] at hvalue
    have hcondition : Predicate.condition? (.number op) (Value.ofLoose j .number) = some (.number op x) := by
      rw [hvalue]
      rfl
    rw [keepsOwn_iff_accepts (by rw [hvalue]; rfl) hcondition fun _ _ _ => ⟨rfl, rfl⟩, Condition.accepts,
      Option.bind_some, ← looseNumber?_eq_number?, h]
    exact op.accepts_self (Value.isFinite_of_looseNumber? h)

theorem keepsOwn_boolean_iff (j : Json) : KeepsOwn .boolean .boolean j ↔ ¬ Field.IsTruthDouble j := by
  have hvalue := Value.ofLoose_boolean j
  cases h : Value.looseBool? j with
  | none =>
    rw [h] at hvalue
    have htruth : ¬ Field.IsTruthDouble j := fun htruth => by
      have hsome := (Field.bool?_of_isTruthDouble htruth).2
      rw [h] at hsome
      cases hsome
    exact iff_of_true (keepsOwn_of_inactive (by rw [hvalue]; rfl)) htruth
  | some b =>
    rw [h] at hvalue
    have hcondition : Predicate.condition? .boolean (Value.ofLoose j .boolean) = some (.boolean b) := by
      rw [hvalue]
      rfl
    rw [keepsOwn_iff_accepts (by rw [hvalue]; rfl) hcondition fun _ _ _ => ⟨rfl, rfl⟩, Condition.accepts,
      Option.bind_some, ← Field.looseBool?_eq_bool?_iff, h, beq_iff_eq, eq_comm]

end Keeping

theorem fields_read_as_values (j : Json) :
    Value.ofLoose j .text = Value.ofBound .text (Field.text? j) ∧
      Value.ofLoose j .number = Value.ofBound .number (Field.number? j) ∧
      (Value.ofLoose j .boolean = Value.ofBound .boolean (Field.bool? j) ↔ ¬ Field.IsTruthDouble j) ∧
      (Field.bool? j = none ∧ Value.ofLoose j .boolean ≠ .null ↔ Field.IsTruthDouble j) ∧
      (∀ op, KeepsOwn .number (.number op) j) ∧
      (KeepsOwn .boolean .boolean j ↔ ¬ Field.IsTruthDouble j) := by
  refine ⟨?_, ?_, ?_, ?_, fun op => keepsOwn_number op j, keepsOwn_boolean_iff j⟩
  · rw [Value.ofLoose_text, looseText?_eq_text?]
  · rw [Value.ofLoose_number, looseNumber?_eq_number?]
  · rw [Value.ofLoose_boolean, ofBound_boolean_inj, Field.looseBool?_eq_bool?_iff]
  · rw [Value.ofLoose_boolean, ofBound_boolean_ne_null]
    refine ⟨fun ⟨hnone, hsome⟩ => ?_, Field.bool?_of_isTruthDouble⟩
    by_contra htruth
    rw [Field.looseBool?_eq_bool? htruth, hnone] at hsome
    cases hsome

theorem double_one_read_apart :
    Value.ofLoose (.number (.double .one)) .boolean = .boolean true ∧
      Field.bool? (.number (.double .one)) = none ∧
      (Condition.boolean true).accepts none (some (.number (.double .one))) = false := by
  refine ⟨?_, rfl, rfl⟩
  decide +kernel

end LinkedControls
