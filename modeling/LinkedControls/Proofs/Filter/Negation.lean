import LinkedControls.Proofs.Filter.Composition

/-!
A test of texts and its negation. Between them they keep every record whose field can be read as a text,
each once, and no other record; a pattern that is malformed leaves them all to the negation.
-/

namespace LinkedControls

namespace TextOp

def opposite (op : TextOp) : TextOp := { op with negated := !op.negated }

example : (all.filter (!·.negated)).map (fun op => (op.name, op.opposite.name)) = [
    ("equal_to", "not_equal_to"), ("contains", "does_not_contain"),
    ("starts_with", "does_not_start_with"), ("ends_with", "does_not_end_with"),
    ("matches_regexp", "does_not_match_regexp")] := by decide

end TextOp

inductive Field.IsScalar : Json → Prop
  | text (s : String) : IsScalar (.text s)
  | number (n : Json.Number) : IsScalar (.number n)
  | bool (b : Bool) : IsScalar (.bool b)

theorem Field.isSome_text?_iff {field : Json} :
    (Field.text? field).isSome = true ↔ Field.IsScalar field := by
  constructor
  · intro h
    cases field with
    | text s => exact .text s
    | number n => exact .number n
    | bool b => exact .bool b
    | _ => cases h
  · rintro (s | n | b) <;> rfl

def Record.IsReadable (record : Record) (column : String) : Prop :=
  ∃ field, record.lookup column = some field ∧ Field.IsScalar field

theorem Record.isReadable_iff {record : Record} {column : String} :
    record.IsReadable column ↔ ((record.lookup column).bind Field.text?).isSome = true := by
  rw [IsReadable]
  cases record.lookup column with
  | none => simp
  | some field => simp [Field.isSome_text?_iff]

instance (record : Record) (column : String) : Decidable (record.IsReadable column) :=
  decidable_of_iff _ Record.isReadable_iff.symm

namespace Predicate

variable {p : Predicate} {op : TextOp} {needle : String} {caseSensitive : Bool} {record : Record}

def testing (p : Predicate) (op : TextOp) (needle : String) (caseSensitive : Bool) : Predicate :=
  { p with condition := .text op needle caseSensitive }

theorem accepts_testing : (p.testing op needle caseSensitive).accepts record =
    ((record.lookup p.column).bind Field.text?).any fun s =>
      TextMatcher.testOf op.test needle.toList caseSensitive s.toList != op.negated := by
  simp only [accepts, testing, Condition.accepts, Condition.matcher?, Option.any_some,
    TextMatcher.accepts, TextMatcher.ofOp]

theorem isReadable_of_accepts (h : (p.testing op needle caseSensitive).accepts record = true) :
    record.IsReadable p.column := by
  rw [accepts_testing, Option.any_eq_true] at h
  obtain ⟨s, hs, -⟩ := h
  rw [Record.isReadable_iff, hs]
  rfl

theorem accepts_opposite (h : record.IsReadable p.column) :
    (p.testing op.opposite needle caseSensitive).accepts record =
      !(p.testing op needle caseSensitive).accepts record := by
  obtain ⟨s, hs⟩ := Option.isSome_iff_exists.mp (Record.isReadable_iff.mp h)
  rw [accepts_testing, accepts_testing, hs, Option.any_some, Option.any_some, TextOp.opposite]
  cases op.negated <;> simp

theorem applyFilters_testing (records : List Record) :
    applyFilters records [p.testing op needle caseSensitive] =
      (records.filter fun record => record.IsReadable p.column).filter
        (p.testing op needle caseSensitive).accepts := by
  rw [applyFilters_of_test rfl rfl, List.filter_filter]
  refine List.filter_congr fun record _ => ?_
  cases h : (p.testing op needle caseSensitive).accepts record with
  | true => simp [isReadable_of_accepts h]
  | false => rfl

theorem applyFilters_opposite (records : List Record) :
    applyFilters records [p.testing op.opposite needle caseSensitive] =
      (records.filter fun record => record.IsReadable p.column).filter fun record =>
        !(p.testing op needle caseSensitive).accepts record := by
  rw [applyFilters_testing]
  refine List.filter_congr fun record hrecord => ?_
  exact accepts_opposite (of_decide_eq_true (List.mem_filter.mp hrecord).2)

theorem accepts_malformed (h : Pattern.ofText? (!caseSensitive) needle.toList = none) :
    (p.testing ⟨.matchesPattern, false⟩ needle caseSensitive).accepts record = false := by
  rw [accepts_testing, TextMatcher.testOf, h]
  simp

theorem negation_splits (p : Predicate) (op : TextOp) (needle : String) (caseSensitive : Bool)
    (records : List Record) :
    let kept := applyFilters records [p.testing op needle caseSensitive]
    let others := applyFilters records [p.testing op.opposite needle caseSensitive]
    (∀ record ∈ kept, record ∉ others) ∧
      (∀ record, record ∈ kept ∨ record ∈ others ↔ record ∈ records ∧
        ∃ field, record.lookup p.column = some field ∧ Field.IsScalar field) ∧
      (kept ++ others).Perm (records.filter fun record => record.IsReadable p.column) ∧
      (op = ⟨.matchesPattern, false⟩ → Pattern.ofText? (!caseSensitive) needle.toList = none →
        kept = [] ∧ others = records.filter fun record => record.IsReadable p.column) := by
  intro kept others
  have hkept : kept = _ := applyFilters_testing records
  have hothers : others = _ := applyFilters_opposite records
  have hsplit : (kept ++ others).Perm (records.filter fun record => record.IsReadable p.column) := by
    rw [hkept, hothers]
    exact List.filter_append_perm _ _
  refine ⟨fun record hrecord hother => ?_, fun record => ?_, hsplit, ?_⟩
  · rw [hkept] at hrecord
    rw [hothers] at hother
    have haccepts := (List.mem_filter.mp hrecord).2
    have hrefused := (List.mem_filter.mp hother).2
    rw [haccepts] at hrefused
    cases hrefused
  · rw [← List.mem_append, hsplit.mem_iff, List.mem_filter, decide_eq_true_iff]
    exact Iff.rfl
  · rintro rfl hmalformed
    rw [hkept, hothers]
    refine ⟨List.filter_eq_nil_iff.mpr fun record _ => by simp [accepts_malformed hmalformed], ?_⟩
    simp only [accepts_malformed hmalformed, Bool.not_false, List.filter_true]

def regions : List Record :=
  [[("region", .text "US")], [("region", .null)], [("region", .ofNat 7)], [("amount", .ofNat 80)],
    [("region", .text "US")], [("region", .array [.text "US"])]]

theorem negation_splits_regions :
    Pattern.ofText? true "(".toList = none ∧
      applyFilters regions [inRegion.testing ⟨.matchesPattern, false⟩ "(" false] = [] ∧
      applyFilters regions [inRegion.testing ⟨.matchesPattern, true⟩ "(" false] =
        [[("region", .text "US")], [("region", .ofNat 7)], [("region", .text "US")]] ∧
      (applyFilters regions [inRegion.testing ⟨.equals, false⟩ "us" false] ++
        applyFilters regions [inRegion.testing ⟨.equals, true⟩ "us" false]).Perm
        [[("region", .text "US")], [("region", .ofNat 7)], [("region", .text "US")]] := by
  have hmalformed : Pattern.ofText? true "(".toList = none := by decide +kernel
  have hpattern := negation_splits inRegion ⟨.matchesPattern, false⟩ "(" false regions
  have hequals := negation_splits inRegion ⟨.equals, false⟩ "us" false regions
  obtain ⟨hnone, hall⟩ := hpattern.2.2.2 rfl hmalformed
  exact ⟨hmalformed, hnone, hall, hequals.2.2.1⟩

end Predicate

end LinkedControls
