import LinkedControls.Proofs.Filter.Composition
import LinkedControls.Proofs.Text.Case
import LinkedControls.Proofs.Text.Split

/-!
Tests of texts that ignore letter case. What they keep beyond the tests that do not ignore it, and what
they lose: a text that is looked for may be lowered differently where it stands inside another one, and
that happens at capital sigmas alone.
-/

namespace LinkedControls

open Text

namespace TextMatcher

variable {needle s : List Char} {caseSensitive : Bool}

theorem testOf_equals_iff : testOf .equals needle caseSensitive s = true ↔
    foldText caseSensitive s = foldText caseSensitive needle :=
  beq_iff_eq

theorem testOf_contains_iff : testOf .contains needle caseSensitive s = true ↔
    foldText caseSensitive needle <:+: foldText caseSensitive s :=
  contains_iff

theorem testOf_startsWith_iff : testOf .startsWith needle caseSensitive s = true ↔
    foldText caseSensitive needle <+: foldText caseSensitive s :=
  List.isPrefixOf_iff_prefix

theorem testOf_endsWith_iff : testOf .endsWith needle caseSensitive s = true ↔
    foldText caseSensitive needle <:+ foldText caseSensitive s :=
  List.isSuffixOf_iff_suffix

end TextMatcher

def Predicate.seeking (p : Predicate) (test : TextTest) (needle : String) (caseSensitive : Bool) :
    Predicate :=
  { p with condition := .text ⟨test, false⟩ needle caseSensitive }

def TextTest.Widens (test : TextTest) (needle : String) : Prop :=
  ∀ (p : Predicate) (records : List Record),
    ∀ record ∈ applyFilters records [p.seeking test needle true],
      record ∈ applyFilters records [p.seeking test needle false]

namespace TextTest

variable {test : TextTest} {needle : String}

theorem accepts_seeking_iff {p : Predicate} {record : Record} {caseSensitive : Bool} :
    (p.seeking test needle caseSensitive).accepts record = true ↔
      ∃ s, (record.lookup p.column).bind Field.text? = some s ∧
        TextMatcher.testOf test needle.toList caseSensitive s.toList = true := by
  simp [Predicate.accepts, Predicate.seeking, Condition.accepts, Condition.matcher?, TextMatcher.accepts,
    TextMatcher.ofOp, Option.any_eq_true]

theorem widens_iff : test.Widens needle ↔ ∀ s : List Char,
    TextMatcher.testOf test needle.toList true s = true →
      TextMatcher.testOf test needle.toList false s = true := by
  have hkept (p : Predicate) (records : List Record) (record : Record) (caseSensitive : Bool) :
      record ∈ applyFilters records [p.seeking test needle caseSensitive] ↔ record ∈ records ∧ _ :=
    mem_applyFilters_singleton rfl rfl
  simp only [Widens, hkept, accepts_seeking_iff]
  constructor
  · intro h s hs
    obtain ⟨-, s', hs', htest⟩ := h ⟨"", .text, "name", .boolean true⟩ [[("name", .text (String.ofList s))]]
      [("name", .text (String.ofList s))]
      ⟨List.mem_singleton_self _, String.ofList s, rfl, by rwa [String.toList_ofList]⟩
    cases hs'
    rwa [String.toList_ofList] at htest
  · rintro h p records record ⟨hmem, s, hs, htest⟩
    exact ⟨hmem, s, hs, h s.toList htest⟩

theorem equals_widens (needle : String) : equals.Widens needle := by
  simp only [widens_iff, TextMatcher.testOf_equals_iff]
  intro s hs
  exact congrArg toLower hs

theorem startsWith_widens_iff : startsWith.Widens needle ↔ ¬ EndsInSigma needle.toList := by
  simp only [widens_iff, TextMatcher.testOf_startsWith_iff]
  constructor
  · intro h hends
    have hlong := h (needle.toList ++ ['a']) (List.prefix_append _ _)
    exact toLower_prefix_iff.mp hlong ⟨hends, meetsCased_a⟩
  · rintro h s ⟨rest, rfl⟩
    exact toLower_prefix fun hends => h hends.1

theorem endsWith_widens_iff : endsWith.Widens needle ↔ ¬ OpensWithSigma needle.toList := by
  simp only [widens_iff, TextMatcher.testOf_endsWith_iff]
  constructor
  · intro h hopens
    have hlong := h (['a'] ++ needle.toList) (List.suffix_append _ _)
    exact toLower_suffix_iff.mp hlong ⟨hopens, meetsCased_a⟩
  · rintro h s ⟨front, rfl⟩
    exact toLower_suffix fun hopens => h hopens.1

theorem contains_widens_iff :
    contains.Widens needle ↔ ¬ OpensWithSigma needle.toList ∧ ¬ EndsInSigma needle.toList := by
  simp only [widens_iff, TextMatcher.testOf_contains_iff]
  constructor
  · intro h
    refine ⟨fun hopens => ?_, fun hends => ?_⟩
    · exact not_infix_toLower_cons hopens (h (['a'] ++ needle.toList) (List.suffix_append _ _).isInfix)
    · exact not_infix_toLower_append hends (h (needle.toList ++ ['a']) (List.prefix_append _ _).isInfix)
  · rintro ⟨hopens, hends⟩ s ⟨front, rest, rfl⟩
    exact toLower_infix hopens hends front rest

theorem ignoring_case_widens_iff (needle : String) :
    equals.Widens needle ∧
    (startsWith.Widens needle ↔ ¬ EndsInSigma needle.toList) ∧
    (endsWith.Widens needle ↔ ¬ OpensWithSigma needle.toList) ∧
    (contains.Widens needle ↔ ¬ OpensWithSigma needle.toList ∧ ¬ EndsInSigma needle.toList) ∧
    (∀ rest, TextMatcher.testOf .startsWith needle.toList false (needle.toList ++ rest) = true ↔
      ¬ (EndsInSigma needle.toList ∧ meetsCased rest = true)) ∧
    ∀ front, TextMatcher.testOf .endsWith needle.toList false (front ++ needle.toList) = true ↔
      ¬ (OpensWithSigma needle.toList ∧ meetsCased front.reverse = true) := by
  simp only [TextMatcher.testOf_startsWith_iff, TextMatcher.testOf_endsWith_iff]
  exact ⟨equals_widens needle, startsWith_widens_iff, endsWith_widens_iff, contains_widens_iff,
    fun _ => toLower_prefix_iff, fun _ => toLower_suffix_iff⟩

theorem ignoring_case_loses_name :
    let names : List Record := [[("name", .text "ΑΣΑ")]]
    let named (caseSensitive : Bool) : Predicate :=
      ⟨"q", .text, "name", .text ⟨.startsWith, false⟩ "ΑΣ" caseSensitive⟩
    (applyFilters names [named true]).length = 1 ∧ (applyFilters names [named false]).length = 0 := by
  decide +kernel

end TextTest

end LinkedControls
