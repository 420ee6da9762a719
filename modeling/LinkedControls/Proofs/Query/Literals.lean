import LinkedControls.Proofs.Calendar.DateText
import LinkedControls.Proofs.Decimal.ReadBack
import LinkedControls.Proofs.Query.Masking
import LinkedControls.Proofs.Text.Split

/-!
The quotes in literals. Every literal has an even number of them, and between the outer two of a quoted
one they come in pairs.
-/

namespace LinkedControls

open Safety

def quotes (s : List Char) : Nat := s.count '\''

theorem quotes_cons (c : Char) (s : List Char) :
    quotes (c :: s) = quotes s + if c = '\'' then 1 else 0 := by
  simp [quotes, List.count_cons]

theorem quotes_append (s t : List Char) : quotes (s ++ t) = quotes s + quotes t :=
  List.count_append

theorem quotes_of_not_mem {s : List Char} (h : '\'' ∉ s) : quotes s = 0 := List.count_eq_zero.mpr h

def endsInside (inside : Bool) (s : List Char) : Bool := inside != decide (quotes s % 2 = 1)

theorem endsInside_quote (inside : Bool) (s : List Char) :
    endsInside inside ('\'' :: s) = endsInside (!inside) s := by
  have hparity : (quotes s + 1) % 2 = 1 ↔ ¬ quotes s % 2 = 1 := by omega
  rw [endsInside, endsInside, quotes_cons, if_pos rfl, decide_eq_decide.mpr hparity, decide_not]
  cases inside <;> simp

theorem endsInside_of_ne {c : Char} (hc : c ≠ '\'') (inside : Bool) (s : List Char) :
    endsInside inside (c :: s) = endsInside inside s := by
  rw [endsInside, endsInside, quotes_cons, if_neg hc, Nat.add_zero]

theorem endsInside_of_even {s : List Char} (h : quotes s % 2 = 0) (inside : Bool) :
    endsInside inside s = inside := by
  simp [endsInside, h]

theorem quotes_doubleQuotes (s : List Char) : quotes (doubleQuotes s) = 2 * quotes s := by
  induction s with
  | nil => rfl
  | cons c s ih =>
    rw [doubleQuotes, List.flatMap_cons, ← doubleQuotes, quotes_append, ih, quotes_cons]
    by_cases hc : c = '\''
    · rw [if_pos hc, if_pos hc, Nat.mul_add, Nat.add_comm]
      rfl
    · rw [if_neg hc, if_neg hc, quotes_cons, if_neg hc]
      exact Nat.zero_add _

theorem quotes_quoteLiteral (s : List Char) : quotes (quoteLiteral s) = 2 * quotes s + 2 := by
  rw [quoteLiteral, quotes_cons, quotes_append, quotes_doubleQuotes]
  rfl

theorem quotes_join (lead : List Char) (hlead : quotes lead = 0) {pieces : List (List Char)}
    (h : ∀ piece ∈ pieces, quotes piece % 2 = 0) : quotes (Text.join lead pieces) % 2 = 0 := by
  induction pieces with
  | nil => rfl
  | cons piece pieces ih =>
    obtain ⟨hpiece, hpieces⟩ := List.forall_mem_cons.mp h
    cases pieces with
    | nil => exact hpiece
    | cons next pieces =>
      have hrest := ih hpieces
      rw [Text.join_cons_cons, quotes_append, quotes_append]
      omega

theorem quotes_literal {v : Value} {l : List Char} (h : v.literal? = some l) : quotes l % 2 = 0 := by
  have hquoted (s : List Char) : quotes (quoteLiteral s) % 2 = 0 := by
    rw [quotes_quoteLiteral]
    omega
  cases v with
  | null => cases h; rfl
  | text s => cases h; exact hquoted _
  | date d => cases h; exact hquoted _
  | dateRange r => cases h
  | numberRange r => cases h
  | boolean b => cases h; cases b <;> rfl
  | number x =>
    simp only [Value.literal?, Option.ite_none_right_eq_some, Option.some.injEq] at h
    obtain ⟨hx, rfl⟩ := h
    rw [quotes_of_not_mem fun hc => ?_]
    rcases Decimal.Binary64.mem_toText hx hc with hd | hd | hd <;> revert hd <;> decide
  | list items =>
    cases items with
    | nil => cases h; rfl
    | cons item items =>
      cases h
      have hpieces : ∀ piece ∈ (item :: items).map fun s => quoteLiteral s.toList,
          quotes piece % 2 = 0 := by
        intro piece hp
        obtain ⟨item, -, rfl⟩ := List.mem_map.mp hp
        exact hquoted _
      have hjoin := quotes_join [',', ' '] rfl hpieces
      rw [quotes_cons, quotes_append]
      exact hjoin

theorem content_doubleQuotes (s : List Char) : Content (doubleQuotes s) := by
  induction s with
  | nil => exact .nil
  | cons c s ih =>
    rw [doubleQuotes, List.flatMap_cons, ← doubleQuotes]
    by_cases hc : c = '\''
    · subst hc
      exact .pair ih
    · rw [if_neg hc]
      exact .char hc ih

end LinkedControls
