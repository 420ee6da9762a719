import LinkedControls.Text.Case
import Mathlib.Data.List.TakeWhile

/-!
The lower case of a text inside a longer one. A character is lowered by itself, save for a capital sigma,
which takes another form at the end of a word; so a text is lowered differently inside a longer one only
where its first or its last sigma may or may not end a word.
-/

namespace LinkedControls.Text

def endsWord (before after : List Char) : Bool := meetsCased before && !meetsCased after

/-- The lower case of a text between two others. The one before it is given last character first. -/
def lowerBetween (before after : List Char) : List Char → List Char
  | [] => []
  | c :: rest =>
      (if c = 'Σ' then if endsWord before (rest ++ after) then ['ς'] else ['σ'] else lowerCharacter c) ++
        lowerBetween (c :: before) after rest

variable {before before' after after' s t : List Char}

theorem toLowerAfter_eq (before s : List Char) : toLowerAfter before s = lowerBetween before [] s := by
  induction s generalizing before with
  | nil => rfl
  | cons c rest ih =>
    rw [toLowerAfter, lowerBetween, ih, List.append_nil]
    rfl

theorem toLower_eq (s : List Char) : toLower s = lowerBetween [] [] s := toLowerAfter_eq [] s

theorem lowerBetween_append (before after s t : List Char) :
    lowerBetween before after (s ++ t) =
      lowerBetween before (t ++ after) s ++ lowerBetween (s.reverse ++ before) after t := by
  induction s generalizing before with
  | nil => rfl
  | cons c s ih =>
    simp only [List.cons_append, lowerBetween, ih, List.append_assoc, List.reverse_cons, List.nil_append]

theorem lowerBetween_sigma (before after rest : List Char) :
    lowerBetween before after ('Σ' :: rest) =
      (if endsWord before (rest ++ after) then 'ς' else 'σ') :: lowerBetween ('Σ' :: before) after rest := by
  rw [lowerBetween, if_pos rfl]
  split <;> rfl

theorem lowerBetween_congr
    (h : ∀ front back, s = front ++ 'Σ' :: back →
      endsWord (front.reverse ++ before) (back ++ after) =
        endsWord (front.reverse ++ before') (back ++ after')) :
    lowerBetween before after s = lowerBetween before' after' s := by
  induction s generalizing before before' with
  | nil => rfl
  | cons c rest ih =>
    have hrest : lowerBetween (c :: before) after rest = lowerBetween (c :: before') after' rest := by
      refine ih fun front back hs => ?_
      have hfront := h (c :: front) back (congrArg (c :: ·) hs)
      simpa using hfront
    rw [lowerBetween, lowerBetween, hrest]
    by_cases hc : c = 'Σ'
    · subst hc
      have hhere : endsWord before (rest ++ after) = endsWord before' (rest ++ after') := h [] rest rfl
      rw [hhere]
    · rw [if_neg hc, if_neg hc]

theorem isCaseIgnorable_sigma : isCaseIgnorable 'Σ' = false := by decide +kernel

theorem meetsCased_of_all (h : ∀ c ∈ s, isCaseIgnorable c = true) : meetsCased s = false := by
  rw [meetsCased, List.dropWhile_eq_nil_iff.mpr h]

theorem meetsCased_append_of_all (h : ∀ c ∈ s, isCaseIgnorable c = true) (t : List Char) :
    meetsCased (s ++ t) = meetsCased t := by
  rw [meetsCased, List.dropWhile_append_of_pos h, ← meetsCased]

theorem meetsCased_append_of_not_all (h : ¬ ∀ c ∈ s, isCaseIgnorable c = true) (t : List Char) :
    meetsCased (s ++ t) = meetsCased s := by
  obtain ⟨c, rest, hrest⟩ := List.exists_cons_of_ne_nil (mt List.dropWhile_eq_nil_iff.mp h)
  rw [meetsCased, meetsCased, List.dropWhile_append, hrest]
  rfl

theorem meetsCased_append_of_meetsCased (h : meetsCased s = true) (t : List Char) :
    meetsCased (s ++ t) = true := by
  rw [meetsCased_append_of_not_all _ t, h]
  intro hall
  rw [meetsCased_of_all hall] at h
  cases h

theorem meetsCased_append_sigma (s t t' : List Char) :
    meetsCased (s ++ 'Σ' :: t) = meetsCased (s ++ 'Σ' :: t') := by
  have hsigma : ¬ ∀ c ∈ s ++ ['Σ'], isCaseIgnorable c = true := fun h => by
    have hlast := h 'Σ' List.mem_concat_self
    rw [isCaseIgnorable_sigma] at hlast
    cases hlast
  rw [List.append_cons, List.append_cons s 'Σ' t', meetsCased_append_of_not_all hsigma,
    meetsCased_append_of_not_all hsigma]

theorem lowerBetween_before_sigma (before t t' s : List Char) :
    lowerBetween before ('Σ' :: t) s = lowerBetween before ('Σ' :: t') s :=
  lowerBetween_congr fun _ back _ => by rw [endsWord, endsWord, meetsCased_append_sigma back t t']

theorem lowerBetween_after_sigma (t t' after s : List Char) :
    lowerBetween ('Σ' :: t) after s = lowerBetween ('Σ' :: t') after s :=
  lowerBetween_congr fun front _ _ => by
    rw [endsWord, endsWord, meetsCased_append_sigma front.reverse t t']

theorem lowerBetween_of_all (h : ∀ c ∈ s, isCaseIgnorable c = true) (before before' after after' : List Char) :
    lowerBetween before after s = lowerBetween before' after' s :=
  lowerBetween_congr fun front back hs => by
    have hsigma := h 'Σ' (hs ▸ List.mem_append_right front List.mem_cons_self)
    rw [isCaseIgnorable_sigma] at hsigma
    cases hsigma

/-- The last sigma ends a word, as long as the text does not go on. -/
def EndsInSigma (s : List Char) : Prop :=
  ∃ front back, s = front ++ 'Σ' :: back ∧ meetsCased front.reverse = true ∧
    ∀ c ∈ back, isCaseIgnorable c = true

/-- The first sigma ends a word, as soon as one goes before the text. -/
def OpensWithSigma (s : List Char) : Prop :=
  ∃ front back, s = front ++ 'Σ' :: back ∧ (∀ c ∈ front, isCaseIgnorable c = true) ∧
    meetsCased back = false

theorem lowerBetween_eq_toLower (hbefore : ¬ (OpensWithSigma s ∧ meetsCased before = true))
    (hafter : ¬ (EndsInSigma s ∧ meetsCased after = true)) : lowerBetween before after s = toLower s := by
  rw [toLower_eq]
  refine lowerBetween_congr fun front back hs => ?_
  rw [List.append_nil, List.append_nil, endsWord, endsWord]
  by_cases hfront : ∀ c ∈ front.reverse, isCaseIgnorable c = true
  · rw [meetsCased_append_of_all hfront, meetsCased_of_all hfront, Bool.false_and]
    cases hmeets : meetsCased before with
    | false => rfl
    | true =>
      have hback : meetsCased back = true := by
        by_contra hback
        exact hbefore ⟨⟨front, back, hs, by simpa using hfront, by simpa using hback⟩, hmeets⟩
      rw [meetsCased_append_of_meetsCased hback]
      rfl
  · rw [meetsCased_append_of_not_all hfront]
    by_cases hback : ∀ c ∈ back, isCaseIgnorable c = true
    · rw [meetsCased_append_of_all hback, meetsCased_of_all hback]
      cases hmeets : meetsCased after with
      | false => rfl
      | true =>
        have hfront : meetsCased front.reverse = false := by
          by_contra hfront
          exact hafter ⟨⟨front, back, hs, by simpa using hfront, hback⟩, hmeets⟩
        rw [hfront, Bool.false_and, Bool.false_and]
    · rw [meetsCased_append_of_not_all hback]

theorem toLower_prefix (h : ¬ (EndsInSigma s ∧ meetsCased t = true)) : toLower s <+: toLower (s ++ t) := by
  have hs : lowerBetween [] (t ++ []) s = toLower s := by
    rw [List.append_nil]
    exact lowerBetween_eq_toLower (fun hopens => Bool.false_ne_true hopens.2) h
  rw [toLower_eq (s ++ t), lowerBetween_append, hs]
  exact List.prefix_append _ _

theorem toLower_suffix (h : ¬ (OpensWithSigma s ∧ meetsCased t.reverse = true)) :
    toLower s <:+ toLower (t ++ s) := by
  have hs : lowerBetween (t.reverse ++ []) [] s = toLower s := by
    rw [List.append_nil]
    exact lowerBetween_eq_toLower h fun hends => Bool.false_ne_true hends.2
  rw [toLower_eq (t ++ s), lowerBetween_append, hs]
  exact List.suffix_append _ _

theorem toLower_infix (hopens : ¬ OpensWithSigma s) (hends : ¬ EndsInSigma s) (t u : List Char) :
    toLower s <:+: toLower (t ++ s ++ u) := by
  rw [toLower_eq (t ++ s ++ u), lowerBetween_append, lowerBetween_append,
    lowerBetween_eq_toLower (fun h => hopens h.1) fun h => hends h.1]
  exact List.infix_append _ _ _

theorem toLower_append_of_endsInSigma (h : EndsInSigma s) (ht : meetsCased t = true) :
    ∃ front back, toLower s = front ++ 'ς' :: back ∧
      toLower (s ++ t) = front ++ 'σ' :: back ++ lowerBetween s.reverse [] t := by
  obtain ⟨front, back, rfl, hfront, hback⟩ := h
  have hfinal : endsWord (front.reverse ++ []) (back ++ []) = true := by
    rw [List.append_nil, List.append_nil, endsWord, hfront, meetsCased_of_all hback]
    rfl
  have hinside : endsWord (front.reverse ++ []) (back ++ t) = false := by
    rw [endsWord, meetsCased_append_of_all hback, ht, Bool.not_true, Bool.and_false]
  refine ⟨lowerBetween [] ['Σ'] front, lowerBetween ['Σ'] [] back, ?_, ?_⟩
  · rw [toLower_eq, lowerBetween_append, lowerBetween_sigma, hfinal, if_pos rfl, List.cons_append,
      lowerBetween_before_sigma [] _ [], lowerBetween_of_all hback _ ['Σ'] _ []]
  · rw [toLower_eq, lowerBetween_append, lowerBetween_append, lowerBetween_sigma, List.append_nil t, hinside,
      if_neg Bool.false_ne_true, List.cons_append, lowerBetween_before_sigma [] _ [],
      lowerBetween_of_all hback _ ['Σ'] _ [], List.append_nil]

theorem toLower_append_of_opensWithSigma (h : OpensWithSigma s) (ht : meetsCased t.reverse = true) :
    ∃ front back, toLower s = front ++ 'σ' :: back ∧
      toLower (t ++ s) = lowerBetween [] s t ++ (front ++ 'ς' :: back) := by
  obtain ⟨front, back, rfl, hfront, hback⟩ := h
  have hfront' : ∀ c ∈ front.reverse, isCaseIgnorable c = true := by simpa using hfront
  have hfirst : endsWord (front.reverse ++ []) (back ++ []) = false := by
    rw [List.append_nil, endsWord, meetsCased_of_all hfront']
    rfl
  have hfinal : endsWord (front.reverse ++ (t.reverse ++ [])) (back ++ []) = true := by
    rw [List.append_nil, List.append_nil, endsWord, meetsCased_append_of_all hfront', ht, hback]
    rfl
  refine ⟨lowerBetween [] [] front, lowerBetween ['Σ'] [] back, ?_, ?_⟩
  · rw [toLower_eq, lowerBetween_append, lowerBetween_sigma, hfirst, if_neg Bool.false_ne_true,
      lowerBetween_of_all hfront _ [] _ [], lowerBetween_after_sigma _ []]
  · rw [toLower_eq, lowerBetween_append, lowerBetween_append, lowerBetween_sigma, hfinal, if_pos rfl,
      lowerBetween_of_all hfront _ [] _ [], lowerBetween_after_sigma _ [], List.append_nil]

theorem toLower_prefix_iff :
    toLower s <+: toLower (s ++ t) ↔ ¬ (EndsInSigma s ∧ meetsCased t = true) := by
  refine ⟨fun hprefix ⟨hends, ht⟩ => ?_, toLower_prefix⟩
  obtain ⟨front, back, hshort, hlong⟩ := toLower_append_of_endsInSigma hends ht
  rw [hshort, hlong, List.append_assoc, List.prefix_append_right_inj, List.cons_append,
    List.cons_prefix_cons] at hprefix
  exact absurd hprefix.1 (by decide)

theorem toLower_suffix_iff :
    toLower s <:+ toLower (t ++ s) ↔ ¬ (OpensWithSigma s ∧ meetsCased t.reverse = true) := by
  refine ⟨fun hsuffix ⟨hopens, ht⟩ => ?_, toLower_suffix⟩
  obtain ⟨front, back, hshort, hlong⟩ := toLower_append_of_opensWithSigma hopens ht
  have hlength : (toLower s).length = (front ++ 'ς' :: back).length := by
    rw [hshort, List.length_append, List.length_append]
    rfl
  rw [hlong] at hsuffix
  have heq := (List.suffix_of_suffix_length_le hsuffix (List.suffix_append _ _) hlength.le).eq_of_length
    hlength
  rw [hshort, List.append_cancel_left_eq, List.cons.injEq] at heq
  exact absurd heq.1 (by decide)

theorem not_infix_of_replaced {front back lead tail : List Char} {c d : Char} (hcd : c ≠ d)
    (hlead : c ∉ lead) (htail : c ∉ tail) :
    ¬ (front ++ c :: back) <:+: (lead ++ (front ++ d :: back) ++ tail) := by
  intro h
  have hcount := h.sublist.count_le c
  simp only [List.count_append, List.count_cons_self, List.count_cons_of_ne hcd.symm,
    List.count_eq_zero_of_not_mem hlead, List.count_eq_zero_of_not_mem htail] at hcount
  omega

theorem meetsCased_a : meetsCased ['a'] = true := by decide +kernel

theorem lowerBetween_a (before after : List Char) : lowerBetween before after ['a'] = ['a'] := rfl

theorem not_infix_toLower_append (h : EndsInSigma s) : ¬ toLower s <:+: toLower (s ++ ['a']) := by
  obtain ⟨front, back, hshort, hlong⟩ := toLower_append_of_endsInSigma h meetsCased_a
  rw [hshort, hlong, lowerBetween_a]
  exact not_infix_of_replaced (by decide) List.not_mem_nil (by decide)

theorem not_infix_toLower_cons (h : OpensWithSigma s) : ¬ toLower s <:+: toLower (['a'] ++ s) := by
  obtain ⟨front, back, hshort, hlong⟩ := toLower_append_of_opensWithSigma (t := ['a']) h meetsCased_a
  rw [hshort, hlong, lowerBetween_a, ← List.append_nil (['a'] ++ _)]
  exact not_infix_of_replaced (by decide) (by decide) List.not_mem_nil

end LinkedControls.Text
