import LinkedControls.Text.Percent

/-!
What percent-encoded texts read as: an escaped text as the text itself, and a text with a separator in
it as what its two sides read as.
-/

namespace LinkedControls.Text

theorem hexDigit?_hexUpper {n : Nat} (h : n < 16) : hexDigit? (hexUpper n) = some n := by
  have all : ∀ n : Fin 16, hexDigit? (hexUpper n) = some n.val := by decide
  exact all ⟨n, h⟩

theorem hexByte?_hexUpper (b : UInt8) :
    hexByte? (hexUpper (b.toNat / 16)) (hexUpper (b.toNat % 16)) = some b := by
  have hb : b.toNat < 256 := b.toNat_lt
  have hsum : 16 * (b.toNat / 16) + b.toNat % 16 = b.toNat := by omega
  rw [hexByte?, hexDigit?_hexUpper (by omega), hexDigit?_hexUpper (by omega)]
  change some (UInt8.ofNat (16 * (b.toNat / 16) + b.toNat % 16)) = some b
  rw [hsum, UInt8.ofNat_toNat]

theorem componentBytes_cons {c : Char} (hc : c ≠ '%') (s : List Char) :
    componentBytes (c :: s) = String.utf8EncodeChar c ++ componentBytes s :=
  componentBytes.eq_3 c s fun _ _ _ he _ => hc he

theorem componentBytes_percentByte (b : UInt8) (s : List Char) :
    componentBytes (percentByte b ++ s) = b :: componentBytes s := by
  simp [percentByte, componentBytes, hexByte?_hexUpper b]

theorem componentBytes_flatMap_percentByte (bytes : List UInt8) (s : List Char) :
    componentBytes (bytes.flatMap percentByte ++ s) = bytes ++ componentBytes s := by
  induction bytes with
  | nil => rfl
  | cons b bytes ih =>
    rw [List.flatMap_cons, List.append_assoc, componentBytes_percentByte, ih, List.cons_append]

theorem ne_percent_of_isUnreserved {c : Char} (h : isUnreserved c) : c ≠ '%' := by
  rintro rfl
  exact absurd h (by decide)

theorem escapeComponent_cons (c : Char) (s : List Char) :
    escapeComponent (c :: s) =
      (if isUnreserved c then [c] else percentCharacter c) ++ escapeComponent s := by
  simp [escapeComponent]

theorem componentBytes_escapeComponent (s rest : List Char) :
    componentBytes (escapeComponent s ++ rest) =
      s.flatMap String.utf8EncodeChar ++ componentBytes rest := by
  induction s with
  | nil => rfl
  | cons c s ih =>
    rw [escapeComponent_cons, List.flatMap_cons, List.append_assoc, List.append_assoc, ← ih]
    by_cases hc : isUnreserved c
    · rw [if_pos hc]
      exact componentBytes_cons (ne_percent_of_isUnreserved hc) _
    · rw [if_neg hc, percentCharacter, componentBytes_flatMap_percentByte]

theorem ofBytes?_eq_some {bytes : List UInt8} {s : List Char} :
    ofBytes? bytes = some s ↔ bytes = s.flatMap String.utf8EncodeChar := by
  have hbytes : ByteArray.mk bytes.toArray = bytes.toByteArray :=
    ByteArray.ext List.data_toByteArray.symm
  rw [ofBytes?, hbytes]
  constructor
  · intro h
    obtain ⟨cs, hcs, rfl⟩ := Option.map_eq_some_iff.mp h
    obtain ⟨l, hl⟩ := ByteArray.isSome_utf8Decode?_iff.mp (Option.isSome_of_eq_some hcs)
    rw [hl, List.utf8Decode?_utf8Encode] at hcs
    obtain rfl := Option.some.inj hcs
    exact List.toByteArray_inj.mp hl
  · rintro rfl
    change s.utf8Encode.utf8Decode?.map Array.toList = some s
    rw [List.utf8Decode?_utf8Encode]
    rfl

theorem unescapeComponent?_eq_some {s t : List Char} :
    unescapeComponent? s = some t ↔ componentBytes s = t.flatMap String.utf8EncodeChar :=
  ofBytes?_eq_some

theorem unescapeComponent?_escapeComponent (s : List Char) :
    unescapeComponent? (escapeComponent s) = some s := by
  rw [unescapeComponent?_eq_some]
  simpa [componentBytes] using componentBytes_escapeComponent s []

theorem mem_percentByte {b : UInt8} {c : Char} (h : c ∈ percentByte b) :
    isUnreserved c ∨ c = '%' := by
  have hex : ∀ n : Fin 16, isUnreserved (hexUpper n.val) := by decide
  have hb : b.toNat < 256 := b.toNat_lt
  simp only [percentByte, List.mem_cons, List.not_mem_nil, or_false] at h
  rcases h with rfl | rfl | rfl
  · exact .inr rfl
  · exact .inl (hex ⟨b.toNat / 16, by omega⟩)
  · exact .inl (hex ⟨b.toNat % 16, by omega⟩)

theorem mem_escapeComponent {s : List Char} {c : Char} (h : c ∈ escapeComponent s) :
    isUnreserved c ∨ c = '%' := by
  obtain ⟨d, _, hd⟩ := List.mem_flatMap.mp h
  by_cases hu : isUnreserved d
  · rw [if_pos hu] at hd
    exact .inl (List.mem_singleton.mp hd ▸ hu)
  · rw [if_neg hu] at hd
    obtain ⟨b, _, hb⟩ := List.mem_flatMap.mp hd
    exact mem_percentByte hb

theorem not_mem_escapeComponent {c : Char} (hc : isUnreserved c = false) (hp : c ≠ '%')
    (s : List Char) : c ∉ escapeComponent s := by
  intro h
  rcases mem_escapeComponent h with hu | rfl
  · exact absurd hu (by simp [hc])
  · exact hp rfl

theorem escapeComponent_eq_nil {s : List Char} : escapeComponent s = [] ↔ s = [] := by
  constructor
  · intro h
    have hs := unescapeComponent?_escapeComponent s
    rw [h] at hs
    exact (Option.some.inj hs).symm
  · rintro rfl
    rfl

theorem escapeComponent_of_forall {s : List Char} (h : ∀ c ∈ s, isUnreserved c = true) :
    escapeComponent s = s := by
  induction s with
  | nil => rfl
  | cons c s ih =>
    obtain ⟨hc, hs⟩ := List.forall_mem_cons.mp h
    rw [escapeComponent_cons, if_pos hc, ih hs]
    rfl

theorem unescapeComponent?_of_not_mem {s : List Char} (h : '%' ∉ s) :
    unescapeComponent? s = some s := by
  rw [unescapeComponent?_eq_some]
  induction s with
  | nil => rfl
  | cons c s ih =>
    simp only [List.mem_cons, not_or] at h
    rw [componentBytes_cons (Ne.symm h.1), List.flatMap_cons, ih h.2]

theorem componentBytes_ne_nil {s : List Char} (h : s ≠ []) : componentBytes s ≠ [] := by
  fun_cases componentBytes s
  case case1 => exact absurd rfl h
  case case2 => exact List.cons_ne_nil _ _
  all_goals exact List.append_ne_nil_of_left_ne_nil String.utf8EncodeChar_ne_nil _

theorem unescapeComponent?_eq_nil {s : List Char} : unescapeComponent? s = some [] ↔ s = [] := by
  rw [unescapeComponent?_eq_some]
  constructor
  · exact fun h => Decidable.byContradiction fun hs => componentBytes_ne_nil hs h
  · rintro rfl
    rfl

theorem hexByte?_eq_none {h l : Char} (hc : hexDigit? h = none ∨ hexDigit? l = none) :
    hexByte? h l = none := by
  unfold hexByte?
  rcases hc with hc | hc
  · rw [hc]
    rfl
  · rw [hc]
    cases hexDigit? h <;> rfl

theorem componentBytes_percent {s : List Char}
    (h : ∀ x y rest, s = x :: y :: rest → hexByte? x y = none) :
    componentBytes ('%' :: s) = String.utf8EncodeChar '%' ++ componentBytes s := by
  match s with
  | [] => rfl
  | [x] => rfl
  | x :: y :: rest => rw [componentBytes, h x y rest rfl]

theorem componentBytes_append_separator {c : Char} (hc : hexDigit? c = none) (a b : List Char) :
    componentBytes (a ++ c :: b) = componentBytes a ++ componentBytes (c :: b) := by
  fun_induction componentBytes a with
  | case1 => rfl
  | case2 h l rest byte hb ih =>
    simp only [List.cons_append, componentBytes, hb, ih]
  | case3 h l rest hb ih =>
    have hnone : ∀ x y tail, h :: l :: rest ++ c :: b = x :: y :: tail → hexByte? x y = none := by
      intro x y tail he
      obtain ⟨rfl, rfl, _⟩ : h = x ∧ l = y ∧ _ := by simpa using he
      exact hb
    rw [List.cons_append, componentBytes_percent hnone, ih, List.append_assoc]
  | case4 d rest hd ih =>
    by_cases hp : d = '%'
    · subst hp
      have hnone : ∀ x y tail, rest ++ c :: b = x :: y :: tail → hexByte? x y = none := by
        intro x y tail he
        match rest, hd with
        | [], _ => exact hexByte?_eq_none (.inl ((List.cons.inj he).1 ▸ hc))
        | [_], _ =>
          obtain ⟨_, rfl, _⟩ : _ = x ∧ c = y ∧ _ := by simpa using he
          exact hexByte?_eq_none (.inr hc)
        | h :: l :: rest, hd => exact absurd rfl (hd h l rest rfl)
      rw [List.cons_append, componentBytes_percent hnone, ih, List.append_assoc]
    · rw [List.cons_append, componentBytes_cons hp, ih, List.append_assoc]

theorem unescapeComponent?_append_separator {c : Char} (hc : hexDigit? c = none) (hp : c ≠ '%')
    {a b x y : List Char} (ha : unescapeComponent? a = some x) (hb : unescapeComponent? b = some y) :
    unescapeComponent? (a ++ c :: b) = some (x ++ c :: y) := by
  rw [unescapeComponent?_eq_some] at ha hb ⊢
  rw [componentBytes_append_separator hc, componentBytes_cons hp, ha, hb, List.flatMap_append,
    List.flatMap_cons]

end LinkedControls.Text
