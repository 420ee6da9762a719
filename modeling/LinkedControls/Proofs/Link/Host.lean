import LinkedControls.Proofs.Link.NumberHost

namespace LinkedControls.Link

open Text

def IsLowered (c : Char) : Prop := c.toNat < 65 ∨ 90 < c.toNat

instance (c : Char) : Decidable (IsLowered c) := inferInstanceAs (Decidable (_ ∨ _))

theorem toLower_of_isLowered {c : Char} (h : IsLowered c) : c.toLower = c := by
  unfold Char.toLower
  rw [dif_neg]
  rintro ⟨hlow, hhigh⟩
  have hlow : 65 ≤ c.toNat := hlow
  have hhigh : c.toNat ≤ 90 := hhigh
  rcases h with h | h <;> omega

theorem isLowered_toLower (c : Char) : IsLowered c.toLower := by
  by_cases h : IsLowered c
  · rwa [toLower_of_isLowered h]
  · have hall : ∀ n : Fin 26, IsLowered (Char.ofNat (65 + n.val)).toLower := by decide
    obtain ⟨hlow, hhigh⟩ : 65 ≤ c.toNat ∧ c.toNat ≤ 90 := by
      unfold IsLowered at h
      omega
    have hc := hall ⟨c.toNat - 65, by omega⟩
    rwa [Nat.add_sub_cancel' hlow, Char.ofNat_toNat] at hc

theorem isLowered_ofNat {n : Nat} (h : n < 65 ∨ 90 < n) : IsLowered (Char.ofNat n) := by
  by_cases hvalid : n.isValidChar
  · rw [show Char.ofNat n = Char.ofNatAux n hvalid from dif_pos hvalid]
    exact h
  · rw [show Char.ofNat n = _ from dif_neg hvalid]
    exact .inl (by decide)

theorem isLowered_shifted {n : Nat} (h : 128 ≤ n) :
    shifted Table.lower n < 65 ∨ 90 < shifted Table.lower n := by
  have htable : ∀ s ∈ Table.lower, s.span.last < 128 ∨ 90 < s.span.first + s.amount := by
    decide +kernel
  unfold shifted
  split
  next s hs =>
    have hcovers := List.find?_some hs
    have hmem := List.mem_of_find?_eq_some hs
    simp only [Span.covers, Bool.and_eq_true, decide_eq_true_eq] at hcovers
    rcases htable s hmem with hlast | hfirst <;> omega
  next => exact .inr (by omega)

theorem isLowered_of_mem_lowerCharacter {c d : Char} (h : c ∈ lowerCharacter d) : IsLowered c := by
  unfold lowerCharacter at h
  split at h
  · obtain rfl := List.mem_singleton.mp h
    exact isLowered_toLower d
  next hd =>
    split at h
    next several hseveral =>
      obtain ⟨n, hn, rfl⟩ := List.mem_map.mp h
      have htable : ∀ e ∈ Table.lowerExpansions, ∀ n ∈ e.2, n < 65 ∨ 90 < n := by decide
      obtain ⟨before, after, he, -⟩ := List.lookup_eq_some_iff.mp hseveral
      exact isLowered_ofNat (htable (d.toNat, several) (he ▸ by simp) n hn)
    next =>
      obtain rfl := List.mem_singleton.mp h
      exact isLowered_ofNat (isLowered_shifted (Nat.le_of_not_lt hd))

theorem isLowered_of_mem_plainCharacter {c d : Char} (h : c ∈ plainCharacter d) : IsLowered c := by
  unfold plainCharacter at h
  dsimp only at h
  split at h
  · obtain rfl := List.mem_singleton.mp h
    exact .inl (by decide)
  · split at h
    · cases h
    · split at h
      · rw [List.mem_singleton.mp h]
        apply isLowered_toLower
      · exact isLowered_of_mem_lowerCharacter h

theorem plainCharacter_of_isLowered {c : Char} (hascii : c.toNat < 128) (h : IsLowered c) :
    plainCharacter c = [c] := by
  unfold plainCharacter
  dsimp only
  split
  next hpoint => omega
  next =>
    split
    next hgone => omega
    next =>
      split
      next hwide => omega
      next => rw [lowerCharacter, if_pos hascii, toLower_of_isLowered h]

open Punycode

theorem mem_writeGap {fuel bias place n : Nat} {c : Char} (h : c ∈ writeGap fuel bias place n) :
    ∃ m < 36, c = digit m := by
  induction fuel generalizing place n with
  | zero => cases h
  | succ fuel ih =>
    have hlow : 1 ≤ threshold place bias := Nat.le_max_left _ _
    have hhigh : threshold place bias ≤ 26 := by
      simp only [threshold, leastThreshold, greatestThreshold]
      omega
    rw [writeGap] at h
    split at h
    · exact ⟨n, by omega, List.mem_singleton.mp h⟩
    · rcases List.mem_cons.mp h with rfl | h
      · have hmod := Nat.mod_lt (n - threshold place bias)
          (show 0 < base - threshold place bias by simp only [base]; omega)
        simp only [base] at hmod ⊢
        exact ⟨_, by omega, rfl⟩
      · exact ih h

theorem mem_pass {plain n : Nat} {s : State} {c d : Char} (h : c ∈ (pass plain n s d).output) :
    c ∈ s.output ∨ ∃ m < 36, c = digit m := by
  unfold Punycode.pass at h
  split at h
  · exact .inl h
  · split at h
    · exact (List.mem_append.mp h).imp_right mem_writeGap
    · exact .inl h

theorem mem_foldl_pass {label : List Char} {plain n : Nat} {s : State} {c : Char}
    (h : c ∈ (label.foldl (pass plain n) s).output) : c ∈ s.output ∨ ∃ m < 36, c = digit m := by
  induction label generalizing s with
  | nil => exact .inl h
  | cons d label ih =>
    rcases ih h with h | h
    · exact mem_pass h
    · exact .inr h

theorem mem_insertAll {label : List Char} {plain : Nat} {others : List Nat} {start : Nat} {s : State}
    {c : Char} (h : c ∈ (insertAll label plain others start s).output) :
    c ∈ s.output ∨ ∃ m < 36, c = digit m := by
  induction others generalizing start s with
  | nil => exact .inl h
  | cons n others ih =>
    rcases ih h with h | h
    · exact (mem_foldl_pass h).imp_left id
    · exact .inr h

theorem mem_encodeLabel {label : List Char} {c : Char} (h : c ∈ encodeLabel label) :
    c ∈ label ∧ c.toNat < 128 ∨ c = '-' ∨ ∃ m < 36, c = digit m := by
  unfold encodeLabel at h
  split at h
  next hplain => exact .inl ⟨h, by simpa using List.all_eq_true.mp hplain c h⟩
  next =>
    rcases List.mem_append.mp h with h | h
    · simp only [List.mem_cons, List.not_mem_nil, or_false] at h
      rcases h with rfl | rfl | rfl | rfl
      · exact .inr (.inr ⟨23, by decide, rfl⟩)
      · exact .inr (.inr ⟨13, by decide, rfl⟩)
      · exact .inr (.inl rfl)
      · exact .inr (.inl rfl)
    · rcases mem_insertAll h with h | h
      · dsimp only at h
        split at h
        · cases h
        · rcases List.mem_append.mp h with h | h
          · obtain ⟨hmem, hascii⟩ := List.mem_filter.mp h
            exact .inl ⟨hmem, by simpa using hascii⟩
          · exact .inr (.inl (List.mem_singleton.mp h))
      · exact .inr (.inr h)

structure IsSettled (c : Char) : Prop where
  ascii : c.toNat < 128
  lowered : IsLowered c
  allowed : isForbidden c = false

theorem isSettled_iff {c : Char} :
    IsSettled c ↔ c.toNat < 128 ∧ IsLowered c ∧ isForbidden c = false :=
  ⟨fun h => ⟨h.ascii, h.lowered, h.allowed⟩, fun h => ⟨h.1, h.2.1, h.2.2⟩⟩

instance (c : Char) : Decidable (IsSettled c) := decidable_of_iff _ isSettled_iff.symm

theorem isSettled_digit {m : Nat} (h : m < 36) : IsSettled (digit m) := by
  have hall : ∀ m : Fin 36, IsSettled (digit m.val) := by decide
  exact hall ⟨m, h⟩

theorem domain?_of_isSettled {s : List Char} (h : ∀ c ∈ s, IsSettled c) : domain? s = .ok s := by
  have hpercent : '%' ∉ s := fun hmem => absurd (h _ hmem).allowed (by decide)
  have hmapped : s.flatMap plainCharacter = s := by
    induction s with
    | nil => rfl
    | cons c s ih =>
      obtain ⟨hc, hs⟩ := List.forall_mem_cons.mp h
      rw [List.flatMap_cons, plainCharacter_of_isLowered hc.ascii hc.lowered,
        ih hs fun hmem => hpercent (List.mem_cons_of_mem _ hmem)]
      rfl
  have hallowed : s.any isForbidden = false := List.any_eq_false.mpr fun c hc => by simp [(h c hc).allowed]
  have hlabels : (splitOn '.' s).map encodeLabel = splitOn '.' s := by
    refine (List.map_congr_left fun label hlabel => ?_).trans (List.map_id _)
    have hall : label.all (fun c => c.toNat < 128) = true :=
      List.all_eq_true.mpr fun c hc => by simpa using (h c ((of_mem_splitOn hlabel).2 hc)).ascii
    rw [encodeLabel, if_pos hall]
    rfl
  rw [domain?, unescapeComponent?_of_not_mem hpercent]
  simp only [hmapped, hallowed, hlabels, join_splitOn]
  rfl

theorem isSettled_of_domain? {s d : List Char} (h : domain? s = .ok d) : ∀ c ∈ d, IsSettled c := by
  unfold domain? at h
  split at h
  · cases h
  next plain _ =>
    dsimp only at h
    split at h
    · cases h
    next hallowed =>
      cases h
      intro c hc
      rcases mem_join hc with hc | ⟨_, hlabel, hc⟩
      · obtain rfl := List.mem_singleton.mp hc
        decide
      · obtain ⟨label, hsplit, rfl⟩ := List.mem_map.mp hlabel
        rcases mem_encodeLabel hc with ⟨hmem, hascii⟩ | rfl | ⟨m, hm, rfl⟩
        · have hmapped := (of_mem_splitOn hsplit).2 hmem
          obtain ⟨d, -, hd⟩ := List.mem_flatMap.mp hmapped
          refine ⟨hascii, isLowered_of_mem_plainCharacter hd, ?_⟩
          simpa using List.any_eq_false.mp (Bool.eq_false_iff.mpr hallowed) c hmapped
        · decide
        · exact isSettled_digit hm

theorem isSettled_of_mem_writeIpv4 {n : Nat} {c : Char} (h : c ∈ writeIpv4 n) : IsSettled c := by
  have hdigit : ∀ d < 10, IsSettled (Nat.digitChar d) := by decide
  rw [writeIpv4_eq] at h
  rcases mem_join h with h | ⟨piece, hpiece, h⟩
  · obtain rfl := List.mem_singleton.mp h
    decide
  · obtain ⟨place, -, rfl⟩ := List.mem_map.mp hpiece
    obtain ⟨d, hd, rfl⟩ := mem_toDigits (by decide) (by decide) h
    exact hdigit d hd

def hostMarks : List Char := [' ', '#', '/', ':', '?', '@', '[', '\\', ']', '|']

inductive HostForm : List Char → Prop
  | plain {s : List Char} : s ≠ [] → Plain hostMarks s → HostForm s
  | wide {pieces : List Nat} : pieces.length = 8 → Pieces pieces →
      HostForm ('[' :: (writeIpv6 pieces ++ [']']))

theorem HostForm.ne_nil {host : List Char} (h : HostForm host) : host ≠ [] := by
  cases h with
  | plain hne _ => exact hne
  | wide => exact List.cons_ne_nil _ _

theorem bracketed?_eq_ok {s h : List Char} (hs : bracketed? s = .ok h) :
    ∃ pieces, pieces.length = 8 ∧ Pieces pieces ∧ h = '[' :: (writeIpv6 pieces ++ [']']) := by
  unfold bracketed? at hs
  split at hs
  next pieces _ hpieces =>
    cases hs
    obtain ⟨hlength, hsmall⟩ := of_ipv6? hpieces
    exact ⟨pieces, hlength, hsmall, rfl⟩
  next => cases hs

theorem bracketed?_writeIpv6 {pieces : List Nat} (hlength : pieces.length = 8) (h : Pieces pieces) :
    bracketed? (writeIpv6 pieces ++ [']']) = .ok ('[' :: (writeIpv6 pieces ++ [']'])) := by
  rw [bracketed?, List.getLast?_concat, List.dropLast_concat, ipv6?_writeIpv6 hlength h]
  rfl

theorem plain_of_isSettled {s : List Char} (h : ∀ c ∈ s, IsSettled c) :
    Plain hostMarks s := by
  intro c hc
  obtain ⟨hascii, -, hallowed⟩ := h c hc
  have hseen := hallowed
  have hlist : hostMarks.all isForbidden = true := by decide
  simp only [isForbidden, Bool.or_eq_false_iff, decide_eq_false_iff_not, beq_eq_false_iff_ne] at hallowed
  refine isPlain_iff.mpr ⟨by omega, by omega, fun hmem => ?_⟩
  rw [List.all_eq_true.mp hlist c hmem] at hseen
  cases hseen

theorem not_bracket_of_isSettled {s rest : List Char} (h : ∀ c ∈ s, IsSettled c) : s ≠ '[' :: rest := by
  rintro rfl
  exact absurd (h '[' List.mem_cons_self).allowed (by decide)

def settleDomain (d : List Char) : Except UrlError (List Char) :=
  if d.isEmpty then .error .emptyHost
  else if endsInNumber d then
    match ipv4? d with
    | some n => .ok (writeIpv4 n)
    | none => .error .invalidIpv4
  else .ok d

theorem specialHost_eq {s : List Char} (h : ∀ rest, s ≠ '[' :: rest) :
    specialHost s = domain? s >>= settleDomain := by
  unfold specialHost
  split
  next rest => exact absurd rfl (h rest)
  next =>
    refine congrArg (domain? s >>= ·) (funext fun d => ?_)
    unfold settleDomain
    cases hd : d.isEmpty
    · cases he : endsInNumber d
      · rfl
      · cases hn : ipv4? d <;> rfl
    · rfl

theorem specialHost_of_isSettled {d : List Char} (h : ∀ c ∈ d, IsSettled c) :
    specialHost d = settleDomain d := by
  rw [specialHost_eq fun rest => not_bracket_of_isSettled h, domain?_of_isSettled h]
  rfl

theorem settleDomain_idem {d host : List Char} (h : ∀ c ∈ d, IsSettled c)
    (hd : settleDomain d = .ok host) :
    (∀ c ∈ host, IsSettled c) ∧ host ≠ [] ∧ settleDomain host = .ok host := by
  have hwhole := hd
  unfold settleDomain at hd
  split at hd
  · cases hd
  next hne =>
    split at hd
    · split at hd
      next n hn =>
        cases hd
        obtain ⟨m, hm, hsame⟩ := ipv4?_writeIpv4 n
        have hhost : writeIpv4 n ≠ [] := by
          rw [writeIpv4_eq]
          exact join_ne_nil Nat.toDigits_ne_nil _ _
        refine ⟨fun c => isSettled_of_mem_writeIpv4, hhost, ?_⟩
        rw [settleDomain, if_neg (by simpa using hhost), if_pos (endsInNumber_writeIpv4 n), hm]
        exact congrArg Except.ok hsame
      next => cases hd
    · cases hd
      exact ⟨h, by simpa using hne, hwhole⟩

theorem specialHost_idem {s host : List Char} (h : specialHost s = .ok host) :
    specialHost host = .ok host ∧ HostForm host := by
  by_cases hs : ∃ rest, s = '[' :: rest
  · obtain ⟨rest, rfl⟩ := hs
    obtain ⟨pieces, hlength, hsmall, rfl⟩ := bracketed?_eq_ok h
    exact ⟨bracketed?_writeIpv6 hlength hsmall, .wide hlength hsmall⟩
  · rw [specialHost_eq fun rest hrest => hs ⟨rest, hrest⟩] at h
    obtain ⟨d, hd, hhost⟩ := bind_eq_ok h
    obtain ⟨hsettled, hne, hidem⟩ := settleDomain_idem (isSettled_of_domain? hd) hhost
    exact ⟨(specialHost_of_isSettled hsettled).trans hidem, .plain hne (plain_of_isSettled hsettled)⟩

def opaqueMarks : List Char := "\t\n\r #/:<>?@[\\]^|".toList

theorem any_isForbiddenOpaque {s : List Char} (h : Plain opaqueMarks s) :
    s.any isForbiddenOpaque = false := by
  refine List.any_eq_false.mpr fun c hc => ?_
  obtain ⟨hlow, -, hmem⟩ := isPlain_iff.mp (h c hc)
  have hzero : c.toNat ≠ 0 := by omega
  have hlist : opaqueMarks.contains c = false := by simpa using hmem
  have hwhole : isForbiddenOpaque c = (c.toNat == 0 || opaqueMarks.contains c) := rfl
  rw [hwhole, hlist]
  simpa using hzero

theorem opaqueHost_idem {s host : List Char} (hne : s ≠ []) (h : opaqueHost s = .ok host) :
    opaqueHost host = .ok host ∧ HostForm host := by
  unfold opaqueHost at h
  split at h
  next rest =>
    obtain ⟨pieces, hlength, hsmall, rfl⟩ := bracketed?_eq_ok h
    exact ⟨bracketed?_writeIpv6 hlength hsmall, .wide hlength hsmall⟩
  next =>
    split at h
    · cases h
    next hallowed =>
      cases h
      have hfree : ∀ c ∈ s, isForbiddenOpaque c = false := by simpa using hallowed
      have hplain : Plain opaqueMarks (percentEncode [] s) := by
        refine plain_percentEncode_of_not_mem (by decide) fun c hc _ hs => ?_
        have hall : opaqueMarks.all isForbiddenOpaque = true := by decide
        have hforbidden := List.all_eq_true.mp hall c hc
        rw [hfree c hs] at hforbidden
        cases hforbidden
      have hmarks : Plain hostMarks (percentEncode [] s) := hplain.mono (by decide)
      refine ⟨?_, .plain (percentEncode_ne_nil hne) hmarks⟩
      unfold opaqueHost
      split
      next rest hrest => exact absurd (hrest ▸ List.mem_cons_self) (hmarks.not_mem (c := '[') (by decide))
      next =>
        rw [any_isForbiddenOpaque hplain, if_neg Bool.false_ne_true, percentEncode_percentEncode rfl]

end LinkedControls.Link
