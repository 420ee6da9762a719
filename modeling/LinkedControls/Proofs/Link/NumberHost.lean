import LinkedControls.Proofs.Link.Encoding
import LinkedControls.Proofs.Outcome
import LinkedControls.Proofs.Text.Split

namespace LinkedControls.Link

open Text

theorem hexDigit?_digitChar {n : Nat} (h : n < 16) : hexDigit? n.digitChar = some n := by
  have all : ∀ n : Fin 16, hexDigit? n.val.digitChar = some n.val := by decide
  exact all ⟨n, h⟩

theorem mapM_toDigits {base : Nat} (hlow : 1 < base) (hhigh : base ≤ 16) (n : Nat) :
    ∃ ds, (Nat.toDigits base n).mapM hexDigit? = some ds ∧ (∀ d ∈ ds, d < base) ∧
      ds.foldl (fun n d => n * base + d) 0 = n := by
  induction n using Nat.strongRecOn with
  | ind n ih =>
    rw [Nat.toDigits_eq_if hlow]
    split
    next hn =>
      have hdigit := hexDigit?_digitChar (Nat.lt_of_lt_of_le hn hhigh)
      exact ⟨[n], by simp [hdigit], by simpa using hn, by simp⟩
    next hn =>
      obtain ⟨ds, hds, hsmall, hvalue⟩ := ih (n / base) (Nat.div_lt_self (by omega) hlow)
      have hmod : n % base < base := Nat.mod_lt _ (by omega)
      have hdigit := hexDigit?_digitChar (Nat.lt_of_lt_of_le hmod hhigh)
      refine ⟨ds ++ [n % base], by simp [List.mapM_append, hds, hdigit], ?_, ?_⟩
      · intro d hd
        rcases List.mem_append.mp hd with hd | hd
        · exact hsmall d hd
        · exact List.mem_singleton.mp hd ▸ hmod
      · rw [List.foldl_append, hvalue, List.foldl_cons, List.foldl_nil, Nat.mul_comm]
        exact Nat.div_add_mod n base

theorem mem_toDigits {base n : Nat} (hlow : 1 < base) (hhigh : base ≤ 16) {c : Char}
    (h : c ∈ Nat.toDigits base n) : ∃ d < base, c = d.digitChar := by
  induction n using Nat.strongRecOn with
  | ind n ih =>
    rw [Nat.toDigits_eq_if hlow] at h
    split at h
    next hn => exact ⟨n, hn, List.mem_singleton.mp h⟩
    next hn =>
      rcases List.mem_append.mp h with h | h
      · exact ih (n / base) (Nat.div_lt_self (by omega) hlow) h
      · exact ⟨n % base, Nat.mod_lt _ (by omega), List.mem_singleton.mp h⟩

def addressByte (n place : Nat) : Nat := n / Nat.pow 256 place % 256

theorem addressByte_lt (n place : Nat) : addressByte n place < 256 := Nat.mod_lt _ (by decide)

theorem writeIpv4_eq (n : Nat) :
    writeIpv4 n = join ['.'] ([3, 2, 1, 0].map fun place => Nat.toDigits 10 (addressByte n place)) := by
  simp only [← Nat.toList_repr]
  rfl

theorem ipv4Number?_toDigits {n : Nat} (h : n < 256) : ipv4Number? (Nat.toDigits 10 n) = some n := by
  have all : ∀ n : Fin 256, ipv4Number? (Nat.toDigits 10 n.val) = some n.val := by decide +kernel
  exact all ⟨n, h⟩

theorem isDigit_of_mem_toDigits {n : Nat} {c : Char} (h : c ∈ Nat.toDigits 10 n) :
    ('0' ≤ c && c ≤ '9') = true :=
  Nat.isDigit_of_mem_toDigits (by decide) (by decide) h

theorem labels_writeIpv4 (n : Nat) :
    labels (writeIpv4 n) = [3, 2, 1, 0].map fun place => Nat.toDigits 10 (addressByte n place) := by
  have hsplit : splitOn '.' (writeIpv4 n) =
      [3, 2, 1, 0].map fun place => Nat.toDigits 10 (addressByte n place) := by
    rw [writeIpv4_eq]
    refine splitOn_join (by simp) fun piece hpiece hdot => ?_
    obtain ⟨place, -, rfl⟩ := List.mem_map.mp hpiece
    exact absurd (isDigit_of_mem_toDigits hdot) (by decide)
  rw [labels, hsplit]
  simp [Nat.toDigits_ne_nil]

theorem endsInNumber_writeIpv4 (n : Nat) : endsInNumber (writeIpv4 n) = true := by
  have hdigits : (Nat.toDigits 10 (addressByte n 0)).all (fun c => '0' ≤ c && c ≤ '9') = true :=
    List.all_eq_true.mpr fun c => isDigit_of_mem_toDigits
  have hne : (Nat.toDigits 10 (addressByte n 0)).isEmpty = false :=
    List.isEmpty_eq_false_iff.mpr Nat.toDigits_ne_nil
  rw [endsInNumber, labels_writeIpv4]
  simp only [List.map_cons, List.map_nil, List.getLast?_cons_cons, List.getLast?_singleton,
    Option.any_some, hne, hdigits]
  rfl

theorem ipv4?_writeIpv4 (n : Nat) :
    ∃ m, ipv4? (writeIpv4 n) = some m ∧ writeIpv4 m = writeIpv4 n := by
  obtain ⟨a, ha⟩ : ∃ a, addressByte n 3 = a := ⟨_, rfl⟩
  obtain ⟨b, hb⟩ : ∃ b, addressByte n 2 = b := ⟨_, rfl⟩
  obtain ⟨c, hc⟩ : ∃ c, addressByte n 1 = c := ⟨_, rfl⟩
  obtain ⟨d, hd⟩ : ∃ d, addressByte n 0 = d := ⟨_, rfl⟩
  have ha' : a < 256 := ha ▸ addressByte_lt n 3
  have hb' : b < 256 := hb ▸ addressByte_lt n 2
  have hc' : c < 256 := hc ▸ addressByte_lt n 1
  have hd' : d < 256 := hd ▸ addressByte_lt n 0
  have hnumbers : (labels (writeIpv4 n)).mapM ipv4Number? = some [a, b, c, d] := by
    rw [labels_writeIpv4]
    simp only [List.map_cons, List.map_nil, ha, hb, hc, hd, List.mapM_cons, List.mapM_nil,
      ipv4Number?_toDigits ha', ipv4Number?_toDigits hb', ipv4Number?_toDigits hc',
      ipv4Number?_toDigits hd']
    rfl
  refine ⟨d + a * 16777216 + b * 65536 + c * 256, ?_, ?_⟩
  · unfold ipv4?
    dsimp only
    rw [guard_bind, hnumbers]
    · have hsmall : (d < 256 && [a, b, c].all (· < 256)) = true := by simp [ha', hb', hc', hd']
      change (guard ((d < 256 && [a, b, c].all (· < 256)) = true) >>= fun _ => some _) = some _
      rw [guard_bind hsmall]
      rfl
    · rw [labels_writeIpv4]
      exact Nat.le_refl 4
  · have hbytes : ∀ place ∈ [3, 2, 1, 0],
        addressByte (d + a * 16777216 + b * 65536 + c * 256) place = addressByte n place := by
      simp only [List.mem_cons, List.not_mem_nil, or_false, forall_eq_or_imp, forall_eq, ha, hb, hc, hd]
      simp only [addressByte, Nat.reducePow, Nat.pow_eq]
      omega
    rw [writeIpv4_eq, writeIpv4_eq]
    exact congrArg _ (List.map_congr_left fun place hplace => by rw [hbytes place hplace])

theorem foldl_digits_lt {base : Nat} {ds : List Nat} (h : ∀ d ∈ ds, d < base) (n : Nat) :
    ds.foldl (fun n d => n * base + d) n < (n + 1) * Nat.pow base ds.length := by
  induction ds generalizing n with
  | nil => simp [Nat.pow_eq]
  | cons d ds ih =>
    obtain ⟨hd, hds⟩ := List.forall_mem_cons.mp h
    have hstep : n * base + d + 1 ≤ (n + 1) * base := by
      rw [Nat.succ_mul]
      omega
    calc ds.foldl (fun n d => n * base + d) (n * base + d)
        < (n * base + d + 1) * Nat.pow base ds.length := ih hds _
      _ ≤ (n + 1) * base * Nat.pow base ds.length := Nat.mul_le_mul_right _ hstep
      _ = (n + 1) * Nat.pow base (d :: ds).length := by
        rw [List.length_cons, Nat.pow_eq, Nat.pow_eq, Nat.pow_succ', Nat.mul_assoc]

theorem hexDigit?_lt {c : Char} {d : Nat} (h : hexDigit? c = some d) : d < 16 := by
  unfold hexDigit? at h
  split at h
  next hc =>
    cases h
    have hle : c.toNat ≤ 57 := hc.2
    omega
  next =>
    split at h
    next hc =>
      cases h
      have hle : c.toNat ≤ 102 := hc.2
      omega
    next =>
      split at h
      next hc =>
        cases h
        have hle : c.toNat ≤ 70 := hc.2
        omega
      next => cases h

theorem ipv6Piece?_eq_some {s : List Char} {p : Nat} :
    ipv6Piece? s = some p ↔ (1 ≤ s.length ∧ s.length ≤ 4) ∧
      ∃ ds, s.mapM hexDigit? = some ds ∧ ds.foldl (fun n v => n * 16 + v) 0 = p := by
  rw [ipv6Piece?]
  constructor
  · intro h
    obtain ⟨hlength, h⟩ := of_guard_bind h
    obtain ⟨ds, hds, h⟩ := Option.bind_eq_some_iff.mp h
    cases h
    exact ⟨by simpa using hlength, ds, hds, rfl⟩
  · rintro ⟨hlength, ds, hds, rfl⟩
    rw [guard_bind (by simpa using hlength), hds]
    rfl

theorem ipv6Piece?_lt {s : List Char} {p : Nat} (h : ipv6Piece? s = some p) : p < 65536 := by
  obtain ⟨⟨-, hlength⟩, ds, hds, rfl⟩ := ipv6Piece?_eq_some.mp h
  obtain ⟨hsame, hall⟩ := of_mapM hds
  have hsmall : ∀ d ∈ ds, d < 16 := by
    intro d hd
    obtain ⟨c, -, hc⟩ := hall d hd
    exact hexDigit?_lt hc
  calc ds.foldl (fun n v => n * 16 + v) 0
      < (0 + 1) * Nat.pow 16 ds.length := foldl_digits_lt hsmall 0
    _ = 16 ^ ds.length := by rw [Nat.zero_add, Nat.one_mul, Nat.pow_eq]
    _ ≤ 16 ^ 4 := Nat.pow_le_pow_right (by decide) (hsame ▸ hlength)

theorem ipv6Piece?_hexDigits {p : Nat} (h : p < 65536) : ipv6Piece? (hexDigits p) = some p := by
  obtain ⟨ds, hds, -, hvalue⟩ := @mapM_toDigits 16 (by decide) (by decide) p
  have hlength : (Nat.toDigits 16 p).length ≤ 4 :=
    (Nat.length_toDigits_le_iff (by decide) (by decide)).mpr h
  exact ipv6Piece?_eq_some.mpr ⟨⟨Nat.length_toDigits_pos, hlength⟩, ds, hds, hvalue⟩

theorem not_mem_hexDigits {c : Char} (hc : ∀ d < 16, c ≠ d.digitChar) (p : Nat) : c ∉ hexDigits p := by
  intro h
  obtain ⟨d, hd, he⟩ := mem_toDigits (by decide) (by decide) h
  exact hc d hd he

theorem colon_not_mem_hexDigits (p : Nat) : ':' ∉ hexDigits p := not_mem_hexDigits (by decide) p

theorem point_not_mem_hexDigits (p : Nat) : '.' ∉ hexDigits p := not_mem_hexDigits (by decide) p

theorem hexDigits_ne_nil (p : Nat) : hexDigits p ≠ [] := Nat.toDigits_ne_nil

def Pieces (ps : List Nat) : Prop := ∀ p ∈ ps, p < 65536

theorem ipv6Pieces?_map_hexDigits {ps : List Nat} (h : Pieces ps) :
    ipv6Pieces? (ps.map hexDigits) = some ps := by
  induction ps with
  | nil => rfl
  | cons p ps ih =>
    obtain ⟨hp, hps⟩ := List.forall_mem_cons.mp h
    cases ps with
    | nil =>
      simp [ipv6Pieces?, point_not_mem_hexDigits, ipv6Piece?_hexDigits hp]
    | cons q ps =>
      have hrest := ih hps
      rw [List.map_cons] at hrest
      rw [List.map_cons, List.map_cons, ipv6Pieces?, ipv6Piece?_hexDigits hp, hrest]
      · rfl
      · exact fun he => by cases he

theorem splitOn_writePieces {ps : List Nat} (hne : ps ≠ []) :
    splitOn ':' (writePieces ps) = ps.map hexDigits := by
  refine splitOn_join (by simpa using hne) fun piece hpiece => ?_
  obtain ⟨p, -, rfl⟩ := List.mem_map.mp hpiece
  exact colon_not_mem_hexDigits p

theorem ipv6Side?_writePieces {ps : List Nat} (h : Pieces ps) : ipv6Side? (writePieces ps) = some ps := by
  cases ps with
  | nil => rfl
  | cons p ps =>
    have hne : (writePieces (p :: ps)).isEmpty = false :=
      List.isEmpty_eq_false_iff.mpr (join_ne_nil (hexDigits_ne_nil p) _ _)
    rw [ipv6Side?, hne, if_neg Bool.false_ne_true, splitOn_writePieces (List.cons_ne_nil _ _),
      ipv6Pieces?_map_hexDigits h]

theorem mem_writePieces {c : Char} {ps : List Nat} (h : c ∈ writePieces ps) :
    c = ':' ∨ ∃ d < 16, c = d.digitChar := by
  rcases mem_join h with h | ⟨piece, hpiece, h⟩
  · exact .inl (List.mem_singleton.mp h)
  · obtain ⟨p, -, rfl⟩ := List.mem_map.mp hpiece
    exact .inr (mem_toDigits (by decide) (by decide) h)

theorem point_not_mem_writePieces (ps : List Nat) : '.' ∉ writePieces ps := by
  intro h
  rcases mem_writePieces h with h | ⟨d, hd, he⟩
  · exact absurd h (by decide)
  · exact absurd he ((by decide : ∀ d < 16, '.' ≠ d.digitChar) d hd)

theorem splitGap_append {s : List Char} (h : ':' ∉ s) (t : List Char) :
    splitGap (s ++ t) = (splitGap t).map fun (before, after) => (s ++ before, after) := by
  induction s with
  | nil => simp
  | cons c s ih =>
    simp only [List.mem_cons, not_or] at h
    rw [List.cons_append, splitGap, ih h.2, Option.map_map]
    · rfl
    · rintro rest he -
      exact absurd he (Ne.symm h.1)

theorem splitGap_cons {c : Char} (hc : c ≠ ':') (s : List Char) :
    splitGap (':' :: c :: s) = (splitGap (c :: s)).map fun (before, after) => (':' :: before, after) := by
  rw [splitGap]
  rintro rest - he
  exact absurd (List.cons.inj he).1 hc

theorem writePieces_cons_cons (p q : Nat) (ps : List Nat) :
    writePieces (p :: q :: ps) = hexDigits p ++ ':' :: writePieces (q :: ps) := by
  simp [writePieces, join_cons_cons]

theorem exists_writePieces_cons (p : Nat) (ps : List Nat) :
    ∃ c rest, writePieces (p :: ps) = c :: rest ∧ c ≠ ':' := by
  obtain ⟨c, rest, hp⟩ := List.exists_cons_of_ne_nil (hexDigits_ne_nil p)
  have hc : c ≠ ':' := fun he => colon_not_mem_hexDigits p (hp ▸ he ▸ List.mem_cons_self)
  cases ps with
  | nil => exact ⟨c, rest, hp, hc⟩
  | cons q ps => exact ⟨c, rest ++ ':' :: writePieces (q :: ps), by simp [writePieces_cons_cons, hp], hc⟩

theorem splitGap_writePieces (ps : List Nat) (t : List Char) :
    splitGap (writePieces ps ++ t) =
      (splitGap t).map fun (before, after) => (writePieces ps ++ before, after) := by
  induction ps with
  | nil => simp [writePieces, join]
  | cons p ps ih =>
    cases ps with
    | nil => exact splitGap_append (colon_not_mem_hexDigits p) t
    | cons q ps =>
      obtain ⟨c, rest, hrest, hc⟩ := exists_writePieces_cons q ps
      have hcolon : splitGap (':' :: (writePieces (q :: ps) ++ t)) =
          (splitGap (writePieces (q :: ps) ++ t)).map fun (before, after) => (':' :: before, after) := by
        rw [hrest]
        exact splitGap_cons hc _
      rw [writePieces_cons_cons, List.append_assoc, splitGap_append (colon_not_mem_hexDigits p),
        List.cons_append, hcolon, ih, Option.map_map, Option.map_map]
      simp [Function.comp_def]

theorem le_zerosAhead_longestZeros (pieces : List Nat) :
    (longestZeros pieces).2 ≤ zerosAhead (pieces.drop (longestZeros pieces).1) := by
  have hfold (places : List Nat) (best : Nat × Nat) (h : best.2 ≤ zerosAhead (pieces.drop best.1)) :
      let found := places.foldl (fun best place =>
        let n := zerosAhead (pieces.drop place)
        if best.2 < n then (place, n) else best) best
      found.2 ≤ zerosAhead (pieces.drop found.1) := by
    induction places generalizing best with
    | nil => exact h
    | cons place places ih =>
      refine ih _ ?_
      dsimp only
      split
      · exact Nat.le_refl _
      · exact h
  exact hfold _ _ (Nat.zero_le _)

theorem take_of_le_zerosAhead {pieces : List Nat} {n : Nat} (h : n ≤ zerosAhead pieces) :
    pieces.take n = List.replicate n 0 := by
  induction pieces generalizing n with
  | nil =>
    obtain rfl := Nat.le_zero.mp h
    rfl
  | cons p pieces ih =>
    cases n with
    | zero => rfl
    | succ n =>
      rw [zerosAhead, List.takeWhile_cons] at h
      split at h
      next hp =>
        have hp : p = 0 := by simpa using hp
        rw [hp, List.take_succ_cons, List.replicate_succ, ih (Nat.le_of_succ_le_succ h)]
      next => exact absurd h (Nat.not_succ_le_zero n)

theorem eq_around_zeros {pieces : List Nat} {place n : Nat} (h : n ≤ zerosAhead (pieces.drop place)) :
    pieces = pieces.take place ++ List.replicate n 0 ++ pieces.drop (place + n) := by
  rw [← take_of_le_zerosAhead h, List.append_assoc, ← List.drop_drop, List.take_append_drop,
    List.take_append_drop]

theorem zerosAhead_le (pieces : List Nat) : zerosAhead pieces ≤ pieces.length :=
  (List.takeWhile_sublist _).length_le

theorem ipv6?_without_gap {pieces : List Nat} (hlength : pieces.length = 8) (h : Pieces pieces) :
    ipv6? (writePieces pieces) = some pieces := by
  have hne : pieces ≠ [] := by
    rintro rfl
    cases hlength
  have hgap := splitGap_writePieces pieces []
  rw [List.append_nil] at hgap
  rw [ipv6?, hgap, splitGap, Option.map_none]
  dsimp only
  rw [splitOn_writePieces hne, ipv6Pieces?_map_hexDigits h]
  simp [hlength]

theorem ipv6?_with_gap {left right : List Nat} (hleft : Pieces left) (hright : Pieces right)
    (hsum : left.length + right.length ≤ 7) :
    ipv6? (writePieces left ++ ':' :: ':' :: writePieces right) =
      some (left ++ List.replicate (8 - left.length - right.length) 0 ++ right) := by
  have hgap : splitGap (writePieces left ++ ':' :: ':' :: writePieces right) =
      some (writePieces left, writePieces right) := by
    rw [splitGap_writePieces, splitGap]
    simp
  rw [ipv6?, hgap]
  dsimp only
  rw [guard_bind (by simp [point_not_mem_writePieces]), ipv6Side?_writePieces hleft,
    ipv6Side?_writePieces hright]
  exact guard_bind hsum _

theorem ipv6?_writeIpv6 {pieces : List Nat} (hlength : pieces.length = 8) (h : Pieces pieces) :
    ipv6? (writeIpv6 pieces) = some pieces := by
  obtain ⟨place, n, hbest⟩ : ∃ place n, longestZeros pieces = (place, n) := ⟨_, _, rfl⟩
  have hzeros : n ≤ zerosAhead (pieces.drop place) := by
    have hle := le_zerosAhead_longestZeros pieces
    rwa [hbest] at hle
  rw [writeIpv6, hbest]
  dsimp only
  split
  next => exact ipv6?_without_gap hlength h
  next hn =>
    have hlast := zerosAhead_le (pieces.drop place)
    rw [List.length_drop] at hlast
    have hsum : (pieces.take place).length + (pieces.drop (place + n)).length ≤ 7 := by
      rw [List.length_take, List.length_drop]
      omega
    have hzero : 8 - (pieces.take place).length - (pieces.drop (place + n)).length = n := by
      rw [List.length_take, List.length_drop]
      omega
    have hread := ipv6?_with_gap (fun p hp => h p (List.mem_of_mem_take hp))
      (fun p hp => h p (List.mem_of_mem_drop hp)) hsum
    rw [hzero, ← eq_around_zeros hzeros] at hread
    rw [List.append_assoc]
    exact hread

theorem mem_writeIpv6 {c : Char} {pieces : List Nat} (h : c ∈ writeIpv6 pieces) :
    c = ':' ∨ ∃ d < 16, c = d.digitChar := by
  unfold writeIpv6 at h
  dsimp only at h
  split at h
  · exact mem_writePieces h
  · simp only [List.mem_append, List.mem_cons, List.not_mem_nil, or_false, or_self] at h
    rcases h with (h | h) | h
    · exact mem_writePieces h
    · exact .inl h
    · exact mem_writePieces h

theorem byte?_lt {s : List Char} {n : Nat} (h : byte? s = some n) : n < 256 := by
  unfold byte? at h
  obtain ⟨-, h⟩ := of_guard_bind h
  obtain ⟨-, h⟩ := of_guard_bind h
  obtain ⟨hn, h⟩ := of_guard_bind h
  cases h
  exact hn

theorem pieces_ipv6Tail? {s : List Char} {ps : List Nat} (h : ipv6Tail? s = some ps) : Pieces ps := by
  unfold ipv6Tail? at h
  obtain ⟨bytes, hbytes, h⟩ := Option.bind_eq_some_iff.mp h
  obtain ⟨-, hall⟩ := of_mapM hbytes
  split at h
  next a b c d =>
    cases h
    have hbyte : ∀ n ∈ [a, b, c, d], n < 256 := by
      intro n hn
      obtain ⟨s, -, hs⟩ := hall n hn
      exact byte?_lt hs
    simp only [List.mem_cons, List.not_mem_nil, or_false, forall_eq_or_imp, forall_eq] at hbyte
    simp only [Pieces, List.mem_cons, List.not_mem_nil, or_false, forall_eq_or_imp, forall_eq]
    omega
  next => cases h

theorem pieces_ipv6Pieces? {ss : List (List Char)} {ps : List Nat} (h : ipv6Pieces? ss = some ps) :
    Pieces ps := by
  fun_induction ipv6Pieces? ss generalizing ps with
  | case1 =>
    cases h
    exact fun p hp => absurd hp List.not_mem_nil
  | case2 s hpoint => exact pieces_ipv6Tail? h
  | case3 s hpoint =>
    obtain ⟨p, hp, rfl⟩ := Option.map_eq_some_iff.mp h
    simpa [Pieces] using ipv6Piece?_lt hp
  | case4 s rest hne ih =>
    obtain ⟨p, hp, h⟩ := Option.bind_eq_some_iff.mp h
    obtain ⟨qs, hqs, h⟩ := Option.bind_eq_some_iff.mp h
    cases h
    exact List.forall_mem_cons.mpr ⟨ipv6Piece?_lt hp, ih hqs⟩

theorem pieces_ipv6Side? {s : List Char} {ps : List Nat} (h : ipv6Side? s = some ps) : Pieces ps := by
  unfold ipv6Side? at h
  split at h
  · cases h
    exact fun p hp => absurd hp List.not_mem_nil
  · exact pieces_ipv6Pieces? h

theorem of_ipv6? {s : List Char} {ps : List Nat} (h : ipv6? s = some ps) :
    ps.length = 8 ∧ Pieces ps := by
  unfold ipv6? at h
  split at h
  · obtain ⟨hps, hlength⟩ := Option.filter_eq_some_iff.mp h
    exact ⟨by simpa using hlength, pieces_ipv6Pieces? hps⟩
  next before after _ =>
    obtain ⟨-, h⟩ := of_guard_bind h
    obtain ⟨left, hleft, h⟩ := Option.bind_eq_some_iff.mp h
    obtain ⟨right, hright, h⟩ := Option.bind_eq_some_iff.mp h
    obtain ⟨hsum, h⟩ := of_guard_bind h
    cases h
    refine ⟨by simp; omega, fun p hp => ?_⟩
    simp only [List.mem_append] at hp
    rcases hp with (hp | hp) | hp
    · exact pieces_ipv6Side? hleft p hp
    · rw [List.eq_of_mem_replicate hp]
      decide
    · exact pieces_ipv6Side? hright p hp

end LinkedControls.Link
