import LinkedControls.Link.Url
import LinkedControls.Proofs.Text.Percent

/-!
Parts of addresses in their written form: what is percent-encoded once stays as it is when it is
encoded again.
-/

namespace LinkedControls.Link

open Text

def isPlain (extra : List Char) (c : Char) : Bool :=
  !(c.toNat < 32 || 127 ≤ c.toNat || extra.contains c)

def Plain (extra s : List Char) : Prop := ∀ c ∈ s, isPlain extra c = true

def isForeign (c : Char) : Bool := !isUnreserved c && c != '%'

variable {extra extra' s t : List Char} {c : Char}

theorem isPlain_iff : isPlain extra c = true ↔ 32 ≤ c.toNat ∧ c.toNat < 127 ∧ c ∉ extra := by
  simp [isPlain, and_assoc]

theorem toNat_of_isUnreserved (h : isUnreserved c = true ∨ c = '%') : 32 ≤ c.toNat ∧ c.toNat < 127 := by
  rcases h with h | rfl
  · simp only [isUnreserved, Bool.or_eq_true, Bool.and_eq_true, decide_eq_true_eq, beq_iff_eq,
      Char.le_def, UInt32.le_iff_toNat_le, or_assoc] at h
    rcases h with h | h | h | rfl | rfl | rfl
    · exact ⟨Nat.le_trans (by decide) h.1, Nat.lt_of_le_of_lt h.2 (by decide)⟩
    · exact ⟨Nat.le_trans (by decide) h.1, Nat.lt_of_le_of_lt h.2 (by decide)⟩
    · exact ⟨Nat.le_trans (by decide) h.1, Nat.lt_of_le_of_lt h.2 (by decide)⟩
    all_goals decide
  · decide

theorem isPlain_of_made (h : isUnreserved c = true ∨ c = '%')
    (hextra : extra.all isForeign = true) : isPlain extra c = true := by
  obtain ⟨hlow, hhigh⟩ := toNat_of_isUnreserved h
  refine isPlain_iff.mpr ⟨hlow, hhigh, fun hc => ?_⟩
  have hforeign := List.all_eq_true.mp hextra c hc
  simp only [isForeign, Bool.and_eq_true, Bool.not_eq_true', bne_iff_ne] at hforeign
  exact h.elim (fun hu => by simp [hforeign.1] at hu) hforeign.2

namespace Plain

theorem nil : Plain extra [] := fun _ h => absurd h List.not_mem_nil

theorem append (hs : Plain extra s) (ht : Plain extra t) : Plain extra (s ++ t) := by
  intro c hc
  exact (List.mem_append.mp hc).elim (hs c) (ht c)

theorem cons (hc : isPlain extra c = true) (hs : Plain extra s) : Plain extra (c :: s) :=
  List.forall_mem_cons.mpr ⟨hc, hs⟩

theorem of_subset (hs : Plain extra s) (h : t ⊆ s) : Plain extra t := fun c hc => hs c (h hc)

theorem mono (hs : Plain extra s) (h : extra' ⊆ extra) : Plain extra' s := by
  intro c hc
  obtain ⟨hlow, hhigh, hmem⟩ := isPlain_iff.mp (hs c hc)
  exact isPlain_iff.mpr ⟨hlow, hhigh, fun he => hmem (h he)⟩

theorem not_mem (hs : Plain extra s) (hc : c ∈ extra) : c ∉ s :=
  fun h => (isPlain_iff.mp (hs c h)).2.2 hc

end Plain

theorem percentEncode_of_plain (h : Plain extra s) : percentEncode extra s = s := by
  induction s with
  | nil => rfl
  | cons c s ih =>
    obtain ⟨hc, hs⟩ := List.forall_mem_cons.mp h
    have hstays : (c.toNat < 32 || 127 ≤ c.toNat || extra.contains c) = false := by
      simpa [isPlain] using hc
    have htail := ih hs
    unfold percentEncode at htail ⊢
    rw [List.flatMap_cons, hstays, htail]
    rfl

theorem mem_percentEncode (h : c ∈ percentEncode extra s) :
    c ∈ s ∧ isPlain extra c = true ∨ isUnreserved c = true ∨ c = '%' := by
  obtain ⟨d, hd, h⟩ := List.mem_flatMap.mp h
  split at h
  · obtain ⟨b, -, hb⟩ := List.mem_flatMap.mp h
    exact .inr (mem_percentByte hb)
  next hplain =>
    obtain rfl := List.mem_singleton.mp h
    exact .inl ⟨hd, by simpa [isPlain] using hplain⟩

theorem not_mem_percentEncode (hc : isForeign c = true) (h : c ∉ s) : c ∉ percentEncode extra s := by
  simp only [isForeign, Bool.and_eq_true, Bool.not_eq_true', bne_iff_ne] at hc
  intro hmem
  rcases mem_percentEncode hmem with hs | hu | hp
  · exact h hs.1
  · simp [hc.1] at hu
  · exact hc.2 hp

theorem plain_percentEncode_of_not_mem (hforeign : extra'.all isForeign = true)
    (h : ∀ c ∈ extra', c ∉ extra → c ∉ s) : Plain extra' (percentEncode extra s) := by
  intro c hc
  rcases mem_percentEncode hc with ⟨hmem, hplain⟩ | hmade
  · obtain ⟨hlow, hhigh, hextra⟩ := isPlain_iff.mp hplain
    exact isPlain_iff.mpr ⟨hlow, hhigh, fun he => h c he hextra hmem⟩
  · exact isPlain_of_made hmade hforeign

theorem plain_percentEncode (h : extra.all isForeign = true) (s : List Char) :
    Plain extra (percentEncode extra s) :=
  plain_percentEncode_of_not_mem h fun _ hc hn => absurd hc hn

theorem percentEncode_percentEncode (h : extra.all isForeign = true) (s : List Char) :
    percentEncode extra (percentEncode extra s) = percentEncode extra s :=
  percentEncode_of_plain (plain_percentEncode h s)

theorem percentCharacter_ne_nil (c : Char) : percentCharacter c ≠ [] := by
  have hbytes : String.utf8EncodeChar c ≠ [] := String.utf8EncodeChar_ne_nil
  obtain ⟨b, bytes, hb⟩ := List.exists_cons_of_ne_nil hbytes
  rw [percentCharacter, hb]
  exact List.cons_ne_nil _ _

theorem percentEncode_ne_nil (h : s ≠ []) : percentEncode extra s ≠ [] := by
  obtain ⟨c, s, rfl⟩ := List.exists_cons_of_ne_nil h
  unfold percentEncode
  rw [List.flatMap_cons]
  refine List.append_ne_nil_of_left_ne_nil ?_ _
  split
  · exact percentCharacter_ne_nil c
  · exact List.cons_ne_nil _ _

theorem head?_percentEncode (h : (percentEncode extra s).head? = some c) :
    c = '%' ∨ s.head? = some c := by
  cases s with
  | nil => cases h
  | cons d s =>
    unfold percentEncode at h
    rw [List.flatMap_cons] at h
    split at h
    · obtain ⟨b, bytes, hb⟩ := List.exists_cons_of_ne_nil (String.utf8EncodeChar_ne_nil (c := d))
      rw [percentCharacter, hb, List.flatMap_cons] at h
      exact .inl (Option.some.inj h).symm
    · exact .inr h

end LinkedControls.Link
