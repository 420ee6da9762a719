import LinkedControls.Proofs.Pattern.Transfer

namespace LinkedControls

open Text

theorem CharSet.holds_single {c d : Char} : (CharSet.single c).holds d = true ↔ d = c := by
  simp only [CharSet.single, CharSet.holds, Bool.and_eq_true, decide_eq_true_eq]
  rw [← Char.toNat_inj]
  omega

theorem CharSet.holds_ofChars {cs : List Char} {d : Char} :
    (CharSet.ofChars cs).holds d = true ↔ d ∈ cs := by
  unfold CharSet.ofChars
  induction cs with
  | nil =>
    simp only [List.map_nil, CharSet.unions, CharSet.nothing, CharSet.holds, Bool.and_eq_true,
      decide_eq_true_eq, List.not_mem_nil, iff_false]
    omega
  | cons c cs ih =>
    cases cs with
    | nil => rw [List.map_singleton, CharSet.unions, holds_single, List.mem_singleton]
    | cons c' cs =>
      have hunion : (CharSet.unions ((c :: c' :: cs).map CharSet.single)).holds d =
          ((CharSet.single c).holds d ||
            (CharSet.unions ((c' :: cs).map CharSet.single)).holds d) := rfl
      rw [hunion, Bool.or_eq_true, holds_single, ih, List.mem_cons (a := d) (b := c)]

-- a character that is not folded is a variant of nothing but itself
theorem not_mem_caseVariants {c d : Char} (hfold : foldCase c ≠ d) (hd : d ≠ '\x00')
    (hfree : ∀ s ∈ Table.folded, s.span.covers d.toNat = false) : d ∉ caseVariants c := by
  intro h
  rcases List.mem_cons.mp h with h | h
  · exact hfold h.symm
  · obtain ⟨n, hn, rfl⟩ := List.mem_map.mp h
    obtain ⟨s, hs, horigin⟩ := List.mem_filterMap.mp hn
    simp only [Option.ite_none_right_eq_some, Bool.and_eq_true] at horigin
    obtain ⟨⟨-, hcovers⟩, hn⟩ := horigin
    have hfree := hfree s hs
    by_cases hvalid : n.isValidChar
    · have hsame : (Char.ofNat n).toNat = n := by
        rw [Char.ofNat, dif_pos hvalid]
        rfl
      rw [hsame, ← Option.some.inj hn, hcovers] at hfree
      cases hfree
    · exact hd (by rw [Char.ofNat, dif_neg hvalid]; rfl)

namespace Pattern

def Averse (d : Char) (p : Pattern) : Prop := ∀ set ∈ p.sets, set.holds d = false

variable {d : Char} {p q : Pattern}

@[simp]
theorem averse_one {set : CharSet} : Averse d (.one set) ↔ set.holds d = false :=
  List.forall_mem_singleton

@[simp]
theorem averse_assertion (t : Assertion) : Averse d (.assertion t) :=
  fun _ hs => absurd hs List.not_mem_nil

@[simp]
theorem averse_sequence : Averse d (.sequence p q) ↔ Averse d p ∧ Averse d q :=
  List.forall_mem_append

@[simp]
theorem averse_choice : Averse d (.choice p q) ↔ Averse d p ∧ Averse d q :=
  List.forall_mem_append

@[simp]
theorem averse_star : Averse d p.star ↔ Averse d p := Iff.rfl

@[simp]
theorem averse_plus : Averse d p.plus ↔ Averse d p := Iff.rfl

@[simp]
theorem averse_optional : Averse d p.optional ↔ Averse d p := Iff.rfl

@[simp]
theorem averse_exact {c : Char} : Averse d (exact c) ↔ d ≠ c := by
  rw [exact, averse_one, Bool.eq_false_iff, Ne, CharSet.holds_single]

@[simp]
theorem averse_sequences {ps : List Pattern} : Averse d (sequences ps) ↔ ∀ p ∈ ps, Averse d p := by
  induction ps with
  | nil => exact ⟨nofun, fun _ set hs => absurd hs List.not_mem_nil⟩
  | cons p ps ih =>
    rw [List.forall_mem_cons, ← ih]
    cases ps with
    | nil => exact ⟨fun h => ⟨h, fun set hs => absurd hs List.not_mem_nil⟩, And.left⟩
    | cons q ps => exact averse_sequence

@[simp]
theorem averse_choices_cons {ps : List Pattern} :
    Averse d (choices (p :: ps)) ↔ Averse d p ∧ ∀ q ∈ ps, Averse d q := by
  induction ps generalizing p with
  | nil => exact ⟨fun h => ⟨h, nofun⟩, And.left⟩
  | cons q ps ih =>
    rw [List.forall_mem_cons, ← ih]
    exact averse_choice

theorem averse_word (hd : d ≠ '\x00') (hfree : ∀ s ∈ Table.folded, s.span.covers d.toNat = false)
    {s : String} (h : ∀ c ∈ s.toList, foldCase c ≠ d) : Averse d (word s) := by
  refine averse_sequences.mpr fun p hp => ?_
  obtain ⟨c, hc, rfl⟩ := List.mem_map.mp hp
  refine averse_one.mpr (Bool.eq_false_iff.mpr fun hholds => ?_)
  exact not_mem_caseVariants (h c hc) hd hfree (CharSet.holds_ofChars.mp hholds)

end Pattern

end LinkedControls
