import LinkedControls.Calendar.DateText
import LinkedControls.Proofs.Outcome
import LinkedControls.Proofs.Text.Trim

/-!
Texts of numbers and days have no percent sign: what reads a part of such a text leaves a percent sign
behind, and what reads the whole of it fails.
-/

namespace LinkedControls

open Text Decimal Calendar

variable {α : Type} {s rest : List Char}

/-- What is left of a text still has its percent signs. -/
def LeavesPercent (s rest : List Char) : Prop := '%' ∈ s → '%' ∈ rest

namespace LeavesPercent

theorem refl (s : List Char) : LeavesPercent s s := id

theorem trans {middle : List Char} (h : LeavesPercent s middle) (h' : LeavesPercent middle rest) :
    LeavesPercent s rest := h' ∘ h

theorem cons {c : Char} (hc : c ≠ '%') (s : List Char) : LeavesPercent (c :: s) s :=
  fun h => (List.mem_cons.mp h).resolve_left (Ne.symm hc)

theorem dropWhile {p : Char → Bool} (hp : p '%' = false) (s : List Char) :
    LeavesPercent s (s.dropWhile p) := fun h => mem_dropWhile_of_mem h hp

theorem drop {n : Nat} {p : Char → Bool} (hp : p '%' = false) (h : (s.take n).all p = true) :
    LeavesPercent s (s.drop n) := by
  intro hmem
  rw [← List.take_append_drop n s] at hmem
  refine (List.mem_append.mp hmem).resolve_left fun htake => ?_
  have hpercent := List.all_eq_true.mp h _ htake
  simp [hp] at hpercent

end LeavesPercent

namespace Decimal

theorem leaves_splitSign (s : List Char) : LeavesPercent s (splitSign s).2 := by
  unfold splitSign
  split
  · exact .cons (by decide) _
  · exact .cons (by decide) _
  · exact .refl _

theorem Numeral.readExponent_of_percent (h : '%' ∈ s) : readExponent s = none := by
  cases s with
  | nil => cases h
  | cons c s =>
    rw [readExponent]
    split
    next hc =>
      have hrest : LeavesPercent (c :: s) s := .cons (by rcases hc with rfl | rfl <;> decide) s
      have hds := leaves_splitSign s (hrest h)
      have hall : (splitSign s).2.all isDigit = false :=
        List.all_eq_false.mpr ⟨'%', hds, by decide⟩
      simp [hall]
    next => rfl

theorem Numeral.ofText?_of_percent (h : '%' ∈ s) : Numeral.ofText? s = none := by
  have hrest : '%' ∈ s.dropWhile isDigit := LeavesPercent.dropWhile (by decide) s h
  have hnone {tail : List Char} (htail : '%' ∈ tail) (p : Prop) [Decidable p]
      (f : Int → Numeral) : (if p then none else (readExponent tail).map f) = none := by
    rw [readExponent_of_percent htail, Option.map_none, ite_self]
  unfold Numeral.ofText?
  simp only
  split
  next rest hpoint =>
    rw [hpoint] at hrest
    have hfraction := LeavesPercent.cons (by decide) rest hrest
    exact hnone (LeavesPercent.dropWhile (by decide) rest hfraction) _ _
  next => exact hnone hrest _ _

theorem Binary64.ofText?_of_percent (h : '%' ∈ s) : Binary64.ofText? s = none := by
  have hrest := leaves_splitSign s h
  have hword : '%' ∈ asciiLower (splitSign s).2 := List.mem_map.mpr ⟨'%', hrest, rfl⟩
  have hne (word : List Char) (hfree : '%' ∉ word) : asciiLower (splitSign s).2 ≠ word :=
    fun he => hfree (he ▸ hword)
  unfold Binary64.ofText?
  simp only [hne "inf".toList (by decide), hne "infinity".toList (by decide),
    hne "nan".toList (by decide), Numeral.ofText?_of_percent hrest, or_self, if_false,
    Option.map_none]

theorem Binary64.finiteOfText?_of_percent (h : '%' ∈ s) : Binary64.finiteOfText? s = none := by
  rw [finiteOfText?, ofText?_of_percent (mem_trim_of_mem h (by decide)), Option.filter_none]

end Decimal

namespace Calendar

theorem leaves_trimStart (s : List Char) : LeavesPercent s (trimStart s) :=
  .dropWhile (by decide) s

theorem leaves_readDigits {width n : Nat} (h : readDigits width s = some (n, rest)) :
    LeavesPercent s rest := by
  unfold readDigits at h
  simp only at h
  split at h
  · cases h
  · cases h
    refine .drop (p := isDigit) (by decide) ?_
    have hprefix : (s.takeWhile isDigit).take width <+: s :=
      (List.take_prefix _ _).trans (List.takeWhile_prefix _)
    rw [← List.prefix_iff_eq_take.mp hprefix, List.all_eq_true]
    exact fun c hc => List.mem_takeWhile_imp (List.mem_of_mem_take hc)

theorem leaves_readField {lo hi n : Nat} (h : readField lo hi s = some (n, rest)) :
    LeavesPercent s rest := by
  unfold readField at h
  obtain ⟨⟨m, left⟩, hread, h⟩ := Option.bind_eq_some_iff.mp h
  obtain ⟨-, h⟩ := of_guard_bind h
  cases h
  exact (leaves_trimStart s).trans (leaves_readDigits hread)

theorem leaves_readYear {year : Int} (h : readYear s = some (year, rest)) : LeavesPercent s rest := by
  refine (leaves_trimStart s).trans ?_
  unfold readYear at h
  split at h
  next signed hsign =>
    obtain ⟨⟨n, left⟩, hread, he⟩ := Option.map_eq_some_iff.mp h
    cases he
    rw [hsign]
    exact (LeavesPercent.cons (by decide) signed).trans (leaves_readDigits hread)
  next signed hsign =>
    obtain ⟨⟨n, left⟩, hread, he⟩ := Option.map_eq_some_iff.mp h
    cases he
    rw [hsign]
    exact (LeavesPercent.cons (by decide) signed).trans (leaves_readDigits hread)
  next =>
    obtain ⟨⟨n, left⟩, hread, he⟩ := Option.map_eq_some_iff.mp h
    cases he
    exact leaves_readDigits hread

theorem leaves_readChar {c : Char} (hc : c ≠ '%') (h : readChar c s = some rest) :
    LeavesPercent s rest := by
  cases s with
  | nil => cases h
  | cons d s =>
    rw [readChar] at h
    split at h
    next hd =>
      cases h
      exact .cons (hd ▸ hc) _
    next => cases h

theorem leaves_readDate {d : Date} (h : readDate s = some (d, rest)) : LeavesPercent s rest := by
  unfold readDate at h
  obtain ⟨⟨year, s₁⟩, hyear, h⟩ := Option.bind_eq_some_iff.mp h
  obtain ⟨s₂, hdash, h⟩ := Option.bind_eq_some_iff.mp h
  obtain ⟨⟨month, s₃⟩, hmonth, h⟩ := Option.bind_eq_some_iff.mp h
  obtain ⟨s₄, hdash', h⟩ := Option.bind_eq_some_iff.mp h
  obtain ⟨⟨day, s₅⟩, hday, h⟩ := Option.bind_eq_some_iff.mp h
  obtain ⟨date, -, h⟩ := Option.bind_eq_some_iff.mp h
  cases h
  exact (leaves_readYear hyear).trans <| (leaves_readChar (by decide) hdash).trans <|
    (leaves_readField hmonth).trans <| (leaves_readChar (by decide) hdash').trans
      (leaves_readField hday)

theorem leaves_readFixed {width lo hi n : Nat} (h : readFixed width lo hi s = some (n, rest)) :
    LeavesPercent s rest := by
  unfold readFixed at h
  obtain ⟨hdigits, h⟩ := of_guard_bind h
  obtain ⟨-, h⟩ := of_guard_bind h
  cases h
  simp only [Bool.and_eq_true] at hdigits
  exact .drop (by decide) hdigits.2

theorem leaves_skipFraction (h : skipFraction s = some rest) : LeavesPercent s rest := by
  unfold skipFraction at h
  split at h
  next fraction =>
    simp only at h
    split at h
    · cases h
    · cases h
      exact (LeavesPercent.cons (by decide) _).trans (.dropWhile (by decide) _)
  next =>
    cases h
    exact .refl _

theorem leaves_readOffset (h : readOffset s = some rest) : LeavesPercent s rest := by
  cases s with
  | nil => cases h
  | cons c s =>
    rw [readOffset] at h
    split at h
    next hc =>
      cases h
      exact .cons (by rcases hc with rfl | rfl <;> decide) _
    next =>
      split at h
      next hc =>
        obtain ⟨⟨hours, s₁⟩, hhours, h⟩ := Option.bind_eq_some_iff.mp h
        obtain ⟨s₂, hcolon, h⟩ := Option.bind_eq_some_iff.mp h
        obtain ⟨⟨minutes, s₃⟩, hminutes, h⟩ := Option.bind_eq_some_iff.mp h
        cases h
        have hsign : LeavesPercent (c :: s) s :=
          .cons (by rcases hc with rfl | rfl | rfl <;> decide) s
        exact hsign.trans <| (leaves_readFixed hhours).trans <|
          (leaves_readChar (by decide) hcolon).trans (leaves_readFixed hminutes)
      next => cases h

theorem percentFree_of_atEnd {x : Option (α × List Char)} {a : α} (h : atEnd x = some a)
    (hx : ∀ b rest, x = some (b, rest) → LeavesPercent s rest) : '%' ∉ s := by
  intro hs
  unfold atEnd at h
  split at h
  next b => exact absurd (hx b [] rfl hs) List.not_mem_nil
  next => cases h

theorem percentFree_of_dayOfText? {d : Date} (h : dayOfText? s = some d) : '%' ∉ s :=
  percentFree_of_atEnd h fun _ _ => leaves_readDate

theorem percentFree_of_dayOfMoment? {d : Date} (h : dayOfMoment? s = some d) : '%' ∉ s := by
  unfold dayOfMoment? at h
  obtain ⟨⟨year, s₁⟩, hyear, h⟩ := Option.bind_eq_some_iff.mp h
  obtain ⟨s₂, hdash, h⟩ := Option.bind_eq_some_iff.mp h
  obtain ⟨⟨month, s₃⟩, hmonth, h⟩ := Option.bind_eq_some_iff.mp h
  obtain ⟨s₄, hdash', h⟩ := Option.bind_eq_some_iff.mp h
  obtain ⟨⟨day, s₅⟩, hday, h⟩ := Option.bind_eq_some_iff.mp h
  obtain ⟨date, -, h⟩ := Option.bind_eq_some_iff.mp h
  have hdate : LeavesPercent s s₅ := (leaves_readFixed hyear).trans <|
    (leaves_readChar (by decide) hdash).trans <| (leaves_readFixed hmonth).trans <|
      (leaves_readChar (by decide) hdash').trans (leaves_readFixed hday)
  cases s₅ with
  | nil => cases h
  | cons c s₆ =>
    dsimp only at h
    split at h
    next hc =>
      obtain ⟨_, ⟨⟩, h⟩ := Option.bind_eq_some_iff.mp h
      obtain ⟨⟨hours, s₇⟩, hhours, h⟩ := Option.bind_eq_some_iff.mp h
      obtain ⟨s₈, hcolon, h⟩ := Option.bind_eq_some_iff.mp h
      obtain ⟨⟨minutes, s₉⟩, hminutes, h⟩ := Option.bind_eq_some_iff.mp h
      obtain ⟨s₁₀, hcolon', h⟩ := Option.bind_eq_some_iff.mp h
      obtain ⟨⟨seconds, s₁₁⟩, hseconds, h⟩ := Option.bind_eq_some_iff.mp h
      obtain ⟨s₁₂, hfraction, h⟩ := Option.bind_eq_some_iff.mp h
      obtain ⟨s₁₃, hoffset, h⟩ := Option.bind_eq_some_iff.mp h
      have hmark : LeavesPercent (c :: s₆) s₆ :=
        .cons (by rcases hc with rfl | rfl | rfl <;> decide) s₆
      have htime : LeavesPercent s₆ s₁₁ := (leaves_readFixed hhours).trans <|
        (leaves_readChar (by decide) hcolon).trans <| (leaves_readFixed hminutes).trans <|
          (leaves_readChar (by decide) hcolon').trans (leaves_readFixed hseconds)
      refine percentFree_of_atEnd h fun b rest he => ?_
      cases he
      exact hdate.trans <| hmark.trans <| htime.trans <|
        (leaves_skipFraction hfraction).trans (leaves_readOffset hoffset)
    next => cases h

theorem percentFree_of_dayOfLocal? {separate : List Char → Option (List Char)} {seconds : Bool}
    {d : Date} (hseparate : ∀ s rest, separate s = some rest → LeavesPercent s rest)
    (h : dayOfLocal? separate seconds s = some d) : '%' ∉ s := by
  unfold dayOfLocal? at h
  obtain ⟨⟨date, s₁⟩, hdate, h⟩ := Option.bind_eq_some_iff.mp h
  obtain ⟨s₂, hmark, h⟩ := Option.bind_eq_some_iff.mp h
  obtain ⟨⟨hours, s₃⟩, hhours, h⟩ := Option.bind_eq_some_iff.mp h
  obtain ⟨s₄, hcolon, h⟩ := Option.bind_eq_some_iff.mp h
  obtain ⟨⟨minutes, s₅⟩, hminutes, h⟩ := Option.bind_eq_some_iff.mp h
  have hminute : LeavesPercent s s₅ := (leaves_readDate hdate).trans <|
    (hseparate _ _ hmark).trans <| (leaves_readField hhours).trans <|
      (leaves_readChar (by decide) hcolon).trans (leaves_readField hminutes)
  dsimp only at h
  split at h
  · obtain ⟨s₆, hcolon', h⟩ := Option.bind_eq_some_iff.mp h
    obtain ⟨⟨_, s₇⟩, hseconds, h⟩ := Option.bind_eq_some_iff.mp h
    obtain ⟨s₈, hfraction, h⟩ := Option.bind_eq_some_iff.mp h
    refine percentFree_of_atEnd h fun b rest he => ?_
    cases he
    exact hminute.trans <| (leaves_readChar (by decide) hcolon').trans <|
      (leaves_readField hseconds).trans (leaves_skipFraction hfraction)
  · refine percentFree_of_atEnd h fun b rest he => ?_
    cases he
    exact hminute

theorem Date.ofText?_of_percent (h : '%' ∈ s) : Date.ofText? s = none := by
  have hmem : '%' ∈ trim s := mem_trim_of_mem h (by decide)
  have hnone {x : Option Date} (hx : ∀ d, x = some d → '%' ∉ trim s) : x = none :=
    Option.eq_none_iff_forall_ne_some.mpr fun d hd => hx d hd hmem
  have hspaced : ∀ s rest : List Char, some (trimStart s) = some rest → LeavesPercent s rest := by
    rintro s rest he
    cases he
    exact leaves_trimStart s
  have htee : ∀ s rest, readChar 'T' s = some rest → LeavesPercent s rest :=
    fun _ _ => leaves_readChar (by decide)
  simp only [Date.ofText?, hnone fun _ => percentFree_of_dayOfText?,
    hnone fun _ => percentFree_of_dayOfMoment?, hnone fun _ => percentFree_of_dayOfLocal? htee,
    hnone fun _ => percentFree_of_dayOfLocal? hspaced]
  rfl

end Calendar

end LinkedControls
