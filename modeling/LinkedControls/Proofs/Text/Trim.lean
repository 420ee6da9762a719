import LinkedControls.Proofs.Text.Split
import Mathlib.Data.List.TakeWhile

namespace LinkedControls.Text

structure Trims (s t : List Char) : Prop where
  cut : ∃ lead tail, (∀ c ∈ lead, isBlank c = true) ∧ (∀ c ∈ tail, isBlank c = true) ∧
    s = lead ++ t ++ tail
  first : ∀ c ∈ t.head?, isBlank c = false
  last : ∀ c ∈ t.getLast?, isBlank c = false

theorem head?_dropWhile_isBlank {s : List Char} {c : Char}
    (h : c ∈ (s.dropWhile isBlank).head?) : isBlank c = false := by
  have hhead := List.head?_dropWhile_not isBlank s
  rw [Option.mem_def.mp h] at hhead
  exact hhead

theorem trims_trim (s : List Char) : Trims s (trim s) := by
  have hend : trimStart s = trim s ++ ((trimStart s).reverse.takeWhile isBlank).reverse := by
    rw [trim, trimEnd, ← List.reverse_append, List.takeWhile_append_dropWhile, List.reverse_reverse]
  refine ⟨⟨s.takeWhile isBlank, ((trimStart s).reverse.takeWhile isBlank).reverse,
    fun c => List.mem_takeWhile_imp, fun c hc => ?_, ?_⟩, fun c hc => ?_, fun c hc => ?_⟩
  · exact List.mem_takeWhile_imp (List.mem_reverse.mp hc)
  · rw [List.append_assoc, ← hend, trimStart, List.takeWhile_append_dropWhile]
  · have hstart : c ∈ (trimStart s).head? := by
      rw [hend, List.head?_append, Option.mem_def.mp hc]
      rfl
    exact head?_dropWhile_isBlank hstart
  · rw [trim, trimEnd, List.getLast?_reverse] at hc
    exact head?_dropWhile_isBlank hc

theorem Trims.eq_trim {s t : List Char} (h : Trims s t) : t = trim s := by
  obtain ⟨⟨lead, tail, hlead, htail, rfl⟩, hfirst, hlast⟩ := h
  cases t with
  | nil =>
    have hall : ∀ c ∈ lead ++ [] ++ tail, isBlank c = true := by
      rw [List.append_nil]
      exact List.forall_mem_append.mpr ⟨hlead, htail⟩
    rw [trim, trimStart, List.dropWhile_eq_nil_iff.mpr hall]
    rfl
  | cons c t =>
    have hstart : trimStart (lead ++ (c :: t) ++ tail) = c :: t ++ tail := by
      rw [trimStart, List.append_assoc]
      exact dropWhile_append_of_head hlead hfirst
    have hreverse : ∀ d ∈ tail.reverse, isBlank d = true :=
      fun d hd => htail d (List.mem_reverse.mp hd)
    rw [trim, hstart, trimEnd, List.reverse_append,
      dropWhile_append_of_head hreverse (by rwa [List.head?_reverse]), List.reverse_reverse]

theorem mem_dropWhile_of_mem {p : Char → Bool} {c : Char} {s : List Char} (h : c ∈ s)
    (hc : p c = false) : c ∈ s.dropWhile p := by
  have hcut : s.takeWhile p ++ s.dropWhile p = s := List.takeWhile_append_dropWhile
  rw [← hcut] at h
  refine (List.mem_append.mp h).resolve_left fun htake => ?_
  have hp : p c = true := List.mem_takeWhile_imp htake
  simp [hc] at hp

theorem mem_trim_of_mem {c : Char} {s : List Char} (h : c ∈ s) (hc : isBlank c = false) :
    c ∈ trim s := by
  rw [trim, trimEnd, List.mem_reverse]
  exact mem_dropWhile_of_mem (List.mem_reverse.mpr (mem_dropWhile_of_mem h hc)) hc

theorem mem_of_mem_trim {c : Char} {s : List Char} (h : c ∈ trim s) : c ∈ s := by
  obtain ⟨lead, tail, -, -, hs⟩ := (trims_trim s).cut
  rw [hs]
  exact List.mem_append_left _ (List.mem_append_right _ h)

end LinkedControls.Text
