import LinkedControls.Proofs.Query.Literals

/-!
Templates as the segments they are cut into, and how many quotes stand before a reference.
-/

namespace LinkedControls.Template

theorem segments_of_braced {s inner rest : List Char} (h : braced? s = some (inner, rest)) :
    segments s = .ofInner inner :: segments rest := by
  rw [segments]
  split
  next inner' rest' h' =>
    rw [h] at h'
    cases h'
    rfl
  next h' => rw [h] at h'; cases h'

theorem segments_of_none {c : Char} {rest : List Char} (h : braced? (c :: rest) = none) :
    segments (c :: rest) = .text [c] :: segments rest := by
  rw [segments]
  split
  next h' => rw [h] at h'; cases h'
  · rfl

theorem segments_nil : segments [] = [] := by
  rw [segments]
  split
  next h => cases h
  · rfl

theorem segments_of_ne {c : Char} (h : c ≠ '$') (rest : List Char) :
    segments (c :: rest) = .text [c] :: segments rest := by
  refine segments_of_none ?_
  unfold braced?
  split
  next he => exact absurd (List.cons.inj he).1 h
  · rfl

theorem segments_append {u : List Char} (h : '$' ∉ u) (rest : List Char) :
    segments (u ++ rest) = (u.map fun c => .text [c]) ++ segments rest := by
  induction u with
  | nil => rfl
  | cons c u ih =>
    obtain ⟨hc, hu⟩ : c ≠ '$' ∧ '$' ∉ u := by simpa [eq_comm] using h
    rw [List.cons_append, segments_of_ne hc, ih hu]
    rfl

theorem source_ofInner (inner : List Char) : (Segment.ofInner inner).source = written inner := by
  unfold Segment.ofInner
  split <;> rfl

theorem flatMap_source_segments (s : List Char) : (segments s).flatMap Segment.source = s := by
  induction s using segments.induct with
  | case1 s inner rest h _ ih =>
    rw [segments_of_braced h, List.flatMap_cons, ih, source_ofInner, eq_written_of_braced? h]
  | case2 =>
    rw [segments_nil]
    rfl
  | case3 c rest h ih =>
    rw [segments_of_none h, List.flatMap_cons, ih]
    rfl

theorem mem_references {template : List Char} {r : Reference} {inner : List Char}
    (h : .reference r inner ∈ segments template) : r ∈ references template := by
  rw [references, occurrences]
  generalize segments template = segs at h
  generalize 0 = offset
  induction segs generalizing offset with
  | nil => cases h
  | cons seg segs ih =>
    rcases List.mem_cons.mp h with rfl | htail
    · exact List.mem_cons_self
    · cases seg with
      | text s => exact ih htail _
      | reference q inner' => exact List.mem_cons_of_mem _ (ih htail _)

def textQuotes : List Segment → Nat
  | [] => 0
  | .text s :: rest => quotes s + textQuotes rest
  | .reference _ _ :: rest => textQuotes rest

def sourceQuotes (segs : List Segment) : Nat := quotes (segs.flatMap Segment.source)

theorem sourceQuotes_segments (s : List Char) : sourceQuotes (segments s) = quotes s := by
  rw [sourceQuotes, flatMap_source_segments]

-- by the given count of quotes, every reference stands outside of literals and no literal is left open
structure Closed (count : List Segment → Nat) (segs : List Segment) : Prop where
  whole : count segs % 2 = 0
  before : ∀ front r inner back, segs = front ++ .reference r inner :: back → count front % 2 = 0

end LinkedControls.Template
