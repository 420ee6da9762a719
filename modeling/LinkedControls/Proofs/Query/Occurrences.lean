import LinkedControls.Proofs.Query.Segments
import LinkedControls.Proofs.Text.Splice
import LinkedControls.Proofs.Text.Trim

/-!
Where the references of a template stand. The scan from left to right passes over none of them, since
no reference begins inside of another one.
-/

namespace LinkedControls

open Text

inductive Reference.NamedBy : List Char → Reference → Prop
  | control {inner name : List Char} :
      '.' ∉ inner → Trims inner name → name ≠ [] → NamedBy inner ⟨String.ofList name, none⟩
  | part {before after name path : List Char} :
      '.' ∉ before → Trims before name → name ≠ [] → Trims after path → path ≠ [] →
        NamedBy (before ++ '.' :: after) ⟨String.ofList name, some (String.ofList path)⟩

theorem Reference.ofInner?_eq_some_iff {inner : List Char} {r : Reference} :
    ofInner? inner = some r ↔ NamedBy inner r := by
  constructor
  · intro h
    unfold ofInner? at h
    split at h
    next hsplit =>
      simp only [Option.ite_none_left_eq_some, Option.some.injEq, List.isEmpty_iff] at h
      obtain ⟨hname, rfl⟩ := h
      exact .control (not_mem_of_splitFirst_eq_none hsplit) (trims_trim inner) hname
    next before after hsplit =>
      simp only [Option.ite_none_left_eq_some, Option.some.injEq, Bool.or_eq_true, not_or,
        List.isEmpty_iff] at h
      obtain ⟨⟨hname, hpath⟩, rfl⟩ := h
      obtain ⟨rfl, hpoint⟩ := of_splitFirst hsplit
      exact .part hpoint (trims_trim before) hname (trims_trim after) hpath
  · intro h
    cases h with
    | control hpoint hname hne =>
      obtain rfl := hname.eq_trim
      simp [ofInner?, splitFirst_of_not_mem hpoint, hne]
    | part hpoint hname hne hpath hne' =>
      obtain rfl := hname.eq_trim
      obtain rfl := hpath.eq_trim
      simp [ofInner?, splitFirst_append hpoint, hne, hne']

namespace Template

theorem braced?_eq_some_iff {s inner rest : List Char} :
    braced? s = some (inner, rest) ↔
      s = written inner ++ rest ∧ inner ≠ [] ∧ ∀ c ∈ inner, isInner c = true := by
  constructor
  · intro h
    refine ⟨eq_written_of_braced? h, ?_⟩
    unfold braced? at h
    split at h
    · split at h
      next htake hdrop =>
        cases h
        exact ⟨List.cons_ne_nil _ _, fun d hd => List.mem_takeWhile_imp (htake ▸ hd)⟩
      · cases h
    · cases h
  · rintro ⟨rfl, hne, hinner⟩
    have hclose : ∀ c ∈ ('\x7d' :: rest).head?, isInner c = false := by simp; decide
    have htake := takeWhile_append_of_head hinner hclose
    have hdrop := dropWhile_append_of_head hinner hclose
    obtain ⟨c, tail, rfl⟩ := List.exists_cons_of_ne_nil hne
    simp only [written, List.cons_append, List.append_assoc, List.nil_append] at htake hdrop ⊢
    simp only [braced?, htake, hdrop]

theorem dollar_not_mem {inner : List Char} (h : ∀ c ∈ inner, isInner c = true) :
    '$' ∉ '\x7b' :: (inner ++ ['\x7d']) := by
  intro hmem
  have hinner : '$' ∈ inner := by simpa using hmem
  exact absurd (h _ hinner) (by decide)

theorem written_append_eq {inner inner' rest front back : List Char}
    (hinner : ∀ c ∈ inner, isInner c = true)
    (h : written inner ++ rest = front ++ written inner' ++ back) :
    front = [] ∨ ∃ front', front = written inner ++ front' ∧ rest = front' ++ written inner' ++ back := by
  cases front with
  | nil => exact .inl rfl
  | cons c front =>
    refine .inr ?_
    have hbody : ('\x7b' :: (inner ++ ['\x7d'])) ++ rest = front ++ (written inner' ++ back) := by
      simpa [written] using (List.cons.inj h).2
    have hc : '$' = c := (List.cons.inj h).1
    subst hc
    rcases List.append_eq_append_iff.mp hbody with ⟨gap, rfl, hrest⟩ | ⟨gap, hgap, hwritten⟩
    · exact ⟨gap, rfl, by rw [hrest, List.append_assoc]⟩
    · cases gap with
      | nil =>
        refine ⟨[], ?_, ?_⟩
        · rw [List.append_nil] at hgap ⊢
          rw [← hgap]
          rfl
        · simpa using hwritten.symm
      | cons d gap =>
        -- the dollar sign of the second one would stand inside the braces of the first
        have hd : '$' = d := (List.cons.inj hwritten).1
        exact absurd (by rw [hgap, hd]; simp) (dollar_not_mem hinner)

structure Spells (template front inner back : List Char) (r : Reference) : Prop where
  split : template = front ++ written inner ++ back
  nonempty : inner ≠ []
  bare : ∀ c ∈ inner, c ≠ '\x7b' ∧ c ≠ '\x7d' ∧ c ≠ '$'
  names : Reference.NamedBy inner r

theorem isInner_iff {c : Char} : isInner c = true ↔ c ≠ '\x7b' ∧ c ≠ '\x7d' ∧ c ≠ '$' := by
  simp [isInner, and_assoc]

theorem Spells.braced {template inner back : List Char} {r : Reference}
    (h : Spells template [] inner back r) : braced? template = some (inner, back) :=
  braced?_eq_some_iff.mpr ⟨h.split, h.nonempty, fun c hc => isInner_iff.mpr (h.bare c hc)⟩

theorem mem_occurrencesFrom_ofInner {offset : Nat} {inner : List Char} {rest : List Segment}
    {o : Occurrence} :
    o ∈ occurrencesFrom offset (.ofInner inner :: rest) ↔
      (Reference.NamedBy inner o.reference ∧ o.source = written inner ∧ o.start = offset) ∨
        o ∈ occurrencesFrom (offset + byteLength (written inner)) rest := by
  obtain ⟨r, source, start⟩ := o
  unfold Segment.ofInner
  cases hr : Reference.ofInner? inner with
  | none =>
    have hnone : ¬ Reference.NamedBy inner r := by
      simp [← Reference.ofInner?_eq_some_iff, hr]
    simp [occurrencesFrom, hnone]
  | some q =>
    have hq : Reference.NamedBy inner r ↔ r = q := by
      rw [← Reference.ofInner?_eq_some_iff, hr, Option.some.injEq, eq_comm]
    simp [occurrencesFrom, hq]

theorem mem_occurrencesFrom_segments {template : List Char} {offset : Nat} {o : Occurrence} :
    o ∈ occurrencesFrom offset (segments template) ↔
      ∃ front inner back, Spells template front inner back o.reference ∧
        o.source = written inner ∧ o.start = offset + byteLength front := by
  induction template using segments.induct generalizing offset with
  | case1 s inner rest hbraced _ ih =>
    obtain ⟨hs, hne, hinner⟩ := braced?_eq_some_iff.mp hbraced
    rw [segments_of_braced hbraced, mem_occurrencesFrom_ofInner, ih]
    constructor
    · rintro (⟨hnames, hsource, hstart⟩ | ⟨front, inner', back, h, hsource, hstart⟩)
      · exact ⟨[], inner, rest, ⟨hs, hne, fun c hc => isInner_iff.mp (hinner c hc), hnames⟩, hsource,
          hstart⟩
      · refine ⟨written inner ++ front, inner', back, ⟨?_, h.nonempty, h.bare, h.names⟩, hsource, ?_⟩
        · rw [hs, h.split, List.append_assoc, List.append_assoc, List.append_assoc]
        · rw [hstart, byteLength_append, Nat.add_assoc]
    · rintro ⟨front, inner', back, h, hsource, hstart⟩
      rcases written_append_eq hinner (hs.symm.trans h.split) with rfl | ⟨front', rfl, hrest⟩
      · obtain ⟨rfl, rfl⟩ : inner = inner' ∧ rest = back := by
          simpa [hbraced] using h.braced
        exact .inl ⟨h.names, hsource, hstart⟩
      · refine .inr ⟨front', inner', back, ⟨hrest, h.nonempty, h.bare, h.names⟩, hsource, ?_⟩
        rw [hstart, byteLength_append, Nat.add_assoc]
  | case2 =>
    rw [segments_nil]
    constructor
    · exact fun h => absurd h List.not_mem_nil
    · rintro ⟨front, inner, back, h, -⟩
      have hnil : front ++ written inner ++ back = [] := h.split.symm
      simp [written] at hnil
  | case3 c rest hbraced ih =>
    rw [segments_of_none hbraced, occurrencesFrom, ih]
    constructor
    · rintro ⟨front, inner, back, h, hsource, hstart⟩
      refine ⟨c :: front, inner, back, ⟨congrArg (c :: ·) h.split, h.nonempty, h.bare, h.names⟩,
        hsource, ?_⟩
      rw [hstart, byteLength, byteLength, byteLength, Nat.add_zero, Nat.add_assoc]
    · rintro ⟨front, inner, back, h, hsource, hstart⟩
      cases front with
      | nil =>
        rw [h.braced] at hbraced
        cases hbraced
      | cons d front =>
        have hsplit : c = d ∧ rest = front ++ written inner ++ back := List.cons.inj h.split
        obtain ⟨rfl, hrest⟩ := hsplit
        refine ⟨front, inner, back, ⟨hrest, h.nonempty, h.bare, h.names⟩, hsource, ?_⟩
        rw [hstart, byteLength, byteLength, byteLength, Nat.add_zero, Nat.add_assoc]

theorem byteLength_written_pos (inner : List Char) : 0 < byteLength (written inner) :=
  Nat.add_pos_left (Char.utf8Size_pos _) _

theorem occurrencesFrom_pairwise (offset : Nat) (segs : List Segment) :
    (∀ o ∈ occurrencesFrom offset segs, offset ≤ o.start ∧ o.start < o.stop) ∧
      (occurrencesFrom offset segs).Pairwise fun o p => o.stop ≤ p.start := by
  induction segs generalizing offset with
  | nil => exact ⟨fun o h => absurd h List.not_mem_nil, .nil⟩
  | cons seg segs ih =>
    cases seg with
    | text s =>
      obtain ⟨hstart, hpairwise⟩ := ih (offset + byteLength s)
      exact ⟨fun o h => ⟨by have := (hstart o h).1; omega, (hstart o h).2⟩, hpairwise⟩
    | reference r inner =>
      obtain ⟨hstart, hpairwise⟩ := ih (offset + byteLength (written inner))
      have hpos := byteLength_written_pos inner
      refine ⟨List.forall_mem_cons.mpr ⟨⟨Nat.le_refl _, by simp [Occurrence.stop, hpos]⟩, fun o h => ?_⟩,
        .cons (fun o h => (hstart o h).1) hpairwise⟩
      exact ⟨by have := (hstart o h).1; omega, (hstart o h).2⟩

theorem occurrences_exact (template : List Char) :
    (occurrences template).Pairwise (fun o p => o.start < p.start ∧ o.stop ≤ p.start) ∧
    ∀ o, o ∈ occurrences template ↔
      ∃ front inner back, Spells template front inner back o.reference ∧
        o.source = written inner ∧ o.start = front.utf8Encode.size ∧
        o.stop = (front ++ written inner).utf8Encode.size ∧
        template.utf8Encode.extract o.start o.stop = o.source.utf8Encode := by
  obtain ⟨hstart, hpairwise⟩ := occurrencesFrom_pairwise 0 (segments template)
  refine ⟨hpairwise.imp_of_mem fun ho _ hle => ⟨Nat.lt_of_lt_of_le (hstart _ ho).2 hle, hle⟩,
    fun o => ?_⟩
  rw [occurrences, mem_occurrencesFrom_segments]
  refine exists_congr fun front => exists_congr fun inner => exists_congr fun back => ?_
  rw [size_utf8Encode, size_utf8Encode, Nat.zero_add]
  constructor
  · rintro ⟨h, hsource, hfront⟩
    have hstop : o.stop = byteLength (front ++ written inner) := by
      rw [Occurrence.stop, hsource, hfront, byteLength_append]
    exact ⟨h, hsource, hfront, hstop, by rw [h.split, hfront, hstop, hsource, extract_utf8Encode]⟩
  · rintro ⟨h, hsource, hfront, -⟩
    exact ⟨h, hsource, hfront⟩

end Template

end LinkedControls
