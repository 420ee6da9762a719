import LinkedControls.Proofs.Query.Literals
import LinkedControls.Proofs.Text.Splice

/-!
Texts taken apart into literals and the characters outside of them. A text with an even number of quotes
can be taken apart in one way only, and its mask blanks the literals of it in place.
-/

namespace LinkedControls.Safety

open Text

inductive Stretch
  | plain (c : Char)
  /-- A literal, by what stands between its quotes. -/
  | literal (content : List Char)

namespace Stretch

def source : Stretch → List Char
  | plain c => [c]
  | literal content => '\'' :: (content ++ ['\''])

def masked : Stretch → List Char
  | plain c => [c]
  | literal content => '\'' :: (blanked content ++ ['\''])

def blank : Stretch → Stretch
  | plain c => plain c
  | literal content => literal (blanked content)

end Stretch

def source (ps : List Stretch) : List Char := ps.flatMap Stretch.source

def masked (ps : List Stretch) : List Char := ps.flatMap Stretch.masked

/-- The quotes of the literals are all there are, and no literal stands right before another, which
would make a doubled quote of the two between them. -/
inductive Quoted : List Stretch → Prop
  | nil : Quoted []
  | plain {c : Char} {ps : List Stretch} : c ≠ '\'' → Quoted ps → Quoted (.plain c :: ps)
  | literal {content : List Char} {ps : List Stretch} :
      Content content → (source ps).head? ≠ some '\'' → Quoted ps → Quoted (.literal content :: ps)

variable {s t u v : List Char} {ps qs : List Stretch}

theorem source_plain (c : Char) (ps : List Stretch) : source (.plain c :: ps) = c :: source ps := rfl

theorem source_literal (u : List Char) (ps : List Stretch) :
    source (.literal u :: ps) = '\'' :: (u ++ '\'' :: source ps) := by
  simp [source, Stretch.source]

theorem masked_literal (u : List Char) (ps : List Stretch) :
    masked (.literal u :: ps) = '\'' :: (blanked u ++ '\'' :: masked ps) := by
  simp [masked, Stretch.masked]

theorem maskFrom_eq_none_iff (inside : Bool) (s : List Char) :
    maskFrom inside s = none ↔ endsInside inside s = true := by
  fun_induction maskFrom inside s with
  | case1 => exact iff_of_true rfl rfl
  | case2 inside hin =>
    rw [Bool.not_eq_true] at hin
    simp [hin, endsInside, quotes]
  | case3 rest ih => rw [Option.map_eq_none_iff, ih, endsInside_quote, endsInside_quote, Bool.not_not]
  | case4 inside rest _ ih => rw [Option.map_eq_none_iff, ih, endsInside_quote]
  | case5 c rest hc _ ih => rw [Option.map_eq_none_iff, ih, endsInside_of_ne hc]
  | case6 inside c rest _ hc hin ih =>
    rw [Option.map_eq_none_iff, ih, endsInside_of_ne hc, Bool.eq_false_iff.mpr hin]

def TakesApart : Bool → List Char → Prop
  | false, s => ∃ ps, Quoted ps ∧ source ps = s
  | true, s => ∃ u ps, Content u ∧ (source ps).head? ≠ some '\'' ∧ Quoted ps ∧
      u ++ '\'' :: source ps = s

theorem takesApart_of_outside {inside : Bool} {s : List Char} (h : endsInside inside s = false) :
    TakesApart inside s := by
  -- the mask's own cases: a quote in a literal that another follows does not end the literal
  induction inside, s using maskFrom.induct with
  | case1 => cases h
  | case2 inside hin =>
    obtain rfl := Bool.eq_false_iff.mpr hin
    exact ⟨[], .nil, rfl⟩
  | case3 rest ih =>
    rw [endsInside_quote, endsInside_quote, Bool.not_not] at h
    obtain ⟨u, ps, hu, hnext, hps, rfl⟩ := ih h
    exact ⟨_, ps, .pair hu, hnext, hps, rfl⟩
  | case4 inside rest hsingle ih =>
    rw [endsInside_quote] at h
    cases inside with
    | false =>
      obtain ⟨u, ps, hu, hnext, hps, rfl⟩ := ih h
      exact ⟨.literal u :: ps, .literal hu hnext hps, source_literal u ps⟩
    | true =>
      obtain ⟨ps, hps, rfl⟩ := ih h
      refine ⟨[], ps, .nil, fun hquote => ?_, hps, rfl⟩
      obtain ⟨rest, hrest⟩ := List.head?_eq_some_iff.mp hquote
      exact hsingle rest rfl rfl hrest
  | case5 c rest hc _ ih =>
    rw [endsInside_of_ne hc] at h
    obtain ⟨u, ps, hu, hnext, hps, rfl⟩ := ih h
    exact ⟨c :: u, ps, .char hc hu, hnext, hps, rfl⟩
  | case6 inside c rest _ hc hin ih =>
    obtain rfl := Bool.eq_false_iff.mpr hin
    rw [endsInside_of_ne hc] at h
    obtain ⟨ps, hps, rfl⟩ := ih h
    exact ⟨.plain c :: ps, .plain hc hps, rfl⟩

theorem content_unique (hu : Content u) (hv : Content v) (hs : s.head? ≠ some '\'')
    (ht : t.head? ≠ some '\'') (he : u ++ '\'' :: s = v ++ '\'' :: t) : u = v ∧ s = t := by
  induction hu generalizing v with
  | nil =>
    cases hv with
    | nil => exact ⟨rfl, (List.cons.inj he).2⟩
    | char hc => exact absurd (List.cons.inj he).1.symm hc
    | pair => exact absurd (congrArg List.head? (List.cons.inj he).2) hs
  | char hc _ ih =>
    cases hv with
    | nil => exact absurd (List.cons.inj he).1 hc
    | char _ hv =>
      obtain ⟨rfl, hrest⟩ := List.cons.inj he
      obtain ⟨rfl, rfl⟩ := ih hv hrest
      exact ⟨rfl, rfl⟩
    | pair => exact absurd (List.cons.inj he).1 hc
  | pair _ ih =>
    cases hv with
    | nil => exact absurd (congrArg List.head? (List.cons.inj he).2.symm) ht
    | char hc => exact absurd (List.cons.inj he).1.symm hc
    | pair hv =>
      obtain ⟨rfl, rfl⟩ := ih hv (List.cons.inj (List.cons.inj he).2).2
      exact ⟨rfl, rfl⟩

theorem Quoted.unique (h : Quoted ps) (h' : Quoted qs) (he : source ps = source qs) : ps = qs := by
  induction h generalizing qs with
  | nil =>
    cases h' with
    | nil => rfl
    | plain => cases he
    | literal => rw [source_literal] at he; cases he
  | plain hc _ ih =>
    cases h' with
    | nil => cases he
    | plain _ hqs =>
      obtain ⟨rfl, hrest⟩ := List.cons.inj he
      rw [ih hqs hrest]
    | literal =>
      rw [source_literal] at he
      exact absurd (List.cons.inj he).1 hc
  | literal hu hnext _ ih =>
    rw [source_literal] at he
    cases h' with
    | nil => cases he
    | plain hc => exact absurd (List.cons.inj he).1.symm hc
    | literal hv hnext' hqs =>
      rw [source_literal] at he
      obtain ⟨rfl, hrest⟩ := content_unique hu hv hnext hnext' (List.cons.inj he).2
      rw [ih hqs hrest]

theorem mask_source (h : Quoted ps) : mask (source ps) = some (masked ps) := by
  unfold mask
  induction h with
  | nil => rfl
  | plain hc _ ih => rw [source_plain, maskFrom_outside hc, ih]; rfl
  | literal hu hnext _ ih =>
    rw [source_literal, masked_literal, maskFrom_open, maskFrom_content hu, maskFrom_close hnext, ih]
    rfl

theorem byteLength_blanked (u : List Char) : byteLength (blanked u) = byteLength u := by
  have hblanks (n : Nat) : byteLength (List.replicate n ' ') = n := by
    induction n with
    | zero => rfl
    | succ n ih => rw [List.replicate_succ, byteLength, ih]; exact Nat.add_comm 1 n
  exact hblanks _

theorem content_blanked (u : List Char) : Content (blanked u) := by
  have hblanks (n : Nat) : Content (List.replicate n ' ') := by
    induction n with
    | zero => exact .nil
    | succ n ih => exact .char (by decide) ih
  exact hblanks _

theorem byteLength_masked (ps : List Stretch) : byteLength (masked ps) = byteLength (source ps) := by
  induction ps with
  | nil => rfl
  | cons p ps ih =>
    cases p with
    | plain c => exact congrArg (c.utf8Size + ·) ih
    | literal u =>
      rw [masked_literal, source_literal]
      simp only [byteLength, byteLength_append, byteLength_blanked, ih]

theorem source_blank (ps : List Stretch) : source (ps.map Stretch.blank) = masked ps := by
  induction ps with
  | nil => rfl
  | cons p ps ih =>
    cases p with
    | plain c => exact congrArg (c :: ·) ih
    | literal u => rw [List.map_cons, Stretch.blank, source_literal, ih, masked_literal]

theorem masked_blank (ps : List Stretch) : masked (ps.map Stretch.blank) = masked ps := by
  induction ps with
  | nil => rfl
  | cons p ps ih =>
    cases p with
    | plain c => exact congrArg (c :: ·) ih
    | literal u =>
      rw [List.map_cons, Stretch.blank, masked_literal, masked_literal, ih, blanked, byteLength_blanked]
      rfl

theorem head?_masked (ps : List Stretch) : (masked ps).head? = (source ps).head? := by
  cases ps with
  | nil => rfl
  | cons p ps => cases p <;> rfl

theorem Quoted.blank (h : Quoted ps) : Quoted (ps.map Stretch.blank) := by
  induction h with
  | nil => exact .nil
  | plain hc _ ih => exact .plain hc ih
  | literal _ hnext _ ih =>
    refine .literal (content_blanked _) ?_ ih
    rwa [source_blank, head?_masked]

theorem mask_masked (h : Quoted ps) : mask (masked ps) = some (masked ps) := by
  rw [← source_blank, mask_source h.blank, masked_blank, source_blank]

theorem extract_stretch (f : Stretch → List Char) (before : List Stretch) (p : Stretch)
    (after : List Stretch) :
    ((before ++ p :: after).flatMap f).utf8Encode.extract (byteLength (before.flatMap f))
      (byteLength ((before ++ [p]).flatMap f)) = (f p).utf8Encode := by
  have hextract := extract_utf8Encode (before.flatMap f) (f p) (after.flatMap f)
  simpa using hextract

theorem mask_exact (s : List Char) :
    (mask s = none ↔ quotes s % 2 = 1) ∧ ∀ m, mask s = some m →
      m.utf8Encode.size = s.utf8Encode.size ∧ mask m = some m ∧
        ∃ ps, Quoted ps ∧ source ps = s ∧ masked ps = m ∧
          (∀ qs, Quoted qs → source qs = s → qs = ps) ∧
          ∀ before p after, ps = before ++ p :: after →
            let start := byteLength (source before)
            let stop := byteLength (source (before ++ [p]))
            s.utf8Encode.extract start stop = p.source.utf8Encode ∧
              m.utf8Encode.extract start stop = p.masked.utf8Encode := by
  have hnone : mask s = none ↔ quotes s % 2 = 1 := by
    rw [mask, maskFrom_eq_none_iff, endsInside]
    simp
  refine ⟨hnone, fun m hm => ?_⟩
  have houtside : endsInside false s = false := by
    rw [Bool.eq_false_iff, ne_eq, ← maskFrom_eq_none_iff]
    exact fun h => Option.some_ne_none m (hm.symm.trans h)
  obtain ⟨ps, hps, rfl⟩ := takesApart_of_outside houtside
  obtain rfl := Option.some.inj ((mask_source hps).symm.trans hm)
  refine ⟨?_, mask_masked hps, ps, hps, rfl, rfl, fun qs hqs he => hqs.unique hps he, ?_⟩
  · rw [size_utf8Encode, size_utf8Encode, byteLength_masked]
  · rintro before p after rfl
    refine ⟨extract_stretch Stretch.source before p after, ?_⟩
    rw [← byteLength_masked before, ← byteLength_masked (before ++ [p])]
    exact extract_stretch Stretch.masked before p after

def doubledAccent : List Char := "a='é\'\'('".toList

theorem mask_exact_doubledAccent :
    mask doubledAccent = some "a='     '".toList ∧
      mask "a='     '".toList = some "a='     '".toList ∧
      "a='     '".toList.utf8Encode.extract 2 9 = "'     '".toList.utf8Encode ∧
      mask ('\'' :: doubledAccent) = none := by
  have hm : mask doubledAccent = some "a='     '".toList := by decide
  obtain ⟨-, hself, ps, -, -, -, hunique, hplaces⟩ := (mask_exact doubledAccent).2 _ hm
  have hquoted : Quoted [.plain 'a', .plain '=', .literal "é\'\'(".toList] :=
    .plain (by decide) (.plain (by decide)
      (.literal (.char (by decide) (.pair (.char (by decide) .nil))) (by decide) .nil))
  have hps := hunique _ hquoted (by decide)
  have hliteral := (hplaces [.plain 'a', .plain '='] (.literal "é\'\'(".toList) [] hps.symm).2
  refine ⟨hm, hself, hliteral, ?_⟩
  exact (mask_exact ('\'' :: doubledAccent)).1.mpr (by decide)

end LinkedControls.Safety
