import LinkedControls.Proofs.Query.Facing
import LinkedControls.Proofs.Query.Segments

/-!
Templates filled from two snapshots that differ only in their texts. Where every reference stands outside
of quotes, the results differ only between quotes.
-/

namespace LinkedControls

open Safety Template

theorem twin_append {s t : List Char} (u : List Char) (inside : Bool)
    (h : Twin Content (endsInside inside u) s t) : Twin Content inside (u ++ s) (u ++ t) := by
  induction u generalizing inside with
  | nil => rwa [endsInside_of_even rfl] at h
  | cons c u ih =>
    by_cases hc : c = '\''
    · subst hc
      rw [endsInside_quote] at h
      cases inside with
      | false => exact .opening (ih _ h)
      | true => exact .closing (ih _ h)
    · rw [endsInside_of_ne hc] at h
      cases inside with
      | false => exact .outside hc (ih _ h)
      | true => exact .content (u := [c]) (v := [c]) (.char hc .nil) (.char hc .nil) (ih _ h)

theorem twin_quoteLiteral (x y : List Char) {s t : List Char} (h : Twin Content false s t) :
    Twin Content false (quoteLiteral x ++ s) (quoteLiteral y ++ t) := by
  have hinner := Twin.content (content_doubleQuotes x) (content_doubleQuotes y) (.closing h)
  simpa [quoteLiteral] using hinner.opening

def filled (f : Reference → List Char) (segs : List Segment) : List Char :=
  segs.flatMap fun
    | .text s => s
    | .reference r _ => f r

structure Replaces (f g : Reference → List Char) (r : Reference) : Prop where
  even : quotes (f r) % 2 = 0
  same : f r = g r ∨ ∃ x y, f r = quoteLiteral x ∧ g r = quoteLiteral y

-- `n` is the number of quotes in the text before the segments: its parity is where they begin
theorem twin_filled {f g : Reference → List Char} {segs : List Segment} {inside : Bool} {n : Nat}
    (hn : inside = decide (n % 2 = 1)) (hclosed : Closed (fun segs => n + textQuotes segs) segs)
    (hfg : ∀ r inner, .reference r inner ∈ segs → Replaces f g r) :
    Twin Content inside (filled f segs) (filled g segs) := by
  induction segs generalizing inside n with
  | nil =>
    have heven : n % 2 = 0 := hclosed.whole
    rw [hn, decide_eq_false (by omega)]
    exact .nil
  | cons seg segs ih =>
    cases seg with
    | text s =>
      refine twin_append s _ (ih (n := n + quotes s) ?_ ?_ fun r inner hr =>
        hfg r inner (List.mem_cons_of_mem _ hr))
      · rw [hn, endsInside]
        have hparity : (n + quotes s) % 2 = 1 ↔ ¬ (n % 2 = 1 ↔ quotes s % 2 = 1) := by omega
        by_cases hleft : n % 2 = 1 <;> by_cases hright : quotes s % 2 = 1 <;>
          simp [hparity, hleft, hright]
      · refine ⟨by simpa [textQuotes, Nat.add_assoc] using hclosed.whole, ?_⟩
        rintro front r inner back rfl
        have hfront := hclosed.before (.text s :: front) r inner back rfl
        simpa [textQuotes, Nat.add_assoc] using hfront
    | reference r inner =>
      have houtside : n % 2 = 0 := hclosed.before [] r inner segs rfl
      have hrest : Closed (fun segs => n + textQuotes segs) segs := by
        refine ⟨hclosed.whole, ?_⟩
        rintro front q inner' back rfl
        exact hclosed.before (.reference r inner :: front) q inner' back rfl
      have htwin := ih hn hrest fun q inner' hq => hfg q inner' (List.mem_cons_of_mem _ hq)
      obtain ⟨heven, hsame | ⟨x, y, hx, hy⟩⟩ := hfg r inner List.mem_cons_self
      · have happend := twin_append (f r) inside (by rwa [endsInside_of_even heven])
        simpa [filled, ← hsame] using happend
      · have hfalse : inside = false := by
          rw [hn, decide_eq_false (by omega)]
        rw [hfalse] at htwin ⊢
        simpa [filled, hx, hy] using twin_quoteLiteral x y htwin

def Value.SameButText (v w : Value) : Prop := v = w ∨ ∃ x y, v = .text x ∧ w = .text y

def Snapshot.SameButTexts (s s' : Snapshot) : Prop :=
  ∀ id, Option.Rel (fun c d => c.kind = d.kind ∧ c.value.SameButText d.value) (s.get? id) (s'.get? id)

def literalIn (s : Snapshot) (r : Reference) : List Char := (r.literal? s).getD nullLiteral

theorem quotes_literalIn (s : Snapshot) (r : Reference) : quotes (literalIn s r) % 2 = 0 := by
  unfold literalIn Reference.literal?
  cases r.resolve? s with
  | none => rfl
  | some v =>
    cases hv : v.literal? with
    | none => simp [hv]; rfl
    | some l => simpa [hv] using quotes_literal hv

variable {template : List Char} {s s' : Snapshot}

theorem replaces_literalIn (hsame : s.SameButTexts s') {r : Reference}
    (hpart : r.path.isSome = true → s.value? r.control = s'.value? r.control) :
    Replaces (literalIn s) (literalIn s') r := by
  refine ⟨quotes_literalIn s r, ?_⟩
  have hrel := hsame r.control
  cases hc : s.get? r.control with
  | none =>
    cases hd : s'.get? r.control with
    | none => exact .inl (by simp [literalIn, Reference.literal?, Reference.resolve?, hc, hd])
    | some d => rw [hc, hd] at hrel; cases hrel
  | some c =>
    cases hd : s'.get? r.control with
    | none => rw [hc, hd] at hrel; cases hrel
    | some d =>
      rw [hc, hd] at hrel
      obtain ⟨hkind, hvalue⟩ : c.kind = d.kind ∧ c.value.SameButText d.value := by
        cases hrel
        assumption
      have hequal (h : c.value = d.value) : literalIn s r = literalIn s' r := by
        simp [literalIn, Reference.literal?, Reference.resolve?, hc, hd, h, hkind]
      cases hp : r.path with
      | some path =>
        refine .inl (hequal ?_)
        simpa [Snapshot.value?, hc, hd] using hpart (by rw [hp]; rfl)
      | none =>
        rcases hvalue with h | ⟨x, y, hx, hy⟩
        · exact .inl (hequal h)
        · refine .inr ⟨x.toList, y.toList, ?_, ?_⟩
          · simp [literalIn, Reference.literal?, Reference.resolve?, hc, hp, hx, Value.literal?]
          · simp [literalIn, Reference.literal?, Reference.resolve?, hd, hp, hy, Value.literal?]

theorem twin_substitute (hclosed : Closed textQuotes (segments template))
    (hsame : s.SameButTexts s')
    (hparts : ∀ r ∈ references template, r.path.isSome = true →
      s.value? r.control = s'.value? r.control) :
    Twin Content false (substitute template s) (substitute template s') := by
  refine twin_filled (n := 0) rfl ⟨?_, fun front r inner back h => ?_⟩ fun r inner hr => ?_
  · simpa using hclosed.whole
  · simpa using hclosed.before front r inner back h
  · exact replaces_literalIn hsame (hparts r (mem_references hr))

theorem check_substitute (hclosed : Closed textQuotes (segments template))
    (hsame : s.SameButTexts s')
    (hparts : ∀ r ∈ references template, r.path.isSome = true →
      s.value? r.control = s'.value? r.control) :
    (∃ m m', mask (substitute template s) = some m ∧ mask (substitute template s') = some m' ∧
      Twin Blanks false m m') ∧
    (check (substitute template s)).warnings = (check (substitute template s')).warnings ∧
    (check (substitute template s)).errors.filter (!isInjectionError ·) =
      (check (substitute template s')).errors.filter (!isInjectionError ·) := by
  have htwin := twin_substitute hclosed hsame hparts
  exact ⟨htwin.maskFrom, check_of_twin htwin⟩

def around (t : String) : Snapshot := ⟨[⟨"t", .text, .text t⟩], 0⟩

theorem sameButTexts_around (x y : String) : (around x).SameButTexts (around y) := by
  intro id
  unfold around Snapshot.get?
  by_cases h : "t" = id
  · simp only [List.find?_cons, beq_iff_eq.mpr h]
    exact .some ⟨rfl, .inr ⟨x, y, rfl, rfl⟩⟩
  · have hne : ("t" == id) = false := by simpa using h
    simp only [List.find?_cons, hne, List.find?_nil]
    exact .none

-- 't'=${t}
def within : List Char := ['\'', 't', '\'', '=', '$', '\x7b', 't', '\x7d']

theorem segments_within : segments within =
    [.text ['\''], .text ['t'], .text ['\''], .text ['='], .reference ⟨"t", none⟩ ['t']] := by
  rw [within, segments_of_ne (by decide), segments_of_ne (by decide), segments_of_ne (by decide),
    segments_of_ne (by decide), segments_of_braced rfl, segments_nil]
  rfl

theorem closed_within : Closed textQuotes (segments within) := by
  rw [segments_within]
  refine ⟨rfl, fun front r inner back h => ?_⟩
  obtain ⟨rfl, -⟩ : front = [.text ['\''], .text ['t'], .text ['\''], .text ['=']] ∧ _ := by
    simpa [List.cons_eq_append_iff] using h
  rfl

theorem check_within :
    Closed textQuotes (segments within) ∧ (around "x").SameButTexts (around "'; DROP --") ∧
    (check (substitute within (around "x"))).warnings =
      (check (substitute within (around "'; DROP --"))).warnings ∧
    (check (substitute within (around "x"))).errors.filter (!isInjectionError ·) =
      (check (substitute within (around "'; DROP --"))).errors.filter (!isInjectionError ·) := by
  have hsame := sameButTexts_around "x" "'; DROP --"
  have hparts : ∀ r ∈ references within, r.path.isSome = true →
      (around "x").value? r.control = (around "'; DROP --").value? r.control := by
    rw [references, occurrences, segments_within]
    decide
  exact ⟨closed_within, hsame, (check_substitute closed_within hsame hparts).2⟩

-- ${'}'${t}${'}'
def braces : List Char :=
  ['$', '\x7b', '\'', '\x7d', '\'', '$', '\x7b', 't', '\x7d', '$', '\x7b', '\'', '\x7d', '\'']

theorem segments_braces : segments braces =
    [.reference ⟨"'", none⟩ ['\''], .text ['\''], .reference ⟨"t", none⟩ ['t'],
      .reference ⟨"'", none⟩ ['\''], .text ['\'']] := by
  rw [braces, segments_of_braced rfl, segments_of_ne (by decide), segments_of_braced rfl,
    segments_of_braced rfl, segments_of_ne (by decide), segments_nil]
  rfl

def dashError : String := "Comment delimiter '--' is not allowed"

theorem contains_of_dashError {sql m : List Char} (hmask : mask sql = some m)
    (h : dashError ∈ (check sql).errors) : Text.contains ['-', '-'] m = true := by
  simp only [check, hmask, Option.getD_some, List.mem_append] at h
  rcases h with ((h | h) | h) | h
  · exact absurd (isInjectionError_of_mem h) (by decide)
  · exact absurd (mem_when.mp h).2 (by decide)
  · unfold startErrors at h
    split at h
    · exact absurd (List.mem_singleton.mp h) (by decide)
    · exact absurd (mem_when.mp h).2 (by decide)
  · simp only [shapeErrors, List.mem_append] at h
    rcases h with (((h | h) | h) | h) | h
    · exact absurd (mem_when.mp h).2 (by decide)
    · exact absurd (mem_when.mp h).2 (by decide)
    · split at h
      next keyword _ =>
        have hhead := congrArg (fun s => s.toList.head?) (List.mem_singleton.mp h)
        simp [dashError] at hhead
      · cases h
    · exact absurd (mem_when.mp h).2 (by decide)
    · obtain ⟨mark, hmark, h⟩ := List.mem_flatMap.mp h
      obtain ⟨hcontains, hmessage⟩ := mem_when.mp h
      have hmarks : ∀ mark ∈ commentMarks,
          dashError = "Comment delimiter '" ++ mark ++ "' is not allowed" → mark = "--" := by decide
      obtain rfl := hmarks mark hmark hmessage
      exact hcontains

theorem dashError_mem {sql m : List Char} (hmask : mask sql = some m)
    (h : Text.contains ['-', '-'] m = true) : dashError ∈ (check sql).errors := by
  have hmark : dashError ∈ commentMarks.flatMap fun mark =>
      when (Text.contains mark.toList m) ("Comment delimiter '" ++ mark ++ "' is not allowed") :=
    List.mem_flatMap.mpr ⟨"--", by decide, mem_when.mpr ⟨h, by decide⟩⟩
  simp only [check, hmask, Option.getD_some, shapeErrors]
  exact List.mem_append_right _ (List.mem_append_right _ hmark)

theorem substitute_braces (t : String) :
    substitute braces (around t) =
      nullLiteral ++ '\'' :: (quoteLiteral t.toList ++ (nullLiteral ++ ['\''])) := by
  have hquote : literalIn (around t) ⟨"'", none⟩ = nullLiteral := rfl
  have ht : literalIn (around t) ⟨"t", none⟩ = quoteLiteral t.toList := rfl
  have hfill : substitute braces (around t) = filled (literalIn (around t)) (segments braces) := rfl
  rw [hfill, segments_braces]
  simp [filled, hquote, ht]

theorem closed_braces : Closed sourceQuotes (segments braces) := by
  refine ⟨by rw [sourceQuotes_segments]; decide, fun front r inner back h => ?_⟩
  rw [segments_braces] at h
  have hfront : front = [] ∨ front = [.reference ⟨"'", none⟩ ['\''], .text ['\'']] ∨
      front = [.reference ⟨"'", none⟩ ['\''], .text ['\''], .reference ⟨"t", none⟩ ['t']] := by
    simp [List.cons_eq_append_iff] at h
    grind
  rcases hfront with rfl | rfl | rfl <;> decide

-- the quotes in the braces of references are gone when the references are filled in
theorem errors_braces :
    Closed sourceQuotes (segments braces) ∧ (around "x").SameButTexts (around "--") ∧
      (∀ r ∈ references braces, r.path.isSome = true →
        (around "x").value? r.control = (around "--").value? r.control) ∧
      (check (substitute braces (around "x"))).errors.filter (!isInjectionError ·) ≠
        (check (substitute braces (around "--"))).errors.filter (!isInjectionError ·) := by
  refine ⟨closed_braces, sameButTexts_around _ _, ?_, fun h => ?_⟩
  · rw [references, occurrences, segments_braces]
    decide
  · have hx : mask (substitute braces (around "x")) = some "NULL''x'    '".toList := by
      rw [substitute_braces]
      decide
    have hd : mask (substitute braces (around "--")) = some "NULL''--'    '".toList := by
      rw [substitute_braces]
      decide
    have hmem : dashError ∈ (check (substitute braces (around "--"))).errors.filter
        (!isInjectionError ·) :=
      List.mem_filter.mpr ⟨dashError_mem hd (by decide), by decide⟩
    rw [← h] at hmem
    exact absurd (contains_of_dashError hx (List.mem_filter.mp hmem).1) (by decide)

end LinkedControls
