import LinkedControls.Proofs.Link.Hierarchy

/-!
Addresses in their written form: an address that is written and read again is the same address, also
with another query.
-/

namespace LinkedControls.Link.Url

open Text

variable {u : Url} {kind : SchemeKind} {s : List Char}

theorem stays_of_inner {c : Char} (h : 32 ≤ c.toNat) :
    (!(c == '\t' || c == '\n' || c == '\r')) = true := by
  have hbreaks : ∀ d : Char, d.toNat < 32 → c ≠ d := by
    rintro d hd rfl
    exact absurd h (Nat.not_le.mpr hd)
  simp [hbreaks '\t' (by decide), hbreaks '\n' (by decide), hbreaks '\r' (by decide)]

theorem clean_of_inner (h : ∀ c ∈ s, 32 ≤ c.toNat) (hfirst : ∀ c, s.head? = some c → 32 < c.toNat)
    (hlast : ∀ c, s.getLast? = some c → 32 < c.toNat) : clean s = s := by
  have hedge {s : List Char} (h : ∀ c, s.head? = some c → 32 < c.toNat) :
      s.dropWhile (fun c => decide (c.toNat ≤ 32)) = s := by
    cases s with
    | nil => rfl
    | cons c s => exact List.dropWhile_cons_of_neg (by simpa using h c rfl)
  have hkept : s.filter (fun c => !(c == '\t' || c == '\n' || c == '\r')) = s :=
    List.filter_eq_self.mpr fun c hc => stays_of_inner (h c hc)
  have hreverse : ∀ c, s.reverse.head? = some c → 32 < c.toNat := by
    intro c hc
    exact hlast c (by rwa [List.head?_reverse] at hc)
  unfold clean
  dsimp only
  rw [hedge hfirst, hedge hreverse, List.reverse_reverse, hkept]

theorem of_getLast?_clean {c : Char} (h : (clean s).getLast? = some c) : 32 < c.toNat := by
  unfold clean at h
  dsimp only at h
  generalize (s.dropWhile fun c => decide (c.toNat ≤ 32)).reverse = t at h
  induction t with
  | nil => cases h
  | cons d t ih =>
    by_cases hd : d.toNat ≤ 32
    · rw [List.dropWhile_cons_of_pos (by simpa using hd)] at h
      exact ih h
    · have hlow := Nat.lt_of_not_le hd
      rw [List.dropWhile_cons_of_neg (by simpa using hd), List.reverse_cons, List.filter_append,
        List.filter_cons, if_pos (stays_of_inner (Nat.le_of_lt hlow))] at h
      simp only [List.filter_nil, List.getLast?_concat, Option.some.injEq] at h
      exact h ▸ hlow

theorem of_splitTail {p : List Char} {query fragment : Option (List Char)}
    (h : splitTail s = (p, query, fragment)) :
    ('?' ∉ p ∧ '#' ∉ p) ∧ (query = none → fragment = none → p = s) := by
  have hbefore {s before after : List Char} (hsplit : splitFirst '?' s = some (before, after))
      (hhash : '#' ∉ s) : '?' ∉ before ∧ '#' ∉ before := by
    obtain ⟨rfl, hfree⟩ := of_splitFirst hsplit
    exact ⟨hfree, fun hmem => hhash (List.mem_append_left _ hmem)⟩
  rw [splitTail] at h
  cases hhash : splitFirst '#' s with
  | none =>
    have hfree := not_mem_of_splitFirst_eq_none hhash
    cases hquestion : splitFirst '?' s with
    | none =>
      simp only [hhash, hquestion] at h
      cases h
      exact ⟨⟨not_mem_of_splitFirst_eq_none hquestion, hfree⟩, fun _ _ => rfl⟩
    | some parts =>
      simp only [hhash, hquestion] at h
      cases h
      exact ⟨hbefore hquestion hfree, fun hq => by cases hq⟩
  | some lead =>
    have hfree := (of_splitFirst hhash).2
    cases hquestion : splitFirst '?' lead.1 with
    | none =>
      simp only [hhash, hquestion] at h
      cases h
      exact ⟨⟨not_mem_of_splitFirst_eq_none hquestion, hfree⟩, fun _ hf => by cases hf⟩
    | some parts =>
      simp only [hhash, hquestion] at h
      cases h
      exact ⟨hbefore hquestion hfree, fun hq => by cases hq⟩

theorem splitTail_append {p : List Char} {query fragment : Option (List Char)}
    (hp : '?' ∉ p ∧ '#' ∉ p) (hquery : ∀ q, query = some q → '#' ∉ q) :
    splitTail (p ++ ((query.map ('?' :: ·)).getD [] ++ (fragment.map ('#' :: ·)).getD [])) =
      (p, query, fragment) := by
  have hquestion : splitFirst '?' (p ++ (query.map ('?' :: ·)).getD []) =
      query.map fun q => (p, q) := by
    cases query with
    | none => simpa using splitFirst_of_not_mem hp.1
    | some q => exact splitFirst_append hp.1 q
  have hhash : '#' ∉ p ++ (query.map ('?' :: ·)).getD [] := by
    cases query with
    | none => simpa using hp.2
    | some q => simp [hp.2, hquery q rfl]
  have hfirst :
      splitFirst '#' (p ++ (query.map ('?' :: ·)).getD [] ++ (fragment.map ('#' :: ·)).getD []) =
        fragment.map fun f => (p ++ (query.map ('?' :: ·)).getD [], f) := by
    cases fragment with
    | none => simpa using splitFirst_of_not_mem hhash
    | some f => exact splitFirst_append hhash f
  rw [← List.append_assoc, splitTail, hfirst]
  cases fragment <;> simp only [Option.map_some, Option.map_none, Option.getD_none, List.append_nil,
    hquestion] <;> cases query <;> simp

structure UrlForm (u : Url) : Prop where
  scheme : SchemeForm u.scheme
  hierarchy : HierarchyForm (schemeKind u.scheme) u.scheme u.authority u.path
  query : ∀ q, u.query = some q → Plain (querySet (schemeKind u.scheme)) q
  fragment : ∀ f, u.fragment = some f → Plain fragmentSet f
  last : u.isOpaque = true → u.query = none → u.fragment = none → u.path.getLast? ≠ some ' '

theorem isOpaque_iff : u.isOpaque = true ↔ u.authority = none ∧ u.path.head? ≠ some '/' := by
  simp [isOpaque]

def tailText (u : Url) : List Char :=
  (u.query.map ('?' :: ·)).getD [] ++ (u.fragment.map ('#' :: ·)).getD []

theorem toChars_eq (u : Url) : u.toChars = u.scheme ++ ':' :: (u.hierarchyText ++ u.tailText) := by
  simp [toChars, hierarchyText, tailText]

theorem getLast?_percentEncode {extra : List Char} (h : (percentEncode extra s).getLast? = some ' ') :
    s.getLast? = some ' ' := by
  rcases s.eq_nil_or_concat with rfl | ⟨init, c, rfl⟩
  · cases h
  · rw [List.concat_eq_append] at h ⊢
    unfold percentEncode at h
    rw [List.flatMap_append, List.flatMap_singleton, List.getLast?_append] at h
    split at h
    · obtain ⟨d, hd⟩ := Option.isSome_iff_exists.mp
        (List.getLast?_isSome.mpr (percentCharacter_ne_nil c))
      rw [hd, Option.some_or] at h
      cases h
      obtain ⟨b, -, hb⟩ := List.mem_flatMap.mp (List.mem_of_getLast? hd)
      exact absurd (mem_percentByte hb) (by decide)
    · rw [List.getLast?_concat]
      exact h

theorem isForeign_querySet (kind : SchemeKind) : (querySet kind).all isForeign = true := by
  cases kind <;> decide

theorem plain_encodeQuery (kind : SchemeKind) (query : List Char) :
    Plain (querySet kind) (encodeQuery kind query) :=
  plain_percentEncode (isForeign_querySet kind) query

theorem urlForm_of_ofText? (h : ofText? s = .ok u) : UrlForm u := by
  unfold ofText? at h
  split at h
  · cases h
  next scheme rest hscheme =>
    obtain ⟨hform, before, hclean⟩ := of_readScheme? hscheme
    dsimp only at h
    obtain ⟨p, query, fragment, htail⟩ : ∃ p query fragment, splitTail rest = (p, query, fragment) :=
      ⟨_, _, _, rfl⟩
    obtain ⟨hfree, hsame⟩ := of_splitTail htail
    rw [htail] at h
    obtain ⟨⟨authority, path⟩, hread, h⟩ := bind_eq_ok h
    cases h
    refine ⟨hform, hierarchyForm_of_readHierarchy hfree hread, fun q hq => ?_, fun f hf => ?_, ?_⟩
    · obtain ⟨q', -, rfl⟩ := Option.map_eq_some_iff.mp hq
      exact plain_encodeQuery _ q'
    · obtain ⟨f', -, rfl⟩ := Option.map_eq_some_iff.mp hf
      exact plain_percentEncode (by decide) f'
    · intro hstructure hquery hfragment hlast
      obtain ⟨rfl, hhead⟩ := isOpaque_iff.mp hstructure
      obtain rfl := readHierarchy_rootless_eq hread hhead
      obtain rfl := hsame (Option.map_eq_none_iff.mp hquery) (Option.map_eq_none_iff.mp hfragment)
      have hblank := getLast?_percentEncode hlast
      have hwhole : (clean s).getLast? = some ' ' := by
        rw [hclean, List.getLast?_append, List.getLast?_cons, hblank]
        rfl
      exact absurd (of_getLast?_clean hwhole) (by decide)

theorem plain_scheme {scheme : List Char} (h : SchemeForm scheme) : Plain [' '] scheme := by
  intro c hc
  have hcharacter := List.all_eq_true.mp h.characters c hc
  have hmade : isUnreserved c = true ∨ c = '+' := by
    simp only [isSchemeCharacter, isAsciiLetter, isAsciiDigit, Bool.or_eq_true, beq_iff_eq,
      or_assoc] at hcharacter
    simp only [isUnreserved, Bool.or_eq_true, beq_iff_eq]
    rcases hcharacter with h | h | h | h | h | h <;> simp [h]
  rcases hmade with hmade | rfl
  · exact isPlain_of_made (.inl hmade) (by decide)
  · decide

theorem lt_of_isPlain {c : Char} (h : isPlain [' '] c = true) : 32 < c.toNat := by
  obtain ⟨hlow, -, hblank⟩ := isPlain_iff.mp h
  refine Nat.lt_of_le_of_ne hlow fun he => hblank ?_
  rw [List.mem_singleton]
  exact Char.toNat_inj.mp he.symm

theorem writePath_cases (u : Url) : u.writePath = u.path ∨ u.writePath = '/' :: '.' :: u.path := by
  unfold writePath
  split
  next rest hpath => exact .inr (by rw [hpath]; rfl)
  next => exact .inl rfl

theorem hierarchyText_cases (h : HierarchyForm kind u.scheme u.authority u.path) :
    Plain [' ', '?', '#'] u.hierarchyText ∨
      u.isOpaque = true ∧ u.hierarchyText = u.path ∧ Plain ['?', '#'] u.path := by
  have hpath {kind : SchemeKind} {t : List Char} (ht : PathForm kind t) :
      Plain [' ', '?', '#'] ('/' :: t) :=
    Plain.cons (by decide) (ht.plain.mono (by decide))
  have hauthority {a path : List Char} (ha : Plain [' ', '?', '#'] a)
      (hp : Plain [' ', '?', '#'] path) : Plain [' ', '?', '#'] ('/' :: '/' :: a ++ path) :=
    (Plain.cons (by decide) (Plain.cons (by decide) ha)).append hp
  obtain ⟨scheme, authority, path, query, fragment⟩ := u
  simp only [hierarchyText] at h ⊢
  cases h with
  | @file _ host t hhost ht _ =>
    refine .inl (hauthority ?_ (hpath ht))
    rcases hhost with rfl | ⟨-, hform, -⟩
    · exact .nil
    · exact (plain_hostForm hform).mono (by decide)
  | located _ _ hplain _ hrest =>
    refine .inl (hauthority (hplain.mono (by decide)) ?_)
    rcases hrest with ⟨t, rfl, ht⟩ | ⟨-, rfl⟩
    · exact hpath ht
    · exact .nil
  | @rooted _ t ht =>
    refine .inl ?_
    rcases writePath_cases ⟨scheme, none, '/' :: t, query, fragment⟩ with hwrite | hwrite
    · rw [hwrite]
      exact hpath ht
    · rw [hwrite]
      exact Plain.cons (by decide) (Plain.cons (by decide) (hpath ht))
  | rootless hplain hhead =>
    refine .inr ⟨isOpaque_iff.mpr ⟨rfl, hhead⟩, ?_, hplain⟩
    refine writePath_of_single fun rest he => hhead ?_
    rw [show path = _ from he]
    rfl

theorem plain_hierarchyText (h : HierarchyForm kind u.scheme u.authority u.path) :
    Plain ['?', '#'] u.hierarchyText := by
  rcases hierarchyText_cases h with hplain | ⟨-, he, hplain⟩
  · exact hplain.mono (by decide)
  · exact he ▸ hplain

theorem tailText_eq_nil (h : u.tailText = []) : u.query = none ∧ u.fragment = none := by
  simp only [tailText, List.append_eq_nil_iff] at h
  constructor
  · cases hq : u.query with
    | none => rfl
    | some q => simp [hq] at h
  · cases hf : u.fragment with
    | none => rfl
    | some f => simp [hf] at h

-- a blank at the end of a path would not be read, where nothing follows it
theorem lt_of_getLast?_hierarchyText (h : UrlForm u) {c : Char} (hc : u.hierarchyText.getLast? = some c)
    (hnil : u.tailText = []) : 32 < c.toNat := by
  rcases hierarchyText_cases h.hierarchy with hplain | ⟨hstructure, he, hplain⟩
  · exact lt_of_isPlain (hplain.mono (by decide) c (List.mem_of_getLast? hc))
  · rw [he] at hc
    obtain ⟨hlow, -, -⟩ := isPlain_iff.mp (hplain c (List.mem_of_getLast? hc))
    obtain ⟨hquery, hfragment⟩ := tailText_eq_nil hnil
    refine Nat.lt_of_le_of_ne hlow fun hblank => h.last hstructure hquery hfragment ?_
    rw [hc, Char.toNat_inj.mp (show c.toNat = ' '.toNat from hblank.symm)]

theorem plain_tailText (h : UrlForm u) : Plain [' '] u.tailText := by
  have hquery : Plain [' '] ((u.query.map ('?' :: ·)).getD []) := by
    cases hq : u.query with
    | none => exact .nil
    | some q =>
      have hblank : [' '] ⊆ querySet (schemeKind u.scheme) := by
        cases schemeKind u.scheme <;> decide
      exact Plain.cons (by decide) ((h.query q hq).mono hblank)
  have hfragment : Plain [' '] ((u.fragment.map ('#' :: ·)).getD []) := by
    cases hf : u.fragment with
    | none => exact .nil
    | some f => exact Plain.cons (by decide) ((h.fragment f hf).mono (by decide))
  exact hquery.append hfragment

theorem clean_toChars (h : UrlForm u) : clean u.toChars = u.toChars := by
  have hscheme := plain_scheme h.scheme
  have htail := plain_tailText h
  have hmiddle := plain_hierarchyText h.hierarchy
  rw [toChars_eq]
  refine clean_of_inner ?_ ?_ ?_
  · have hwhole : Plain [] (u.scheme ++ ':' :: (u.hierarchyText ++ u.tailText)) :=
      (hscheme.mono (by simp)).append
        (Plain.cons (by decide) ((hmiddle.mono (by simp)).append (htail.mono (by simp))))
    exact fun c hc => (isPlain_iff.mp (hwhole c hc)).1
  · intro c hc
    obtain ⟨d, scheme, hs⟩ : ∃ d scheme, u.scheme = d :: scheme := by
      refine List.exists_cons_of_ne_nil fun he => ?_
      have hletter := h.scheme.letter
      rw [he] at hletter
      cases hletter
    rw [hs] at hc
    cases hc
    exact lt_of_isPlain (hscheme _ (by rw [hs]; exact List.mem_cons_self))
  · intro c hc
    rw [List.getLast?_append, List.getLast?_cons, List.getLast?_append] at hc
    cases ht : u.tailText.getLast? with
    | some d =>
      rw [ht] at hc
      cases hc
      exact lt_of_isPlain (htail _ (List.mem_of_getLast? ht))
    | none =>
      rw [ht] at hc
      cases hm : u.hierarchyText.getLast? with
      | some d =>
        rw [hm] at hc
        cases hc
        exact lt_of_getLast?_hierarchyText h hm (List.getLast?_eq_none_iff.mp ht)
      | none =>
        rw [hm] at hc
        cases hc
        decide

theorem ofText?_toChars (h : UrlForm u) : ofText? u.toChars = .ok u := by
  have hplain := plain_hierarchyText h.hierarchy
  have hfree : '?' ∉ u.hierarchyText ∧ '#' ∉ u.hierarchyText :=
    ⟨hplain.not_mem (by decide), hplain.not_mem (by decide)⟩
  have htail := fun fragment => @splitTail_append _ _ fragment hfree fun q hq =>
    (h.query q hq).not_mem (c := '#') (by cases schemeKind u.scheme <;> decide)
  have hquery : u.query.map (encodeQuery (schemeKind u.scheme)) = u.query := by
    cases hq : u.query with
    | none => rfl
    | some q => exact congrArg some (percentEncode_of_plain (h.query q hq))
  have hfragment : u.fragment.map (percentEncode fragmentSet) = u.fragment := by
    cases hf : u.fragment with
    | none => rfl
    | some f => exact congrArg some (percentEncode_of_plain (h.fragment f hf))
  unfold ofText?
  rw [clean_toChars h, toChars_eq, readScheme?_of_form h.scheme, tailText]
  dsimp only
  rw [htail, readHierarchy_of_form h.hierarchy]
  simp only [bind, Except.bind, hquery, hfragment]
  rfl

theorem getLast?_trimmed (s : List Char) :
    (s.reverse.dropWhile (· == ' ')).reverse.getLast? ≠ some ' ' := by
  rw [List.getLast?_reverse]
  intro h
  have hhead := List.head?_dropWhile_not (· == ' ') s.reverse
  rw [h] at hhead
  cases hhead

theorem hierarchyForm_trimmed (h : HierarchyForm kind u.scheme u.authority u.path)
    (hstructure : u.isOpaque = true) :
    HierarchyForm kind u.scheme u.authority (u.path.reverse.dropWhile (· == ' ')).reverse := by
  have hprefix : (u.path.reverse.dropWhile (· == ' ')).reverse <+: u.path := by
    have hsuffix := List.dropWhile_suffix (· == ' ') (l := u.path.reverse)
    rwa [← List.reverse_prefix, List.reverse_reverse] at hsuffix
  generalize (u.path.reverse.dropWhile (· == ' ')).reverse = trimmed at hprefix ⊢
  obtain ⟨hnone, hhead⟩ := isOpaque_iff.mp hstructure
  rw [hnone] at h ⊢
  generalize u.path = path at *
  cases h with
  | rooted => exact absurd rfl hhead
  | rootless hplain _ =>
    refine .rootless (hplain.of_subset hprefix.subset) fun hslash => ?_
    obtain ⟨rest, rfl⟩ := hprefix
    rw [List.head?_append, hslash] at hhead
    exact hhead rfl

theorem urlForm_withQuery (h : UrlForm u) (query : List Char) : UrlForm (u.withQuery query) := by
  unfold withQuery
  split
  next =>
    by_cases hcut : (u.isOpaque && u.fragment.isNone) = true
    · rw [if_pos hcut]
      obtain ⟨hstructure, -⟩ := Bool.and_eq_true_iff.mp hcut
      exact ⟨h.scheme, hierarchyForm_trimmed h.hierarchy hstructure, fun _ hq => (by cases hq), h.fragment,
        fun _ _ _ => getLast?_trimmed u.path⟩
    · rw [if_neg hcut]
      refine ⟨h.scheme, h.hierarchy, fun _ hq => (by cases hq), h.fragment, fun hstructure _ hf => ?_⟩
      refine absurd ?_ hcut
      rw [Bool.and_eq_true]
      exact ⟨hstructure, Option.isNone_iff_eq_none.mpr hf⟩
  next =>
    refine ⟨h.scheme, h.hierarchy, fun q hq => ?_, h.fragment, fun _ hq => (by cases hq)⟩
    cases hq
    exact plain_encodeQuery _ query

theorem ofText?_withQuery (h : ofText? s = .ok u) (query : List Char) :
    ofText? (u.withQuery query).toChars = .ok (u.withQuery query) :=
  ofText?_toChars (urlForm_withQuery (urlForm_of_ofText? h) query)

end LinkedControls.Link.Url
