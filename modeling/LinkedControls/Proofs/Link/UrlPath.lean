import LinkedControls.Proofs.Link.Encoding
import LinkedControls.Proofs.Text.Split

/-!
Paths in their written form: no segment is made of dots alone, so a path that is read again is the same
path.
-/

namespace LinkedControls.Link.Url

open Text

variable {kind : SchemeKind} {s segment : List Char} {path segments : List (List Char)}

theorem head_utf8EncodeChar (c : Char) :
    ∃ b rest, String.utf8EncodeChar c = b :: rest ∧ (b.toNat = 46 → c = '.') := by
  have hlarge (n : Nat) (hlow : 128 ≤ n) (hhigh : n < 256) : (UInt8.ofNat n).toNat ≠ 46 := by
    rw [UInt8.toNat_ofNat_of_lt' hhigh]
    omega
  unfold String.utf8EncodeChar
  dsimp only
  split
  next h =>
    refine ⟨_, _, rfl, fun he => Char.toNat_inj.mp ?_⟩
    rw [UInt8.toNat_ofNat_of_lt' (Nat.lt_of_le_of_lt h (by decide))] at he
    exact he
  next =>
    split
    · exact ⟨_, _, rfl, fun he => absurd he (hlarge _ (by omega) (by omega))⟩
    · split
      · exact ⟨_, _, rfl, fun he => absurd he (hlarge _ (by omega) (by omega))⟩
      · exact ⟨_, _, rfl, fun he => absurd he (hlarge _ (by omega) (by omega))⟩

theorem percentCharacter_eq (c : Char) : ∃ b rest,
    percentCharacter c = '%' :: hexUpper (b / 16) :: hexUpper (b % 16) :: rest ∧ b < 256 ∧
      (b = 46 → c = '.') := by
  obtain ⟨b, rest, hb, hpoint⟩ := head_utf8EncodeChar c
  refine ⟨b.toNat, rest.flatMap percentByte, ?_, b.toNat_lt, hpoint⟩
  rw [percentCharacter, hb, List.flatMap_cons]
  rfl

theorem percentEncode_eq_self_or (extra s : List Char) : percentEncode extra s = s ∨
    ∃ c before after, isPlain extra c = false ∧
      percentEncode extra s = before ++ (percentCharacter c ++ after) := by
  by_cases h : Plain extra s
  · exact .inl (percentEncode_of_plain h)
  · obtain ⟨c, hc, hplain⟩ : ∃ c ∈ s, isPlain extra c = false := by simpa [Plain] using h
    obtain ⟨before, after, rfl⟩ := List.append_of_mem hc
    refine .inr ⟨c, percentEncode extra before, percentEncode extra after, hplain, ?_⟩
    have hencoded : (c.toNat < 32 || 127 ≤ c.toNat || extra.contains c) = true := by
      rwa [isPlain, Bool.not_eq_false'] at hplain
    unfold percentEncode
    rw [List.flatMap_append, List.flatMap_cons, hencoded]
    rfl

def dotWords : List (List Char) := [".", "%2e", "..", ".%2e", "%2e.", "%2e%2e"].map String.toList

theorem percent_of_dotWords {word before after : List Char} {x y : Char} (h : word ∈ dotWords)
    (hword : word = before ++ '%' :: x :: y :: after) : x = '2' ∧ y = 'e' := by
  have hwords : ∀ w ∈ dotWords, w.length ≤ 6 ∧
      ∀ n < 6, (w.drop n).head? = some '%' → (w.drop n).take 3 = "%2e".toList := by decide
  obtain ⟨hlength, hpercent⟩ := hwords word h
  have hdrop : word.drop before.length = '%' :: x :: y :: after := by rw [hword, List.drop_left]
  have hshort : before.length < 6 := by
    rw [hword] at hlength
    simp only [List.length_append, List.length_cons] at hlength
    omega
  have htake := hpercent before.length hshort (by rw [hdrop]; rfl)
  rw [hdrop] at htake
  simpa using htake

theorem hexUpper_toLower : ∀ n < 16, ((hexUpper n).toLower = '2' → n = 2) ∧
    ((hexUpper n).toLower = 'e' → n = 14) := by
  decide

theorem dotWord_of_percentEncode {extra : List Char} (hextra : '.' ∉ extra)
    (h : asciiLower (percentEncode extra s) ∈ dotWords) : percentEncode extra s = s := by
  refine (percentEncode_eq_self_or extra s).resolve_right ?_
  rintro ⟨c, before, after, hc, he⟩
  obtain ⟨b, rest, hb, hlt, hpoint⟩ := percentCharacter_eq c
  rw [he, hb] at h
  have hsplit : asciiLower (before ++ (('%' :: hexUpper (b / 16) :: hexUpper (b % 16) :: rest) ++ after)) =
      asciiLower before ++ '%' :: (hexUpper (b / 16)).toLower :: (hexUpper (b % 16)).toLower ::
        asciiLower (rest ++ after) := by
    simp [asciiLower]
  obtain ⟨hx, hy⟩ := percent_of_dotWords h hsplit
  have hhigh := (hexUpper_toLower (b / 16) (by omega)).1 hx
  have hlow := (hexUpper_toLower (b % 16) (by omega)).2 hy
  rw [hpoint (by omega)] at hc
  simp [isPlain, hextra] at hc

structure SegmentForm (segment : List Char) : Prop where
  plain : Plain pathSet segment
  notDouble : isDoubleDot segment = false
  notSingle : isSingleDot segment = false

theorem addSegment_of_form (h : SegmentForm segment) (path : List (List Char)) (isLast : Bool) :
    addSegment path segment isLast = path ++ [segment] := by
  rw [addSegment, h.notDouble, h.notSingle, percentEncode_of_plain h.plain]
  rfl

theorem addSegments_of_form (h : ∀ segment ∈ segments, SegmentForm segment)
    (path : List (List Char)) : addSegments path segments = path ++ segments := by
  fun_induction addSegments path segments with
  | case1 => simp
  | case2 path segment => exact addSegment_of_form (h _ List.mem_cons_self) path true
  | case3 path segment rest hne ih =>
    rw [ih fun s hs => h s (List.mem_cons_of_mem _ hs),
      addSegment_of_form (h _ List.mem_cons_self) path false, List.append_assoc, List.singleton_append]

theorem asciiLower_mem_dotWords (h : isDoubleDot segment = true ∨ isSingleDot segment = true) :
    asciiLower segment ∈ dotWords := by
  have hmem {words : List String} (hw : words.contains (String.ofList (asciiLower segment)) = true) :
      asciiLower segment ∈ words.map String.toList :=
    List.mem_map.mpr ⟨_, List.contains_iff_mem.mp hw, String.toList_ofList⟩
  have hdouble : ["..", ".%2e", "%2e.", "%2e%2e"].map String.toList ⊆ dotWords := by decide
  have hsingle : [".", "%2e"].map String.toList ⊆ dotWords := by decide
  rcases h with h | h
  · exact hdouble (hmem h)
  · exact hsingle (hmem h)

theorem form_percentEncode (hdouble : isDoubleDot segment = false)
    (hsingle : isSingleDot segment = false) : SegmentForm (percentEncode pathSet segment) := by
  have hplain : Plain pathSet (percentEncode pathSet segment) := plain_percentEncode (by decide) segment
  have hsame (h : isDoubleDot (percentEncode pathSet segment) = true ∨
      isSingleDot (percentEncode pathSet segment) = true) : percentEncode pathSet segment = segment :=
    dotWord_of_percentEncode (by decide) (asciiLower_mem_dotWords h)
  refine ⟨hplain, ?_, ?_⟩
  · rw [Bool.eq_false_iff]
    intro h
    rw [hsame (.inl h), hdouble] at h
    cases h
  · rw [Bool.eq_false_iff]
    intro h
    rw [hsame (.inr h), hsingle] at h
    cases h

theorem form_addSegment (h : ∀ s ∈ path, SegmentForm s) (segment : List Char) (isLast : Bool) :
    ∀ s ∈ addSegment path segment isLast, SegmentForm s := by
  have hnil : SegmentForm [] := ⟨.nil, by decide, by decide⟩
  have hend : ∀ s ∈ (if isLast then [[]] else []), SegmentForm s := by
    split
    · simpa using hnil
    · simp
  intro s hs
  unfold addSegment at hs
  split at hs
  · rcases List.mem_append.mp hs with hs | hs
    · exact h s (List.dropLast_subset path hs)
    · exact hend s hs
  next hdouble =>
    split at hs
    · exact (List.mem_append.mp hs).elim (h s) (hend s)
    next hsingle =>
      rcases List.mem_append.mp hs with hs | hs
      · exact h s hs
      · rw [List.mem_singleton.mp hs]
        exact form_percentEncode (by simpa using hdouble) (by simpa using hsingle)

theorem form_addSegments (h : ∀ s ∈ path, SegmentForm s) (segments : List (List Char)) :
    ∀ s ∈ addSegments path segments, SegmentForm s := by
  fun_induction addSegments path segments with
  | case1 => exact h
  | case2 path segment => exact form_addSegment h segment true
  | case3 path segment rest hne ih => exact ih (form_addSegment h segment false)

structure PathForm (kind : SchemeKind) (s : List Char) : Prop where
  segments : ∀ segment ∈ splitOn '/' s, SegmentForm segment
  slashes : isSpecial kind = true → '\\' ∉ s

theorem addSegments_ne_nil (path : List (List Char)) (h : segments ≠ []) :
    addSegments path segments ≠ [] := by
  fun_induction addSegments path segments with
  | case1 => exact absurd rfl h
  | case2 path segment =>
    unfold addSegment
    split
    · simp
    · split <;> simp
  | case3 path segment rest hne ih => exact ih (fun he => by simp_all)

theorem not_mem_addSegment {c : Char} (hc : isForeign c = true) (hpath : ∀ s ∈ path, c ∉ s)
    (h : c ∉ segment) (isLast : Bool) : ∀ s ∈ addSegment path segment isLast, c ∉ s := by
  have hend : ∀ s ∈ (if isLast then [[]] else []), c ∉ s := by
    split <;> simp
  intro s hs
  unfold addSegment at hs
  split at hs
  · exact (List.mem_append.mp hs).elim (fun hs => hpath s (List.dropLast_subset path hs)) (hend s)
  · split at hs
    · exact (List.mem_append.mp hs).elim (hpath s) (hend s)
    · rcases List.mem_append.mp hs with hs | hs
      · exact hpath s hs
      · rw [List.mem_singleton.mp hs]
        exact not_mem_percentEncode hc h

theorem not_mem_addSegments {c : Char} (hc : isForeign c = true) (hpath : ∀ s ∈ path, c ∉ s)
    (h : ∀ s ∈ segments, c ∉ s) : ∀ s ∈ addSegments path segments, c ∉ s := by
  fun_induction addSegments path segments with
  | case1 => exact hpath
  | case2 path segment => exact not_mem_addSegment hc hpath (h _ List.mem_cons_self) true
  | case3 path segment rest hne ih =>
    obtain ⟨hsegment, hrest⟩ := List.forall_mem_cons.mp h
    exact ih (not_mem_addSegment hc hpath hsegment false) hrest

theorem slashes_of_special (h : isSpecial kind = true → '\\' ∉ s) :
    (if isSpecial kind then s.map fun c => if c = '\\' then '/' else c else s) = s := by
  split
  next hkind =>
    have hsame : ∀ c ∈ s, (if c = '\\' then '/' else c) = id c := by
      intro c hc
      rw [if_neg]
      · rfl
      · rintro rfl
        exact h hkind hc
    exact (List.map_congr_left hsame).trans (List.map_id s)
  next => rfl

theorem readPath_of_form {kind : SchemeKind} (h : PathForm kind s)
    (hfile : kind = .file → s.head? ≠ some '/') : readPath kind s = '/' :: s := by
  have hpath : '/' :: join ['/'] (addSegments [] (splitOn '/' s)) = '/' :: s := by
    rw [addSegments_of_form h.segments, List.nil_append, join_splitOn]
  unfold readPath
  dsimp only
  rw [slashes_of_special h.slashes, hpath]
  split
  next hkind =>
    have hs : s.dropWhile (· == '/') = s := by
      cases s with
      | nil => rfl
      | cons c s => exact List.dropWhile_cons_of_neg (by simpa using hfile hkind)
    rw [List.dropWhile_cons_of_pos (by rfl), hs]
  next => rfl

theorem form_dropWhile {kind : SchemeKind} (h : PathForm kind s) :
    PathForm kind (s.dropWhile (· == '/')) ∧ (s.dropWhile (· == '/')).head? ≠ some '/' := by
  induction s with
  | nil => exact ⟨h, by simp⟩
  | cons c s ih =>
    by_cases hc : c = '/'
    · subst hc
      rw [List.dropWhile_cons_of_pos (by rfl)]
      refine ih ⟨fun segment hs => h.segments segment ?_, fun hkind hs =>
        h.slashes hkind (List.mem_cons_of_mem _ hs)⟩
      rw [splitOn_cons_separator]
      exact List.mem_cons_of_mem _ hs
    · rw [List.dropWhile_cons_of_neg (by simpa using hc)]
      exact ⟨h, by simpa using hc⟩

theorem readPath_form (kind : SchemeKind) (s : List Char) :
    ∃ t, readPath kind s = '/' :: t ∧ PathForm kind t ∧ (kind = .file → t.head? ≠ some '/') := by
  obtain ⟨s', hs', hslashes⟩ : ∃ s',
      (if isSpecial kind then s.map fun c => if c = '\\' then '/' else c else s) = s' ∧
        (isSpecial kind = true → '\\' ∉ s') := by
    refine ⟨_, rfl, fun hkind => ?_⟩
    rw [if_pos hkind, List.mem_map]
    rintro ⟨c, -, hc⟩
    split at hc
    · exact absurd hc (by decide)
    next hne => exact hne hc
  have hsplit : splitOn '/' (join ['/'] (addSegments [] (splitOn '/' s'))) =
      addSegments [] (splitOn '/' s') :=
    splitOn_join (addSegments_ne_nil [] (splitOn_ne_nil '/' s'))
      (not_mem_addSegments (by decide) (by simp) fun piece hpiece => (of_mem_splitOn hpiece).1)
  have hform : PathForm kind (join ['/'] (addSegments [] (splitOn '/' s'))) := by
    refine ⟨?_, fun hkind hmem => ?_⟩
    · rw [hsplit]
      exact form_addSegments (by simp) _
    · have hfree : ∀ piece ∈ addSegments [] (splitOn '/' s'), '\\' ∉ piece :=
        not_mem_addSegments (by decide) (by simp) fun piece hpiece hc =>
          hslashes hkind ((of_mem_splitOn hpiece).2 hc)
      rcases mem_join hmem with h | ⟨piece, hpiece, h⟩
      · exact absurd h (by decide)
      · exact hfree piece hpiece h
  unfold readPath
  dsimp only
  rw [hs']
  split
  next hkind =>
    rw [List.dropWhile_cons_of_pos (by rfl)]
    obtain ⟨hdrop, hhead⟩ := form_dropWhile hform
    exact ⟨_, rfl, hdrop, fun _ => hhead⟩
  next hkind => exact ⟨_, rfl, hform, fun h => absurd h hkind⟩

theorem PathForm.plain {kind : SchemeKind} (h : PathForm kind s) : Plain pathSet s := by
  intro c hc
  rw [← join_splitOn '/' s] at hc
  rcases mem_join hc with hc | ⟨segment, hsegment, hc⟩
  · rw [List.mem_singleton.mp hc]
    decide
  · exact (h.segments segment hsegment).plain c hc

end LinkedControls.Link.Url
