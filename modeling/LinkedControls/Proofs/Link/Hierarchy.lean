import LinkedControls.Proofs.Link.Authority
import LinkedControls.Proofs.Link.UrlPath

/-!
Schemes, and what stands between the scheme and the query of an address, in their written form: an
authority with a path, a path of its own, or a text without a structure.
-/

namespace LinkedControls.Link.Url

open Text

variable {u : Url} {kind : SchemeKind} {scheme s a path : List Char} {authority : Option (List Char)}

structure SchemeForm (scheme : List Char) : Prop where
  letter : scheme.head?.any isAsciiLetter = true
  characters : scheme.all isSchemeCharacter = true
  lowered : asciiLower scheme = scheme

theorem toLower_cases (c : Char) :
    c.toLower = c ∨ isAsciiLetter c.toLower = true := by
  by_cases h : IsLowered c
  · exact .inl (toLower_of_isLowered h)
  · have hall : ∀ n : Fin 26, isAsciiLetter (Char.ofNat (65 + n.val)).toLower = true := by decide
    obtain ⟨hlow, hhigh⟩ : 65 ≤ c.toNat ∧ c.toNat ≤ 90 := by
      unfold IsLowered at h
      omega
    have hc := hall ⟨c.toNat - 65, by omega⟩
    rw [Nat.add_sub_cancel' hlow, Char.ofNat_toNat] at hc
    exact .inr hc

theorem isSchemeCharacter_of_letter {c : Char} (h : isAsciiLetter c = true) :
    isSchemeCharacter c = true := by
  simp [isSchemeCharacter, h]

theorem schemeForm_asciiLower (hletter : scheme.head?.any isAsciiLetter = true)
    (hall : scheme.all isSchemeCharacter = true) : SchemeForm (asciiLower scheme) := by
  refine ⟨?_, ?_, ?_⟩
  · cases scheme with
    | nil => exact hletter
    | cons c scheme =>
      rcases toLower_cases c with hc | hc
      · simpa [asciiLower, hc] using hletter
      · simpa [asciiLower] using hc
  · simp only [asciiLower, List.all_map, List.all_eq_true, Function.comp_apply] at hall ⊢
    intro c hmem
    rcases toLower_cases c with hc | hc
    · rw [hc]
      exact hall c hmem
    · exact isSchemeCharacter_of_letter hc
  · simp [asciiLower, toLower_of_isLowered (isLowered_toLower _)]

theorem of_readScheme? {rest : List Char} (h : readScheme? s = some (scheme, rest)) :
    SchemeForm scheme ∧ ∃ before, s = before ++ ':' :: rest := by
  unfold readScheme? at h
  obtain ⟨⟨before, after⟩, hsplit, h⟩ := Option.bind_eq_some_iff.mp h
  obtain ⟨hguard, h⟩ := of_guard_bind h
  cases h
  rw [Bool.and_eq_true] at hguard
  exact ⟨schemeForm_asciiLower hguard.1 hguard.2, before, (of_splitFirst hsplit).1⟩

theorem SchemeForm.not_mem {c : Char} (h : SchemeForm scheme) (hc : isSchemeCharacter c = false) :
    c ∉ scheme := by
  intro hmem
  rw [List.all_eq_true.mp h.characters c hmem] at hc
  cases hc

theorem readScheme?_of_form (h : SchemeForm scheme) (rest : List Char) :
    readScheme? (scheme ++ ':' :: rest) = some (scheme, rest) := by
  have hguard : (scheme.head?.any isAsciiLetter && scheme.all isSchemeCharacter) = true := by
    rw [h.letter, h.characters]
    rfl
  rw [readScheme?, splitFirst_append (h.not_mem (by decide))]
  change (guard ((scheme.head?.any isAsciiLetter && scheme.all isSchemeCharacter) = true) >>=
    fun _ => some _) = _
  rw [guard_bind hguard, h.lowered]

inductive HierarchyForm : SchemeKind → List Char → Option (List Char) → List Char → Prop
  | file {scheme host t : List Char} :
      host = [] ∨ (specialHost host = .ok host ∧ HostForm host ∧ host ≠ "localhost".toList) →
      PathForm .file t → t.head? ≠ some '/' → HierarchyForm .file scheme (some host) ('/' :: t)
  | located {kind : SchemeKind} {scheme a path : List Char} : kind ≠ .file →
      readAuthority kind scheme a = .ok a → Plain beyondAuthority a → (kind = .special → a ≠ []) →
      (∃ t, path = '/' :: t ∧ PathForm kind t) ∨ (kind = .other ∧ path = []) →
      HierarchyForm kind scheme (some a) path
  | rooted {scheme t : List Char} : PathForm .other t → HierarchyForm .other scheme none ('/' :: t)
  | rootless {scheme path : List Char} : Plain ['?', '#'] path → path.head? ≠ some '/' →
      HierarchyForm .other scheme none path

def hierarchyText (u : Url) : List Char :=
  ((u.authority.map fun a => '/' :: '/' :: a).getD []) ++ u.writePath

theorem readPathAfter_form (kind : SchemeKind) (s : List Char) :
    (∃ t, readPathAfter kind s = '/' :: t ∧ PathForm kind t ∧ (kind = .file → t.head? ≠ some '/')) ∨
      kind = .other ∧ readPathAfter kind s = [] := by
  unfold readPathAfter
  split
  next h => exact .inr ⟨h.1, rfl⟩
  next => exact .inl (readPath_form kind _)

theorem readPathAfter_of_form {t : List Char} (h : PathForm kind t)
    (hfile : kind = .file → t.head? ≠ some '/') : readPathAfter kind ('/' :: t) = '/' :: t := by
  rw [readPathAfter, if_neg (by simp), withoutFirstSlash, if_pos (.inl rfl), readPath_of_form h hfile]

theorem readFile_form {host : List Char} (h : readFile s = .ok (host, path)) (scheme : List Char) :
    HierarchyForm .file scheme (some host) path := by
  have hlocal {s : List Char} (hpath : readPathAfter .file s = path) :
      HierarchyForm .file scheme (some []) path := by
    obtain ⟨t, ht, hform, hhead⟩ | ⟨hkind, -⟩ := readPathAfter_form .file s
    · rw [← hpath, ht]
      exact .file (.inl rfl) hform (hhead rfl)
    · cases hkind
  unfold readFile at h
  split at h
  next a b rest =>
    split at h
    next =>
      dsimp only at h
      split at h
      next =>
        cases h
        obtain ⟨t, ht, hform, hhead⟩ := readPath_form .file rest
        rw [ht]
        exact .file (.inl rfl) hform (hhead rfl)
      next =>
        split at h
        next =>
          cases h
          exact hlocal rfl
        next =>
          obtain ⟨host', hhost, h⟩ := bind_eq_ok h
          obtain ⟨hidem, hform⟩ := specialHost_idem hhost
          cases h
          obtain ⟨t, ht, hpath, hhead⟩ | ⟨hkind, -⟩ :=
            readPathAfter_form .file (rest.dropWhile (!isSlash ·))
          · rw [ht]
            refine .file ?_ hpath (hhead rfl)
            split
            next => exact .inl rfl
            next hlocalhost => exact .inr ⟨hidem, hform, hlocalhost⟩
          · cases hkind
    next =>
      cases h
      exact hlocal rfl
  next =>
    cases h
    exact hlocal rfl

def readLocated (kind : SchemeKind) (scheme s : List Char) :
    Except UrlError (Option (List Char) × List Char) := do
  let authority ← readAuthority kind scheme (s.takeWhile (!endsAuthority kind ·))
  return (some authority, readPathAfter kind (s.dropWhile (!endsAuthority kind ·)))

theorem readLocated_form (hkind : kind ≠ .file) (h : readLocated kind scheme s = .ok (authority, path)) :
    authority ≠ none ∧ HierarchyForm kind scheme authority path := by
  obtain ⟨a, ha, h⟩ := bind_eq_ok h
  cases h
  obtain ⟨hidem, hplain, hne⟩ := readAuthority_idem ha
  refine ⟨Option.some_ne_none a, .located hkind hidem hplain hne ?_⟩
  obtain ⟨t, ht, hform, -⟩ | hother := readPathAfter_form kind (s.dropWhile (!endsAuthority kind ·))
  · exact .inl ⟨t, ht, hform⟩
  · exact .inr hother

theorem hierarchyForm_of_readHierarchy (hs : '?' ∉ s ∧ '#' ∉ s)
    (h : readHierarchy kind scheme s = .ok (authority, path)) :
    HierarchyForm kind scheme authority path := by
  unfold readHierarchy at h
  cases kind with
  | file =>
    obtain ⟨⟨host, p⟩, hfile, he⟩ := eq_ok_of_map h
    cases he
    exact readFile_form hfile scheme
  | special => exact (readLocated_form (by decide) h).2
  | other =>
    dsimp only at h
    split at h
    next rest => exact (readLocated_form (by decide) h).2
    next rest hrest =>
      cases h
      obtain ⟨t, ht, hform, -⟩ := readPath_form .other rest
      rw [ht]
      exact .rooted hform
    next hdouble hsingle =>
      cases h
      refine .rootless (plain_percentEncode_of_not_mem (by decide) fun c hc _ => ?_) fun hhead => ?_
      · simp only [List.mem_cons, List.not_mem_nil, or_false] at hc
        rcases hc with rfl | rfl
        · exact hs.1
        · exact hs.2
      · rcases head?_percentEncode hhead with he | he
        · exact absurd he (by decide)
        · obtain ⟨rest, rfl⟩ : ∃ rest, s = '/' :: rest := by
            cases s with
            | nil => cases he
            | cons c rest => exact ⟨rest, by rw [Option.some.inj he]⟩
          exact hsingle rest rfl

theorem takeWhile_authority (kind : SchemeKind) {rest : List Char} (ha : Plain beyondAuthority a)
    (hrest : rest = [] ∨ ∃ t, rest = '/' :: t) :
    (a ++ rest).takeWhile (!endsAuthority kind ·) = a ∧
      (a ++ rest).dropWhile (!endsAuthority kind ·) = rest := by
  have hends : ∀ c ∈ a, (!endsAuthority kind c) = true := by
    intro c hc
    have hfree : c ∉ beyondAuthority := (isPlain_iff.mp (ha c hc)).2.2
    simp only [beyondAuthority, List.mem_cons, List.not_mem_nil, or_false, not_or] at hfree
    simp [endsAuthority, hfree]
  have hhead : ∀ c ∈ rest.head?, (!endsAuthority kind c) = false := by
    rcases hrest with rfl | ⟨t, rfl⟩
    · simp
    · simp [endsAuthority]
  exact ⟨takeWhile_append_of_head hends hhead, dropWhile_append_of_head hends hhead⟩

theorem readLocated_of_form (hread : readAuthority kind scheme a = .ok a)
    (hplain : Plain beyondAuthority a)
    (hpath : (∃ t, path = '/' :: t ∧ PathForm kind t ∧ (kind = .file → t.head? ≠ some '/')) ∨
      (kind = .other ∧ path = [])) :
    readLocated kind scheme (a ++ path) = .ok (some a, path) := by
  have hrest : path = [] ∨ ∃ t, path = '/' :: t := by
    rcases hpath with ⟨t, rfl, -⟩ | ⟨-, rfl⟩
    · exact .inr ⟨t, rfl⟩
    · exact .inl rfl
  obtain ⟨htake, hdrop⟩ := takeWhile_authority kind hplain hrest
  have hafter : readPathAfter kind path = path := by
    rcases hpath with ⟨t, rfl, hform, hhead⟩ | ⟨rfl, rfl⟩
    · exact readPathAfter_of_form hform hhead
    · rfl
  rw [readLocated, htake, hdrop, hread, hafter]
  rfl

theorem readPath_other (s : List Char) :
    readPath .other s = '/' :: join ['/'] (addSegments [] (splitOn '/' s)) := rfl

theorem readPath_point (s : List Char) : readPath .other ('.' :: '/' :: s) = readPath .other s := by
  have hsplit : splitOn '/' ('.' :: '/' :: s) = ['.'] :: splitOn '/' s :=
    splitOn_append (a := ['.']) (by decide) s
  have hdot : addSegment [] ['.'] false = [] := by decide
  rw [readPath_other, readPath_other, hsplit, addSegments, hdot]
  exact splitOn_ne_nil '/' s

theorem isDrive_of_form {host : List Char} (h : HostForm host) : isDrive host = false := by
  cases h with
  | plain hne hplain =>
    clear hne
    unfold isDrive
    split
    next a b =>
      have hcolon : b ≠ ':' := fun he => hplain.not_mem (c := ':') (by decide) (he ▸ by simp)
      have hbar : b ≠ '|' := fun he => hplain.not_mem (c := '|') (by decide) (he ▸ by simp)
      simp [hcolon, hbar]
    next => rfl
  | wide =>
    generalize writeIpv6 _ ++ [']'] = body
    match body with
    | [] => rfl
    | [b] => rfl
    | _ :: _ :: _ => rfl

theorem readFile_of_form {host t : List Char}
    (hhost : host = [] ∨ (specialHost host = .ok host ∧ HostForm host ∧ host ≠ "localhost".toList))
    (ht : PathForm .file t) (hhead : t.head? ≠ some '/') :
    readFile ('/' :: '/' :: (host ++ '/' :: t)) = .ok (host, '/' :: t) := by
  have hslash : ∀ c ∈ host, (!isSlash c) = true := by
    intro c hc
    rcases hhost with rfl | ⟨-, hform, -⟩
    · cases hc
    · have hfree : c ∉ authorityMarks := (isPlain_iff.mp (plain_hostForm hform c hc)).2.2
      simp only [authorityMarks, List.mem_cons, List.not_mem_nil, or_false, not_or] at hfree
      simp [isSlash, hfree]
  have hpathHead : ∀ c ∈ ('/' :: t).head?, (!isSlash c) = false := by simp [isSlash]
  have htake := takeWhile_append_of_head hslash hpathHead
  have hdrop := dropWhile_append_of_head hslash hpathHead
  have hpath : readPathAfter .file ('/' :: t) = '/' :: t := readPathAfter_of_form ht fun _ => hhead
  unfold readFile
  dsimp only
  rw [htake, hdrop, hpath, if_pos (by decide)]
  rcases hhost with rfl | ⟨hread, hform, hlocalhost⟩
  · rfl
  · rw [if_neg (by simp [isDrive_of_form hform]), if_neg (by simpa using hform.ne_nil), hread]
    simp only [bind, Except.bind, if_neg hlocalhost]
    rfl

theorem readHierarchy_rooted (scheme : List Char) {t : List Char} (h : t.head? ≠ some '/') :
    readHierarchy .other scheme ('/' :: t) = .ok (none, readPath .other t) := by
  unfold readHierarchy
  dsimp only
  split
  next rest he =>
    rw [(List.cons.inj he).2] at h
    exact absurd rfl h
  next rest _ he => rw [(List.cons.inj he).2]
  next hsingle => exact absurd rfl (hsingle t)

theorem readHierarchy_rootless (scheme : List Char) (h : s.head? ≠ some '/') :
    readHierarchy .other scheme s = .ok (none, percentEncode [] s) := by
  unfold readHierarchy
  dsimp only
  split
  · exact absurd rfl h
  · exact absurd rfl h
  · rfl

theorem writePath_of_single (h : ∀ rest, u.path ≠ '/' :: '/' :: rest) : u.writePath = u.path := by
  unfold writePath
  split
  next rest _ he => exact absurd he (h rest)
  next => rfl

theorem readHierarchy_of_form (h : HierarchyForm kind u.scheme u.authority u.path) :
    readHierarchy kind u.scheme u.hierarchyText = .ok (u.authority, u.path) := by
  obtain ⟨scheme, authority, path, query, fragment⟩ := u
  simp only [hierarchyText, writePath] at h ⊢
  cases h with
  | file hhost ht hhead =>
    have hread := readFile_of_form hhost ht hhead
    simp only [Option.map_some, Option.getD_some, List.cons_append, readHierarchy, hread]
    rfl
  | @located _ _ a _ hkind hidem hplain hne hpath =>
    have hread : readLocated kind scheme (a ++ path) = .ok (some a, path) := by
      refine readLocated_of_form hidem hplain (hpath.imp_left ?_)
      rintro ⟨t, ht, hform⟩
      exact ⟨t, ht, hform, fun he => absurd he hkind⟩
    simp only [Option.map_some, Option.getD_some, List.cons_append]
    cases kind with
    | file => exact absurd rfl hkind
    | special =>
      have hslashes : ('/' :: '/' :: (a ++ path)).dropWhile isSlash = a ++ path := by
        obtain ⟨c, rest, rfl⟩ := List.exists_cons_of_ne_nil (hne rfl)
        have hfree : c ∉ beyondAuthority := (isPlain_iff.mp (hplain c List.mem_cons_self)).2.2
        simp only [beyondAuthority, List.mem_cons, List.not_mem_nil, or_false, not_or] at hfree
        simp [isSlash, hfree]
      rw [← hslashes] at hread
      exact hread
    | other => exact hread
  | @rooted _ t ht =>
    have hpath : readPath .other t = '/' :: t := readPath_of_form ht fun he => by cases he
    by_cases hslash : t.head? = some '/'
    · obtain ⟨rest, rfl⟩ : ∃ rest, t = '/' :: rest := by
        cases t with
        | nil => cases hslash
        | cons c rest => exact ⟨rest, by rw [Option.some.inj hslash]⟩
      have hpoint := (readPath_point ('/' :: rest)).trans hpath
      exact congrArg (fun p => Except.ok (none, p)) hpoint
    · have hwrite := writePath_of_single (u := ⟨scheme, none, '/' :: t, query, fragment⟩) fun rest he =>
        hslash (by rw [(List.cons.inj he).2]; rfl)
      have hread := readHierarchy_rooted scheme hslash
      rw [hpath] at hread
      exact (congrArg (readHierarchy .other scheme) hwrite).trans hread
  | rootless hplain hhead =>
    have hencode : percentEncode [] path = path := percentEncode_of_plain (hplain.mono (by simp))
    have hwrite := writePath_of_single (u := ⟨scheme, none, path, query, fragment⟩) fun rest he =>
      hhead (by rw [show path = _ from he]; rfl)
    have hread := readHierarchy_rootless scheme hhead
    rw [hencode] at hread
    exact (congrArg (readHierarchy .other scheme) hwrite).trans hread

theorem readHierarchy_rootless_eq (h : readHierarchy kind scheme s = .ok (none, path))
    (hhead : path.head? ≠ some '/') : path = percentEncode [] s := by
  unfold readHierarchy at h
  cases kind with
  | file =>
    obtain ⟨⟨host, p⟩, -, he⟩ := eq_ok_of_map h
    cases he
  | special => exact absurd rfl (readLocated_form (by decide) h).1
  | other =>
    dsimp only at h
    split at h
    next => exact absurd rfl (readLocated_form (by decide) h).1
    next rest _ =>
      cases h
      obtain ⟨t, ht, -, -⟩ := readPath_form .other rest
      rw [ht] at hhead
      exact absurd rfl hhead
    next =>
      cases h
      rfl

end LinkedControls.Link.Url
