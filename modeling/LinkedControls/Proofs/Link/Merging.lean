import LinkedControls.Proofs.Keyed
import LinkedControls.Proofs.Link.Acceptance
import LinkedControls.Proofs.Link.Sharing
import LinkedControls.Proofs.Link.UrlText

/-!
Links whose controls are written anew, as they are read afterwards. Writing keeps the pairs of the query
that are about no control, as the query has them; reading takes a question mark off the query first. So
there is one pair that the two may take for different things.
-/

namespace LinkedControls.Link

open Text

structure Reflects (d : Decoded) (s : Snapshot) : Prop where
  rejected : d.rejected = []
  values : ∀ id v, (id, v) ∈ d.values ↔ ∃ c ∈ s.controls,
    c.isActive = true ∧ isReserved c.id = false ∧ c.id = id ∧ c.value = v

structure Linkable (s : Snapshot) (limits : Limits) : Prop where
  nodup : (s.controls.map (·.id)).Nodup
  fits : ∀ c ∈ s.controls, c.value.fits c.kind = true
  isFinite : ∀ c ∈ s.controls, c.value.isFinite = true
  harmless : ∀ c ∈ written s, isScriptLike (Wire.encode c.value c.kind) = false
  short : ∀ c ∈ written s, byteLength (Wire.encode c.value c.kind) ≤ limits.valueBytes
  few : (written s).length ≤ limits.pairs

def kept (s : Snapshot) (query : List Char) : List (List Char) := (pairs query).filter (isKept s)

/-- What the first pair is about once it has lost a question mark, as one of the whole query does. -/
def unmasked? (kinds : List (String × Kind)) : List (List Char) → Option Address
  | [] => none
  | p :: _ => if unmarked p = [] then none else address? kinds (unmarked p)

/-- A pair about a control that comes before those of the snapshot is taken, leaves room for them, and
one of them replaces its value. -/
def Overwritten (s : Snapshot) (limits : Limits) (a : Address) : Prop :=
  (∃ v, readValue limits 0 a.kind a.raw = .ok v) ∧ (∃ c ∈ written s, c.id = a.key) ∧
    (written s).length < limits.pairs

variable {s : Snapshot} {limits : Limits} {query : List Char}

theorem join_append_singleton (ps : List (List Char)) {qs : List (List Char)} (hqs : qs ≠ []) :
    join ['&'] (ps ++ [join ['&'] qs]) = join ['&'] (ps ++ qs) := by
  induction ps with
  | nil => rfl
  | cons p ps ih =>
    obtain ⟨q, qs, rfl⟩ := List.exists_cons_of_ne_nil hqs
    cases ps with
    | nil => rfl
    | cons next ps => exact congrArg (p ++ ['&'] ++ ·) ih

theorem mergeQuery_eq (query : List Char) (s : Snapshot) :
    mergeQuery query s = join ['&'] (kept s query ++ (written s).map encodePair) := by
  cases hw : written s with
  | nil => simp [mergeQuery, encodeQuery, hw, kept, join]
  | cons c cs =>
    have hne : (join ['&'] ((c :: cs).map encodePair)).isEmpty = false :=
      List.isEmpty_eq_false_iff.mpr (join_ne_nil (encodePair_ne_nil c) _ _)
    simp only [mergeQuery, encodeQuery, hw, hne]
    exact join_append_singleton _ (List.cons_ne_nil _ _)

theorem pairs_join_cons {p : List Char} (hp : '&' ∉ p) {ps : List (List Char)}
    (h : ∀ p ∈ ps, p ≠ [] ∧ '&' ∉ p) :
    pairs (join ['&'] (p :: ps)) = if p = [] then ps else p :: ps := by
  split
  next he =>
    subst he
    cases ps with
    | nil => rfl
    | cons p ps =>
      have hpairs := pairs_join h
      rw [pairs] at hpairs
      rw [pairs, join_cons_cons, List.nil_append, List.singleton_append, splitOn_cons_separator,
        List.filter_cons_of_neg (by simp), hpairs]
  next hne => exact pairs_join (List.forall_mem_cons.mpr ⟨⟨hne, hp⟩, h⟩)

theorem unmarked_cons {c : Char} (hc : c ≠ '?') (s : List Char) : unmarked (c :: s) = c :: s := by
  unfold unmarked
  split
  next he => exact absurd (List.cons.inj he).1 hc
  next => rfl

theorem unmarked_join {p : List Char} (hp : p ≠ []) (ps : List (List Char)) :
    unmarked (join ['&'] (p :: ps)) = join ['&'] (unmarked p :: ps) := by
  have hcons (c : Char) (p : List Char) : join ['&'] ((c :: p) :: ps) = c :: join ['&'] (p :: ps) := by
    cases ps <;> rfl
  obtain ⟨c, p, rfl⟩ := List.exists_cons_of_ne_nil hp
  by_cases hc : c = '?'
  · subst hc
    rw [hcons]
    rfl
  · rw [unmarked_cons hc, hcons, unmarked_cons hc]

theorem unmarked_subset (p : List Char) : unmarked p ⊆ p := by
  unfold unmarked
  split
  · exact List.subset_cons_self _ _
  · exact List.Subset.refl _

theorem lookup_kinds (s : Snapshot) (id : String) : s.kinds.lookup id = s.kind? id :=
  Store.lookup_kinds ⟨s.controls, s.version, []⟩ id

theorem address?_of_isKept {pair : List Char} (h : isKept s pair = true) :
    address? s.kinds pair = none := by
  rw [Option.eq_none_iff_forall_ne_some]
  intro a ha
  obtain ⟨hkey, hfree, hkind, -⟩ := address?_eq_some.mp ha
  rw [isKept, hkey] at h
  simp only [String.ofList_toList, hfree, Bool.false_or, Option.isNone_iff_eq_none] at h
  rw [lookup_kinds, Snapshot.kind?, h] at hkind
  cases hkind

theorem kind_lookup (h : Linkable s limits) {c : Control} (hc : c ∈ s.controls) :
    s.kinds.lookup c.id = some c.kind :=
  lookup_key (by simpa [Snapshot.kinds, Function.comp_def] using h.nodup)
    (List.mem_map.mpr ⟨c, hc, rfl⟩)

theorem mem_pieces {p : List Char} (hp : p ∈ kept s query ++ (written s).map encodePair) :
    p ≠ [] ∧ '&' ∉ p := by
  rcases List.mem_append.mp hp with hp | hp
  · obtain ⟨hpair, -⟩ := List.mem_filter.mp hp
    obtain ⟨hsplit, hne⟩ := List.mem_filter.mp hpair
    exact ⟨by simpa using hne, (of_mem_splitOn hsplit).1⟩
  · exact of_mem_map_encodePair hp

-- of the pairs that stay, only the first can turn into one about a control, by losing its mark
theorem addresses_join {kinds : List (String × Kind)} {ps qs : List (List Char)}
    (h : ∀ p ∈ ps ++ qs, p ≠ [] ∧ '&' ∉ p) (hps : ∀ p ∈ ps, address? kinds p = none)
    (hqs : ∀ q ∈ qs, '?' ∉ q) :
    (pairs (unmarked (join ['&'] (ps ++ qs)))).filterMap (address? kinds) =
      (unmasked? kinds ps).toList ++ qs.filterMap (address? kinds) := by
  cases ps with
  | nil =>
    rw [List.nil_append] at h ⊢
    cases qs with
    | nil => rfl
    | cons q qs =>
      have hq := h q List.mem_cons_self
      rw [unmarked_join hq.1, unmarked_of_not_mem (hqs q List.mem_cons_self), pairs_join h]
      rfl
  | cons p ps =>
    rw [List.cons_append] at h ⊢
    obtain ⟨⟨hne, hp⟩, hrest⟩ := List.forall_mem_cons.mp h
    have hnone : ps.filterMap (address? kinds) = [] :=
      List.filterMap_eq_nil_iff.mpr (List.forall_mem_cons.mp hps).2
    have hpairs := pairs_join_cons (fun hd => hp (unmarked_subset p hd)) hrest
    rw [unmarked_join hne, hpairs, unmasked?]
    split
    next => rw [List.filterMap_append, hnone, Option.toList_none]
    next =>
      rw [List.filterMap_cons, List.filterMap_append, hnone, List.nil_append]
      cases address? kinds (unmarked p) <;> rfl

theorem addresses_mergeQuery (h : Linkable s limits) (query : List Char) :
    (pairs (unmarked (mergeQuery query s))).filterMap (address? s.kinds) =
      (unmasked? s.kinds (kept s query)).toList ++ (written s).map addressOf := by
  rw [mergeQuery_eq, addresses_join fun p => mem_pieces, filterMap_address?_encodePair]
  · intro c hc
    obtain ⟨hmem, -, hfree⟩ := mem_written.mp hc
    exact ⟨hfree, kind_lookup h hmem⟩
  · exact fun p hp => address?_of_isKept (List.mem_filter.mp hp).2
  · intro q hq
    obtain ⟨c, -, rfl⟩ := List.mem_map.mp hq
    exact not_mem_encodePair (by decide) (by decide) c

theorem readValue_addressOf (h : Linkable s limits) {c : Control} (hc : c ∈ written s) (n : Nat) :
    readValue limits n c.kind (Wire.encode c.value c.kind) =
      if n < limits.pairs then .ok c.value else .error (.tooMany limits.pairs) := by
  obtain ⟨hmem, hactive, -⟩ := mem_written.mp hc
  have hread : Wire.decode (Wire.encode c.value c.kind) c.kind = c.value := by
    rw [Wire.decode_encode, Value.carried_eq_self.mpr ⟨h.fits c hmem, h.isFinite c hmem⟩]
  have hnull : c.value.isNull = false := by
    rw [Control.isActive] at hactive
    cases hv : c.value <;> simp [hv, Value.isNull, Value.isActive] at hactive ⊢
  unfold readValue
  split
  next hfull => rw [if_neg (Nat.not_lt.mpr hfull)]
  next hroom =>
    rw [if_neg (Nat.not_lt.mpr (h.short c hc)), if_neg (by simp [h.harmless c hc]),
      if_pos (Nat.lt_of_not_le hroom)]
    simp [hread, hnull]

theorem readAll_addressOf (h : Linkable s limits) {cs : List Control}
    (hcs : ∀ c ∈ cs, c ∈ written s) {n : Nat} (hroom : n + cs.length ≤ limits.pairs) :
    readAll limits n (cs.map addressOf) = cs.map fun c => ⟨addressOf c, .ok c.value⟩ := by
  induction cs generalizing n with
  | nil => rfl
  | cons c cs ih =>
    obtain ⟨hc, hcs⟩ := List.forall_mem_cons.mp hcs
    rw [List.length_cons] at hroom
    have hread := readValue_addressOf h hc n
    rw [if_pos (by omega)] at hread
    simp only [List.map_cons, readAll, addressOf, hread]
    exact congrArg _ (ih hcs (by omega))

theorem rejected_readAll_ne_nil (h : Linkable s limits) {cs : List Control}
    (hcs : ∀ c ∈ cs, c ∈ written s) {n : Nat} (hn : n ≤ limits.pairs)
    (hfull : limits.pairs < n + cs.length) :
    rejected (readAll limits n (cs.map addressOf)) ≠ [] := by
  induction cs generalizing n with
  | nil => exact absurd hfull (Nat.not_lt.mpr hn)
  | cons c cs ih =>
    obtain ⟨hc, hcs⟩ := List.forall_mem_cons.mp hcs
    have hread := readValue_addressOf h hc n
    rw [List.length_cons] at hfull
    simp only [List.map_cons, readAll, addressOf]
    split at hread
    next hroom =>
      rw [hread]
      exact ih hcs hroom (by omega)
    next =>
      rw [hread]
      exact List.cons_ne_nil _ _

theorem accepted_map (cs : List Control) :
    accepted (cs.map fun c => ⟨addressOf c, .ok c.value⟩) = cs.map fun c => (c.id, c.value) := by
  induction cs with
  | nil => rfl
  | cons c cs ih => exact congrArg ((c.id, c.value) :: ·) ih

theorem rejected_map (cs : List Control) :
    rejected (cs.map fun c => ⟨addressOf c, .ok c.value⟩) = [] := by
  induction cs with
  | nil => rfl
  | cons c cs ih => exact ih

def writtenFields (s : Snapshot) : List (String × Value) := (written s).map fun c => (c.id, c.value)

theorem mem_writtenFields {id : String} {v : Value} :
    (id, v) ∈ writtenFields s ↔ ∃ c ∈ s.controls,
      c.isActive = true ∧ isReserved c.id = false ∧ c.id = id ∧ c.value = v := by
  simp only [writtenFields, List.mem_map, mem_written, Prod.mk.injEq]
  grind

theorem mem_sortFields_writtenFields (h : Linkable s limits) {id : String} {v : Value} :
    (id, v) ∈ Json.sortFields (writtenFields s) ↔ (id, v) ∈ writtenFields s := by
  refine (Json.sortFields_perm ?_).mem_iff
  simpa [writtenFields, Function.comp_def] using nodup_written h.nodup

theorem reflects_writtenFields (h : Linkable s limits) :
    Reflects ⟨Json.sortFields (writtenFields s), []⟩ s :=
  ⟨rfl, fun _ _ => (mem_sortFields_writtenFields h).trans mem_writtenFields⟩

theorem reflects_cons_iff (h : Linkable s limits) (key : String) (v : Value) :
    Reflects ⟨Json.sortFields ((key, v) :: writtenFields s), []⟩ s ↔ ∃ c ∈ written s, c.id = key := by
  have hlookup := Json.lookup_sortFields_cons key v (writtenFields s)
  constructor
  · intro hd
    cases hkey : (Json.sortFields (writtenFields s)).lookup key with
    | none =>
      have hmem : (key, v) ∈ Json.sortFields ((key, v) :: writtenFields s) := by
        rw [mem_iff_lookup (Json.nodup_keys_sortFields _), hlookup, hkey, if_pos rfl]
        rfl
      obtain ⟨c, hc, hactive, hfree, hid, -⟩ := (hd.values key v).mp hmem
      exact ⟨c, mem_written.mpr ⟨hc, hactive, hfree⟩, hid⟩
    | some w =>
      have hmem := (mem_iff_lookup (Json.nodup_keys_sortFields _)).mpr hkey
      obtain ⟨c, hc, he⟩ := List.mem_map.mp ((mem_sortFields_writtenFields h).mp hmem)
      exact ⟨c, hc, congrArg Prod.fst he⟩
  · rintro ⟨c, hc, rfl⟩
    have hmem : (c.id, c.value) ∈ Json.sortFields (writtenFields s) :=
      (mem_sortFields_writtenFields h).mpr (List.mem_map.mpr ⟨c, hc, rfl⟩)
    have hfound := (mem_iff_lookup (Json.nodup_keys_sortFields _)).mp hmem
    refine ⟨rfl, fun id w => Iff.trans ?_ ((reflects_writtenFields h).values id w)⟩
    rw [mem_iff_lookup (Json.nodup_keys_sortFields _), mem_iff_lookup (Json.nodup_keys_sortFields _),
      hlookup]
    by_cases hid : id = c.id
    · rw [hid, hfound]
      rfl
    · rw [if_neg hid, Option.or_none]

theorem reflects_mergeQuery_iff (h : Linkable s limits) (query : List Char) :
    Reflects (decodeQuery (mergeQuery query s) s.kinds limits) s ↔
      ∀ a, unmasked? s.kinds (kept s query) = some a → Overwritten s limits a := by
  rw [decodeQuery_eq, readings, addresses_mergeQuery h]
  cases unmasked? s.kinds (kept s query) with
  | none =>
    have hread := readAll_addressOf h (fun _ hc => hc) (n := 0) (by simpa using h.few)
    rw [Option.toList_none, List.nil_append, hread, accepted_map, rejected_map]
    exact iff_of_true (reflects_writtenFields h) fun a ha => by cases ha
  | some a =>
    rw [Option.toList_some, List.singleton_append, readAll]
    cases hv : readValue limits 0 a.kind a.raw with
    | error reason =>
      refine iff_of_false (fun hd => absurd hd.rejected (List.cons_ne_nil _ _)) fun hover => ?_
      obtain ⟨⟨v, hok⟩, -⟩ := hover a rfl
      rw [hv] at hok
      cases hok
    | ok v =>
      dsimp only
      rw [accepted_ok, rejected_ok]
      have hroom := (of_readValue_ok hv).1
      by_cases hfew : (written s).length < limits.pairs
      · have hread := readAll_addressOf h (fun _ hc => hc) (n := 1) (by omega)
        rw [hread, accepted_map, rejected_map]
        refine (reflects_cons_iff h a.key v).trans ⟨?_, fun hover => (hover a rfl).2.1⟩
        rintro hc b hb
        cases hb
        exact ⟨⟨v, hv⟩, hc, hfew⟩
      · have hfull := rejected_readAll_ne_nil h (fun _ hc => hc) (n := 1) hroom (by omega)
        exact iff_of_false (fun hd => hfull hd.rejected) fun hover => hfew (hover a rfl).2.2

theorem isPlain_querySet_of_wire (kind : Url.SchemeKind) {c : Char}
    (h : Wire.IsWireCharacter c ∨ c = '=') : isPlain (Url.querySet kind) c = true := by
  have hmarks : ∀ c ∈ ['~', ',', ':', '+', '='], isPlain (Url.querySet kind) c = true :=
    List.all_eq_true.mp (by cases kind <;> decide)
  have hmade (hc : isUnreserved c = true ∨ c = '%') : isPlain (Url.querySet kind) c = true :=
    isPlain_of_made hc (Url.isForeign_querySet kind)
  rcases h with (h | h) | rfl
  · exact hmade (.inl h)
  · rcases List.mem_cons.mp h with rfl | h
    · exact hmade (.inr rfl)
    · exact hmarks c (List.mem_append_left ['='] h)
  · exact hmarks '=' (by decide)

theorem plain_mergeQuery {kind : Url.SchemeKind} (h : Plain (Url.querySet kind) query) (s : Snapshot) :
    Plain (Url.querySet kind) (mergeQuery query s) := by
  rw [mergeQuery_eq]
  intro c hc
  rcases mem_join hc with hc | ⟨p, hp, hc⟩
  · rw [List.mem_singleton.mp hc]
    cases kind <;> decide
  · rcases List.mem_append.mp hp with hp | hp
    · have hpair := (List.mem_filter.mp (List.mem_filter.mp hp).1).1
      exact h c ((of_mem_splitOn hpair).2 hc)
    · obtain ⟨d, -, rfl⟩ := List.mem_map.mp hp
      exact isPlain_querySet_of_wire kind (mem_encodePair hc)

theorem getD_query_withQuery (u : Url) (query : List Char) :
    (u.withQuery query).query.getD [] = Url.encodeQuery (Url.schemeKind u.scheme) query := by
  unfold Url.withQuery
  split
  next h => rw [List.isEmpty_iff.mp h]; rfl
  next => rfl

theorem merged_reflects_iff {url : List Char} {u : Url} (hurl : Url.ofText? url = .ok u)
    (h : Linkable s limits) :
    ∃ merged d, mergeIntoUrl url s = .ok merged ∧ decodeUrl merged s.kinds limits = .ok d ∧
      (Reflects d s ↔ ∀ a, unmasked? s.kinds (kept s (u.query.getD [])) = some a →
        Overwritten s limits a) := by
  have hplain : Plain (Url.querySet (Url.schemeKind u.scheme)) (u.query.getD []) := by
    cases hq : u.query with
    | none => exact .nil
    | some q => exact (Url.urlForm_of_ofText? hurl).query q hq
  have hquery : (u.withQuery (mergeQuery (u.query.getD []) s)).query.getD [] =
      mergeQuery (u.query.getD []) s :=
    (getD_query_withQuery u _).trans (percentEncode_of_plain (plain_mergeQuery hplain s))
  refine ⟨_, _, by rw [mergeIntoUrl, hurl]; rfl, by rw [decodeUrl, Url.ofText?_withQuery hurl]; rfl, ?_⟩
  rw [hquery]
  exact reflects_mergeQuery_iff h _

def shown (v : Value) : Snapshot := ⟨[⟨"a", .text, v⟩], 0⟩

theorem readValue_one : readValue .default 0 .text "1".toList = .ok (.text "1") := by
  have hscript : isScriptLike "1".toList = false := not_isScriptLike_of_bare (by decide)
  simp only [readValue, hscript]
  decide +kernel

theorem address?_one (v : Value) :
    address? (shown v).kinds "a=1".toList = some ⟨"a", .text, "1".toList⟩ :=
  address?_eq_some.mpr ⟨unescapeComponent?_of_not_mem (by decide), by decide, rfl, by decide⟩

theorem merged_reflects_iff_shown :
    Url.ofText? "http://h/??a=1&page=2".toList =
      .ok ⟨"http".toList, some "h".toList, "/".toList, some "?a=1&page=2".toList, none⟩ ∧
    Linkable (shown (.text "v")) .default ∧
    ∃ merged d, mergeIntoUrl "http://h/??a=1&page=2".toList (shown (.text "v")) = .ok merged ∧
      decodeUrl merged (shown (.text "v")).kinds .default = .ok d ∧ Reflects d (shown (.text "v")) := by
  have hurl : Url.ofText? "http://h/??a=1&page=2".toList =
      .ok ⟨"http".toList, some "h".toList, "/".toList, some "?a=1&page=2".toList, none⟩ := by
    decide +kernel
  have hwritten : written (shown (.text "v")) = (shown (.text "v")).controls := by decide +kernel
  have hscript : isScriptLike "v".toList = false := not_isScriptLike_of_bare (by decide)
  have h : Linkable (shown (.text "v")) .default := by
    refine ⟨by decide, by decide, by decide, ?_, ?_, ?_⟩ <;> rw [hwritten]
    · exact List.forall_mem_singleton.mpr hscript
    · decide
    · decide
  have hfirst : kept (shown (.text "v")) "?a=1&page=2".toList = ["?a=1".toList, "page=2".toList] := by
    decide +kernel
  obtain ⟨merged, d, hmerge, hdecode, hiff⟩ := merged_reflects_iff hurl h
  refine ⟨hurl, h, merged, d, hmerge, hdecode, hiff.mpr fun a ha => ?_⟩
  have haddress : some a = some ⟨"a", .text, "1".toList⟩ :=
    ha.symm.trans ((congrArg (unmasked? _) hfirst).trans (address?_one _))
  cases haddress
  rw [Overwritten, hwritten]
  exact ⟨⟨_, readValue_one⟩, ⟨_, List.mem_singleton_self _, rfl⟩, by decide⟩

theorem nullControl_returns : Linkable (shown .null) .default ∧
    mergeIntoUrl "http://h/??a=1".toList (shown .null) = .ok "http://h/??a=1".toList ∧
    ∃ d, decodeUrl "http://h/??a=1".toList (shown .null).kinds .default = .ok d ∧
      ("a", .text "1") ∈ d.values ∧ ¬ Reflects d (shown .null) := by
  have hurl : Url.ofText? "http://h/??a=1".toList =
      .ok ⟨"http".toList, some "h".toList, "/".toList, some "?a=1".toList, none⟩ := by
    decide +kernel
  have hpairs : pairs (unmarked "?a=1".toList) = ["a=1".toList] := by decide
  have hread : decodeQuery "?a=1".toList (shown .null).kinds .default =
      ⟨[("a", .text "1")], []⟩ := by
    rw [decodeQuery_eq, readings, hpairs, List.filterMap_cons_some (address?_one _),
      List.filterMap_nil, readAll, readValue_one]
    rfl
  have h : Linkable (shown .null) .default :=
    ⟨by decide, by decide, by decide, by decide +kernel, by decide +kernel, by decide +kernel⟩
  refine ⟨h, by decide +kernel, ⟨[("a", .text "1")], []⟩, ?_, List.mem_singleton_self _, fun hd => ?_⟩
  · rw [decodeUrl, hurl]
    exact congrArg Except.ok hread
  · obtain ⟨c, hc, hactive, -⟩ := (hd.values "a" (.text "1")).mp (List.mem_singleton_self _)
    rw [shown, List.mem_singleton] at hc
    subst hc
    cases hactive

end LinkedControls.Link
