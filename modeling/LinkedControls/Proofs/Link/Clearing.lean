import LinkedControls.Proofs.Json.Fields
import LinkedControls.Proofs.Keyed
import LinkedControls.Proofs.Link.Acceptance

/-!
When a link clears a control. The token for null does so, but so does the token for what is empty where
it is given to a control that can hold nothing empty.
-/

namespace LinkedControls.Link

open Text

/-- The raw value says that a text or a list is empty, about a control that holds neither. -/
structure Address.EmptiesScalar (a : Address) : Prop where
  raw : a.raw = Wire.emptyToken
  not_text : a.kind ≠ .text
  not_list : a.kind ≠ .list

def Reading.takes (id : String) (r : Reading) : Bool := r.accepted?.any (·.1 == id)

def lastTaken? (rs : List Reading) (id : String) : Option Reading := rs.reverse.find? (·.takes id)

def SaysNull (query : List Char) (id : String) : Prop :=
  ∃ pair ∈ pairs (unmarked query),
    unescapeComponent? (splitPair pair).1 = some id.toList ∧ (splitPair pair).2 = Wire.nullToken

variable {query : List Char} {kinds : List (String × Kind)} {limits : Limits} {id : String}
  {v : Value} {r : Reading} {rs : List Reading}

theorem takes_iff : r.takes id = true ↔ r.address.key = id ∧ ∃ v, r.outcome = .ok v := by
  obtain ⟨a, reason | w⟩ := r <;> simp [Reading.takes, Reading.accepted?]

theorem lookup_accepted :
    (accepted rs).lookup id = some v ↔ ∃ r, rs.find? (·.takes id) = some r ∧ r.outcome = .ok v := by
  induction rs with
  | nil => simp [accepted]
  | cons r rs ih =>
    obtain ⟨a, reason | w⟩ := r
    · rw [accepted_error, ih, List.find?_cons_of_neg]
      simp [takes_iff]
    · rw [accepted_ok, Json.lookup_field]
      by_cases hid : id = a.key
      · rw [if_pos hid, List.find?_cons_of_pos (takes_iff.mpr ⟨hid.symm, w, rfl⟩)]
        simp
      · rw [if_neg hid, ih, List.find?_cons_of_neg]
        simp [takes_iff, Ne.symm hid]

theorem mem_sortFields_accepted :
    (id, v) ∈ Json.sortFields (accepted rs) ↔
      ∃ r, lastTaken? rs id = some r ∧ r.outcome = .ok v := by
  rw [mem_iff_lookup (Json.nodup_keys_sortFields _), Json.lookup_sortFields, accepted,
    ← List.filterMap_reverse]
  exact lookup_accepted

theorem mem_of_lastTaken? (h : lastTaken? rs id = some r) :
    r ∈ rs ∧ r.address.key = id ∧ ∃ v, r.outcome = .ok v := by
  have htakes : r.takes id = true := List.find?_some h
  exact ⟨List.mem_reverse.mp (List.mem_of_find?_eq_some h), takes_iff.mp htakes⟩

theorem decode_emptyToken_eq_null {k : Kind} :
    Wire.decode Wire.emptyToken k = .null ↔ k ≠ .text ∧ k ≠ .list := by
  cases k <;> decide

theorem token_of_readValue_null {n : Nat} {k : Kind} {raw : List Char}
    (h : readValue limits n k raw = .ok .null) : raw = Wire.nullToken ∨ raw = Wire.emptyToken := by
  obtain ⟨hroom, hshort, hscript, hnull⟩ := of_readValue_ok h
  by_contra hraw
  rw [not_or] at hraw
  rw [readValue, if_neg (Nat.not_le.mpr hroom), if_neg (Nat.not_lt.mpr hshort),
    if_neg (by simp [hscript])] at h
  simp [hnull, Value.isNull, hraw.1, hraw.2] at h

theorem outcome_eq_null_iff (hr : r ∈ readings query kinds limits) (hv : r.outcome = .ok v) :
    v = .null ↔ r.address.raw = Wire.nullToken ∨ r.address.EmptiesScalar := by
  obtain ⟨n, hn⟩ := exists_readValue hr
  have hread := hn.symm.trans hv
  obtain ⟨-, -, -, rfl⟩ := of_readValue_ok hread
  constructor
  · intro hnull
    rw [hnull] at hread
    refine (token_of_readValue_null hread).imp_right fun hraw => ?_
    rw [hraw] at hnull
    obtain ⟨htext, hlist⟩ := decode_emptyToken_eq_null.mp hnull
    exact ⟨hraw, htext, hlist⟩
  · rintro (hraw | ⟨hraw, htext, hlist⟩)
    · rw [hraw]
      exact Wire.decode_nullToken _
    · rw [hraw]
      exact decode_emptyToken_eq_null.mpr ⟨htext, hlist⟩

theorem saysNull_of_reading (hr : r ∈ readings query kinds limits)
    (hraw : r.address.raw = Wire.nullToken) : SaysNull query r.address.key := by
  have hmem : r.address ∈ (pairs (unmarked query)).filterMap (address? kinds) :=
    map_address_readings ▸ List.mem_map_of_mem hr
  obtain ⟨pair, hpair, ha⟩ := List.mem_filterMap.mp hmem
  obtain ⟨hkey, -, -, hsame⟩ := address?_eq_some.mp ha
  exact ⟨pair, hpair, hkey, hsame.trans hraw⟩

theorem cleared_iff (query : List Char) (kinds : List (String × Kind)) (limits : Limits)
    (id : String) :
    (id, .null) ∈ (decodeQuery query kinds limits).values ↔
      ∃ r, lastTaken? (readings query kinds limits) id = some r ∧
        (r.address.raw = Wire.nullToken ∨ r.address.EmptiesScalar) := by
  rw [decodeQuery_eq, mem_sortFields_accepted]
  refine exists_congr fun r => and_congr_right fun hr => ?_
  obtain ⟨hmem, -, v, hv⟩ := mem_of_lastTaken? hr
  rw [← outcome_eq_null_iff hmem hv, hv, Except.ok.injEq]

theorem cleared_said_null_iff (query : List Char) (kinds : List (String × Kind))
    (limits : Limits) :
    let d := decodeQuery query kinds limits
    let rs := readings query kinds limits
    (∀ id, (id, .null) ∈ d.values ↔
      ∃ r, lastTaken? rs id = some r ∧
        (r.address.raw = Wire.nullToken ∨ r.address.EmptiesScalar)) ∧
    ((∀ id, (id, .null) ∈ d.values → SaysNull query id) ↔
      ∀ id r, lastTaken? rs id = some r → r.address.EmptiesScalar → SaysNull query id) := by
  intro d rs
  refine ⟨cleared_iff query kinds limits, ?_, ?_⟩
  · intro hsays id r hr hempties
    exact hsays id ((cleared_iff query kinds limits id).mpr ⟨r, hr, .inr hempties⟩)
  · intro hempties id hid
    obtain ⟨r, hr, hraw | hscalar⟩ := (cleared_iff query kinds limits id).mp hid
    · obtain ⟨hmem, rfl, -⟩ := mem_of_lastTaken? hr
      exact saysNull_of_reading hmem hraw
    · exact hempties id r hr hscalar

theorem emptyToken_clears_number :
    ("n", .null) ∈ (decodeQuery "n=~empty".toList [("n", .number)] .default).values ∧
      ¬ SaysNull "n=~empty".toList "n" := by
  have hpairs : pairs (unmarked "n=~empty".toList) = ["n=~empty".toList] := by decide
  have haddress : address? [("n", .number)] "n=~empty".toList =
      some ⟨"n", .number, Wire.emptyToken⟩ :=
    address?_eq_some.mpr ⟨unescapeComponent?_of_not_mem (by decide), by decide, by decide, by decide⟩
  have hscript : isScriptLike Wire.emptyToken = false := not_isScriptLike_of_bare (by decide)
  have hread : readValue .default 0 .number Wire.emptyToken = .ok .null := by
    simp only [readValue, hscript]
    rfl
  constructor
  · rw [decodeQuery_eq, readings, hpairs, List.filterMap_cons_some haddress, List.filterMap_nil,
      readAll, hread]
    exact List.mem_singleton_self _
  · rintro ⟨pair, hpair, -, hraw⟩
    rw [hpairs, List.mem_singleton] at hpair
    subst hpair
    exact absurd hraw (by decide)

end LinkedControls.Link
