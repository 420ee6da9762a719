import LinkedControls.Link.Query

/-!
A query as the list of its readings: one for every pair that is about a known control, in the order of
the pairs, with the value or the reason that came of it.
-/

namespace LinkedControls.Link

open Text

structure Address where
  key : String
  kind : Kind
  raw : List Char

structure Reading where
  address : Address
  outcome : Except RejectReason Value

namespace Reading

def accepted? (r : Reading) : Option (String × Value) :=
  match r.outcome with
  | .ok v => some (r.address.key, v)
  | .error _ => none

def rejected? (r : Reading) : Option Rejected :=
  match r.outcome with
  | .ok _ => none
  | .error reason => some ⟨r.address.key, reason⟩

end Reading

def accepted (rs : List Reading) : List (String × Value) := rs.filterMap Reading.accepted?

def rejected (rs : List Reading) : List Rejected := rs.filterMap Reading.rejected?

def address? (kinds : List (String × Kind)) (pair : List Char) : Option Address :=
  (addressed? kinds pair).map fun (key, kind) => ⟨key, kind, (splitPair pair).2⟩

def readAll (limits : Limits) : Nat → List Address → List Reading
  | _, [] => []
  | n, a :: rest =>
      match readValue limits n a.kind a.raw with
      | .ok v => ⟨a, .ok v⟩ :: readAll limits (n + 1) rest
      | .error reason => ⟨a, .error reason⟩ :: readAll limits n rest

def unmarked : List Char → List Char
  | '?' :: rest => rest
  | query => query

def readings (query : List Char) (kinds : List (String × Kind)) (limits : Limits) : List Reading :=
  readAll limits 0 ((pairs (unmarked query)).filterMap (address? kinds))

variable {kinds : List (String × Kind)} {limits : Limits} {n : Nat}

@[simp]
theorem accepted_ok (a : Address) (v : Value) (rs : List Reading) :
    accepted (⟨a, .ok v⟩ :: rs) = (a.key, v) :: accepted rs := rfl

@[simp]
theorem accepted_error (a : Address) (reason : RejectReason) (rs : List Reading) :
    accepted (⟨a, .error reason⟩ :: rs) = accepted rs := rfl

@[simp]
theorem rejected_ok (a : Address) (v : Value) (rs : List Reading) :
    rejected (⟨a, .ok v⟩ :: rs) = rejected rs := rfl

@[simp]
theorem rejected_error (a : Address) (reason : RejectReason) (rs : List Reading) :
    rejected (⟨a, .error reason⟩ :: rs) = ⟨a.key, reason⟩ :: rejected rs := rfl

theorem decodePairs_eq (n : Nat) (d : Decoded) (ps : List (List Char)) :
    decodePairs kinds limits n d ps =
      ⟨(accepted (readAll limits n (ps.filterMap (address? kinds)))).foldl
          (fun kept (key, v) => Json.insertField key v kept) d.values,
        d.rejected ++ rejected (readAll limits n (ps.filterMap (address? kinds)))⟩ := by
  induction ps generalizing n d with
  | nil => simp [decodePairs, readAll, accepted, rejected]
  | cons pair ps ih =>
    unfold decodePairs
    cases ha : addressed? kinds pair with
    | none => simp [ih, address?, ha]
    | some a => cases hv : readValue limits n a.2 (splitPair pair).2 <;> simp [ih, address?, ha, hv, readAll]

theorem decodeQuery_eq (query : List Char) (kinds : List (String × Kind)) (limits : Limits) :
    decodeQuery query kinds limits =
      ⟨Json.sortFields (accepted (readings query kinds limits)),
        rejected (readings query kinds limits)⟩ := by
  have hquery : decodeQuery query kinds limits =
      decodePairs kinds limits 0 .empty (pairs (unmarked query)) := rfl
  rw [hquery, decodePairs_eq]
  rfl

theorem address?_eq_some {pair : List Char} {a : Address} :
    address? kinds pair = some a ↔
      unescapeComponent? (splitPair pair).1 = some a.key.toList ∧ isReserved a.key = false ∧
        kinds.lookup a.key = some a.kind ∧ (splitPair pair).2 = a.raw := by
  simp only [address?, addressed?, Option.map_eq_some_iff, Option.bind_eq_bind,
    Option.bind_eq_some_iff]
  constructor
  · rintro ⟨_, ⟨key, hkey, h⟩, rfl⟩
    split at h
    · cases h
    next hfree =>
      obtain ⟨kind, hkind, hpure⟩ := Option.bind_eq_some_iff.mp h
      cases hpure
      exact ⟨by rw [hkey, String.toList_ofList], by simpa using hfree, hkind, rfl⟩
  · rintro ⟨hkey, hfree, hkind, hraw⟩
    refine ⟨(a.key, a.kind), ⟨_, hkey, ?_⟩, by rw [hraw]⟩
    rw [String.ofList_toList, hfree, hkind]
    rfl

theorem map_address_readAll (limits : Limits) (n : Nat) (addresses : List Address) :
    (readAll limits n addresses).map (·.address) = addresses := by
  induction addresses generalizing n with
  | nil => rfl
  | cons a rest ih =>
    rw [readAll]
    split <;> exact congrArg (a :: ·) (ih _)

theorem of_readValue_ok {k : Kind} {raw : List Char} {v : Value}
    (h : readValue limits n k raw = .ok v) :
    n < limits.pairs ∧ byteLength raw ≤ limits.valueBytes ∧ isScriptLike raw = false ∧
      Wire.decode raw k = v := by
  unfold readValue at h
  split at h
  · cases h
  next hroom =>
    split at h
    · cases h
    next hshort =>
      split at h
      · cases h
      next hscript =>
        dsimp only at h
        split at h
        · cases h
        · cases h
          exact ⟨Nat.lt_of_not_le hroom, Nat.le_of_not_lt hshort, by simpa using hscript, rfl⟩

theorem isNull_of_readValue_undecodable {k : Kind} {raw : List Char}
    (h : readValue limits n k raw = .error .undecodable) : (Wire.decode raw k).isNull = true := by
  unfold readValue at h
  split at h
  · cases h
  · split at h
    · cases h
    · split at h
      · cases h
      · dsimp only at h
        split at h
        next hnull => simp_all
        · cases h

theorem exists_readValue {addresses : List Address} {r : Reading}
    (h : r ∈ readAll limits n addresses) :
    ∃ m, r.outcome = readValue limits m r.address.kind r.address.raw := by
  induction addresses generalizing n with
  | nil => cases h
  | cons a rest ih =>
    rw [readAll] at h
    split at h
    all_goals
      next hv =>
        rcases List.mem_cons.mp h with rfl | h
        · exact ⟨n, hv.symm⟩
        · exact ih h

theorem length_accepted_readAll (limits : Limits) (n : Nat) (addresses : List Address) :
    (accepted (readAll limits n addresses)).length ≤ limits.pairs - n := by
  induction addresses generalizing n with
  | nil => exact Nat.zero_le _
  | cons a rest ih =>
    rw [readAll]
    split
    next hv =>
      have hroom := (of_readValue_ok hv).1
      have hrest := ih (n + 1)
      rw [accepted_ok, List.length_cons]
      omega
    · exact ih n

theorem map_key_accepted_sublist (rs : List Reading) :
    ((accepted rs).map (·.1)).Sublist (rs.map (·.address.key)) := by
  induction rs with
  | nil => exact .refl _
  | cons r rs ih =>
    obtain ⟨a, v | reason⟩ := r
    · exact ih.cons a.key
    · exact ih.cons_cons a.key

theorem mem_accepted {rs : List Reading} {key : String} {v : Value} :
    (key, v) ∈ accepted rs ↔ ∃ r ∈ rs, r.address.key = key ∧ r.outcome = .ok v := by
  rw [accepted, List.mem_filterMap]
  refine exists_congr fun r => and_congr_right fun _ => ?_
  obtain ⟨a, w | reason⟩ := r <;> simp [Reading.accepted?]

theorem mem_rejected {rs : List Reading} {x : Rejected} :
    x ∈ rejected rs ↔ ∃ r ∈ rs, r.address.key = x.key ∧ r.outcome = .error x.reason := by
  rw [rejected, List.mem_filterMap]
  refine exists_congr fun r => and_congr_right fun _ => ?_
  obtain ⟨key, reason⟩ := x
  obtain ⟨a, v | reason'⟩ := r <;> simp [Reading.rejected?]

end LinkedControls.Link
