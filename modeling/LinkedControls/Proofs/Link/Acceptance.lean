import LinkedControls.Proofs.Json.Fields
import LinkedControls.Proofs.Link.Ledger
import LinkedControls.Proofs.Pattern.Transfer
import LinkedControls.Proofs.Value.Reading

/-!
What a link can bring in: only finite values of the kinds that are asked for, under ids that are known
and not reserved, and in none of their texts a trace of a script.
-/

namespace LinkedControls.Link

open Text

structure Admitted (kinds : List (String × Kind)) (limits : Limits) (a : Address) (v : Value) :
    Prop where
  known : kinds.lookup a.key = some a.kind
  free : ∀ name ∈ reservedKeys, asciiLower a.key.toList ≠ asciiLower name.toList
  short : byteLength a.raw ≤ limits.valueBytes
  fits : v.fits a.kind = true
  isFinite : v.isFinite = true
  harmless : ∀ s ∈ v.texts, ¬ scriptPattern.OccursIn s.toList

theorem assertions_scriptPattern : scriptPattern.assertions = [] := rfl

-- the script pattern looks at nothing but the text it matches, so what it matches in a piece of the
-- text it also matches in the whole
theorem not_occursIn_of_infix {raw whole s : List Char} (h : isScriptLike raw = false)
    (hwhole : unescapeComponent? raw = some whole) (hs : s <:+: whole) :
    ¬ scriptPattern.OccursIn s := by
  intro hoccurs
  have hin := Pattern.isIn_iff.mpr (hoccurs.of_infix assertions_scriptPattern hs)
  simp [isScriptLike, hwhole, hin] at h

def scriptMarks : List Char := ['<', ':', '=']

def isScriptMark : CharSet → Bool
  | .span first last => first == last && scriptMarks.any (·.toNat == first)
  | _ => false

-- each way through the script pattern passes a bracket, a colon or an equals sign
theorem isIn_scriptPattern_of_unmarked {s : List Char} (h : ∀ c ∈ scriptMarks, c ∉ s) :
    scriptPattern.isIn s = false := by
  have hneeds : scriptPattern.needs isScriptMark = true := by decide
  refine Pattern.isIn_eq_false_of_needs hneeds fun set hmark c hc => ?_
  cases set with
  | span first last =>
    rw [Bool.eq_false_iff]
    intro hholds
    simp only [isScriptMark, Bool.and_eq_true, beq_iff_eq, List.any_eq_true] at hmark
    obtain ⟨rfl, d, hd, hfirst⟩ := hmark
    simp only [CharSet.holds, Bool.and_eq_true, decide_eq_true_eq] at hholds
    have hcd : c = d := Char.toNat_inj.mp (by omega)
    exact h d hd (hcd ▸ hc)
  | _ => cases hmark

theorem not_isScriptLike_of_bare {raw : List Char}
    (h : raw.all (fun c => !('%' :: scriptMarks).contains c) = true) : isScriptLike raw = false := by
  have hfree : ∀ c ∈ '%' :: scriptMarks, c ∉ raw := by
    intro c hc hmem
    have hnot := List.all_eq_true.mp h c hmem
    rw [List.contains_iff_mem.mpr hc] at hnot
    cases hnot
  obtain ⟨hpercent, hmarks⟩ := List.forall_mem_cons.mp hfree
  rw [isScriptLike, unescapeComponent?_of_not_mem hpercent, isIn_scriptPattern_of_unmarked hmarks]
  exact isIn_scriptPattern_of_unmarked hmarks

theorem asciiLower_ne_of_not_isReserved {key : String} (h : isReserved key = false) :
    ∀ name ∈ reservedKeys, asciiLower key.toList ≠ asciiLower name.toList := by
  have hlower : ∀ name ∈ reservedKeys, asciiLower name.toList = name.toList := by decide
  intro name hname
  rw [hlower name hname]
  simp only [isReserved, List.any_eq_false, beq_iff_eq] at h
  exact h name hname

variable {query : List Char} {kinds : List (String × Kind)} {limits : Limits}

theorem map_address_readings :
    (readings query kinds limits).map (·.address) =
      (pairs (unmarked query)).filterMap (address? kinds) :=
  map_address_readAll limits 0 _

theorem admitted_of_mem_readings {r : Reading} {v : Value} (hr : r ∈ readings query kinds limits)
    (hv : r.outcome = .ok v) : Admitted kinds limits r.address v := by
  have hmem : r.address ∈ (pairs (unmarked query)).filterMap (address? kinds) :=
    map_address_readings ▸ List.mem_map_of_mem hr
  obtain ⟨pair, -, hpair⟩ := List.mem_filterMap.mp hmem
  obtain ⟨-, hfree, hkind, -⟩ := address?_eq_some.mp hpair
  obtain ⟨n, hread⟩ := exists_readValue hr
  obtain ⟨-, hshort, hscript, rfl⟩ := of_readValue_ok (hread.symm.trans hv)
  refine ⟨hkind, asciiLower_ne_of_not_isReserved hfree, hshort, Wire.fits_decode _ _,
    Wire.isFinite_decode _ _, fun s hs => ?_⟩
  obtain ⟨whole, hwhole, hinfix⟩ := Wire.infix_of_mem_texts hs
  exact not_occursIn_of_infix hscript hwhole hinfix

theorem decodeQuery_admits (query : List Char) (kinds : List (String × Kind)) (limits : Limits) :
    let d := decodeQuery query kinds limits
    let rs := readings query kinds limits
    rs.map (·.address) = (pairs (unmarked query)).filterMap (address? kinds) ∧
    d.rejected = rejected rs ∧
    d.values = Json.sortFields (accepted rs) ∧
    (∀ key v, (key, v) ∈ d.values → ∃ r ∈ rs, r.address.key = key ∧ r.outcome = .ok v) ∧
    (∀ r ∈ rs, ∀ v, r.outcome = .ok v → Admitted kinds limits r.address v) ∧
    (accepted rs).length ≤ limits.pairs := by
  intro d rs
  have hd : d = ⟨Json.sortFields (accepted rs), rejected rs⟩ := decodeQuery_eq query kinds limits
  refine ⟨map_address_readings, by rw [hd], by rw [hd], fun key v hv => ?_,
    fun r hr v hv => admitted_of_mem_readings hr hv, length_accepted_readAll limits 0 _⟩
  rw [hd] at hv
  exact mem_accepted.mp (Json.mem_of_mem_sortFields hv)

end LinkedControls.Link
