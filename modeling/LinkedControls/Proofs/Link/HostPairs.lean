import LinkedControls.Proofs.Link.Merging
import Mathlib.Data.List.DropRight

/-!
What a link keeps of its host when its controls are written anew: the pairs that are about no control,
in their order and ahead of the controls. Written anew once more, the link stays as it is.
-/

namespace LinkedControls.Link

open Text

def IsHosts (s : Snapshot) (pair : List Char) : Prop :=
  ∀ key, unescapeComponent? (splitPair pair).1 = some key →
    isReserved (String.ofList key) = true ∨ ∀ c ∈ s.controls, c.id ≠ String.ofList key

variable {s : Snapshot} {query : List Char}

theorem isKept_iff {pair : List Char} : isKept s pair = true ↔ IsHosts s pair := by
  unfold isKept IsHosts
  cases unescapeComponent? (splitPair pair).1 with
  | none => simp
  | some key => simp [Snapshot.get?]

instance (s : Snapshot) : DecidablePred (IsHosts s) := fun _ => decidable_of_iff _ isKept_iff

def queryOf (hosts : List (List Char)) (controls : List Char) : Option (List Char) :=
  let parts := hosts ++ if controls = [] then [] else [controls]
  if parts = [] then none else some (join ['&'] parts)

theorem kept_eq (s : Snapshot) (query : List Char) :
    kept s query = (pairs query).filter fun pair => IsHosts s pair :=
  List.filter_congr fun _ _ => by rw [Bool.eq_iff_iff, isKept_iff, decide_eq_true_iff]

theorem isKept_encodePair {c : Control} (hc : c ∈ written s) : isKept s (encodePair c) = false := by
  obtain ⟨hmem, -, hfree⟩ := mem_written.mp hc
  rw [Bool.eq_false_iff, Ne, isKept_iff, IsHosts, splitPair_encodePair]
  intro hhosts
  rcases hhosts _ (unescapeComponent?_escapeComponent _) with hreserved | habsent
  · rw [String.ofList_toList, hfree] at hreserved
    cases hreserved
  · exact habsent c hmem String.ofList_toList.symm

theorem pairs_mergeQuery (query : List Char) (s : Snapshot) :
    pairs (mergeQuery query s) = kept s query ++ pairs (encodeQuery s) := by
  rw [mergeQuery_eq, pairs_join fun _ => mem_pieces, pairs_encodeQuery]

theorem kept_mergeQuery (query : List Char) (s : Snapshot) :
    kept s (mergeQuery query s) = kept s query := by
  have hwritten : (pairs (encodeQuery s)).filter (isKept s) = [] := by
    rw [pairs_encodeQuery, List.filter_eq_nil_iff]
    intro pair hpair
    obtain ⟨c, hc, rfl⟩ := List.mem_map.mp hpair
    simp [isKept_encodePair hc]
  rw [kept, pairs_mergeQuery, List.filter_append, hwritten, List.append_nil, kept, List.filter_filter]
  simp only [Bool.and_self]

theorem mergeQuery_mergeQuery (query : List Char) (s : Snapshot) :
    mergeQuery (mergeQuery query s) s = mergeQuery query s := by
  rw [mergeQuery_eq, kept_mergeQuery, ← mergeQuery_eq]

theorem mergeQuery_eq_nil_iff : mergeQuery query s = [] ↔ kept s query = [] ∧ encodeQuery s = [] := by
  constructor
  · intro h
    have hpairs := pairs_mergeQuery query s
    rw [h, show pairs [] = [] from rfl, eq_comm, List.append_eq_nil_iff, pairs_encodeQuery] at hpairs
    exact ⟨hpairs.1, by rw [encodeQuery, hpairs.2]; rfl⟩
  · rintro ⟨hkept, hcontrols⟩
    have hpairs := pairs_encodeQuery s
    rw [hcontrols, show pairs [] = [] from rfl] at hpairs
    rw [mergeQuery_eq, hkept, ← hpairs]
    rfl

theorem queryOf_kept (query : List Char) (s : Snapshot) :
    queryOf (kept s query) (encodeQuery s) =
      if mergeQuery query s = [] then none else some (mergeQuery query s) := by
  have hparts : kept s query ++ (if encodeQuery s = [] then [] else [encodeQuery s]) = [] ↔
      mergeQuery query s = [] := by
    rw [mergeQuery_eq_nil_iff, List.append_eq_nil_iff]
    by_cases h : encodeQuery s = [] <;> simp [h]
  have hmerged : mergeQuery query s =
      join ['&'] (kept s query ++ if encodeQuery s = [] then [] else [encodeQuery s]) := by
    simp only [mergeQuery, kept, List.isEmpty_iff]
  simp only [queryOf, hparts, ← hmerged]

namespace Url

theorem query_withQuery (u : Url) (query : List Char) : (u.withQuery query).query =
    if query = [] then none else some (encodeQuery (schemeKind u.scheme) query) := by
  unfold withQuery
  by_cases h : query = [] <;> simp [h]

theorem withQuery_of_ne_nil {u : Url} (h : query ≠ []) :
    u.withQuery query = { u with query := (u.withQuery query).query } := by
  rw [withQuery, if_neg (by simpa using h)]

theorem withQuery_withQuery (u : Url) (query : List Char) :
    (u.withQuery query).withQuery query = u.withQuery query := by
  by_cases hquery : query.isEmpty = true
  · by_cases hcut : (u.isOpaque && u.fragment.isNone) = true
    · simp [withQuery, hquery, hcut, List.dropWhile_idempotent]
    · have hagain : ¬ ({ u with query := none }.isOpaque && u.fragment.isNone) = true := hcut
      simp [withQuery, hquery, hcut, hagain]
  · simp [withQuery, hquery]

end Url

theorem query_merged {url : List Char} {u : Url} (hurl : Url.ofText? url = .ok u) (s : Snapshot) :
    (u.withQuery (mergeQuery (u.query.getD []) s)).query =
      queryOf (kept s (u.query.getD [])) (encodeQuery s) := by
  have hplain : Plain (Url.querySet (Url.schemeKind u.scheme)) (u.query.getD []) := by
    cases hq : u.query with
    | none => exact .nil
    | some q => exact (Url.urlForm_of_ofText? hurl).query q hq
  rw [Url.query_withQuery, queryOf_kept, Url.encodeQuery,
    percentEncode_of_plain (plain_mergeQuery hplain s)]

theorem merged_keeps_hosts {url : List Char} {u : Url} (hurl : Url.ofText? url = .ok u) (s : Snapshot) :
    ∃ m : Url, mergeIntoUrl url s = .ok m.toChars ∧ Url.ofText? m.toChars = .ok m ∧
      m.query = queryOf ((pairs (u.query.getD [])).filter fun pair => IsHosts s pair) (encodeQuery s) ∧
      (m.query ≠ none → m = { u with query := m.query }) ∧
      mergeIntoUrl m.toChars s = .ok m.toChars := by
  have hquery := query_merged hurl s
  have hread := Url.ofText?_withQuery hurl (mergeQuery (u.query.getD []) s)
  have hmerge : mergeIntoUrl url s = .ok (u.withQuery (mergeQuery (u.query.getD []) s)).toChars := by
    rw [mergeIntoUrl, hurl]
    rfl
  have hgetD : (u.withQuery (mergeQuery (u.query.getD []) s)).query.getD [] =
      mergeQuery (u.query.getD []) s := by
    rw [hquery, queryOf_kept]
    split
    next hnil => exact hnil.symm
    next => rfl
  refine ⟨_, hmerge, hread, by rw [hquery, kept_eq], fun hsome => ?_, ?_⟩
  · refine Url.withQuery_of_ne_nil fun hnil => hsome ?_
    rw [Url.query_withQuery, if_pos hnil]
  · rw [mergeIntoUrl, hread]
    change Except.ok _ = _
    rw [hgetD, mergeQuery_mergeQuery, Url.withQuery_withQuery]

def tagged : Snapshot := ⟨[⟨"b &", .text, .text "v"⟩, ⟨"Page", .text, .text "w"⟩, ⟨"n", .number, .null⟩], 0⟩

theorem merged_keeps_hosts_tagged :
    Url.ofText? "http://h/?PAGE=2&b%20%26=1&&%ff=3&n=4&??x#f".toList =
      .ok ⟨"http".toList, some "h".toList, "/".toList, some "PAGE=2&b%20%26=1&&%ff=3&n=4&??x".toList,
        some "f".toList⟩ ∧
    ∃ m : Url, mergeIntoUrl "http://h/?PAGE=2&b%20%26=1&&%ff=3&n=4&??x#f".toList tagged = .ok m.toChars ∧
      m.query = some "PAGE=2&%ff=3&??x&b%20%26=v".toList ∧
      mergeIntoUrl m.toChars tagged = .ok m.toChars := by
  have hurl : Url.ofText? "http://h/?PAGE=2&b%20%26=1&&%ff=3&n=4&??x#f".toList =
      .ok ⟨"http".toList, some "h".toList, "/".toList, some "PAGE=2&b%20%26=1&&%ff=3&n=4&??x".toList,
        some "f".toList⟩ := by
    decide +kernel
  obtain ⟨m, hmerge, -, hquery, -, hagain⟩ := merged_keeps_hosts hurl tagged
  have hkept : kept tagged "PAGE=2&b%20%26=1&&%ff=3&n=4&??x".toList =
      ["PAGE=2".toList, "%ff=3".toList, "??x".toList] := by
    decide +kernel
  have hactive : written tagged = [⟨"b &", .text, .text "v"⟩] :=
    List.perm_singleton.mp ((List.mergeSort_perm tagged.controls _).filter _)
  have hwritten : encodeQuery tagged = "b%20%26=v".toList := by
    rw [encodeQuery, hactive]
    decide +kernel
  refine ⟨hurl, m, hmerge, hquery.trans ?_, hagain⟩
  rw [← kept_eq, hwritten]
  exact (congrArg (queryOf · _) hkept).trans (by decide)

end LinkedControls.Link
