import LinkedControls.Proofs.Json.Fields
import LinkedControls.Proofs.Link.Ledger
import LinkedControls.Proofs.Store.Reachable
import LinkedControls.Proofs.Value.WireAlphabet

/-!
The way of a state through a link: what a store with the same controls has after it has taken in a link
to the state of another store.
-/

namespace LinkedControls

open Text

namespace Link

def addressOf (c : Control) : Address := ⟨c.id, c.kind, Wire.encode c.value c.kind⟩

theorem mem_encodePair {c : Control} {d : Char} (h : d ∈ encodePair c) :
    Wire.IsWireCharacter d ∨ d = '=' := by
  rcases List.mem_append.mp h with h | h
  · exact .inl (Wire.isWireCharacter_of_escapeComponent h)
  · rcases List.mem_cons.mp h with h | h
    · exact .inr h
    · exact .inl (Wire.isWireCharacter_of_mem_encode h)

theorem not_mem_encodePair {d : Char} (hwire : ¬ Wire.IsWireCharacter d) (heq : d ≠ '=')
    (c : Control) : d ∉ encodePair c :=
  fun h => (mem_encodePair h).elim hwire heq

theorem splitPair_encodePair (c : Control) :
    splitPair (encodePair c) = (escapeComponent c.id.toList, Wire.encode c.value c.kind) := by
  have hkey : '=' ∉ escapeComponent c.id.toList := not_mem_escapeComponent (by decide) (by decide) _
  rw [splitPair, encodePair, splitFirst_append hkey]
  rfl

theorem encodePair_ne_nil (c : Control) : encodePair c ≠ [] :=
  List.append_ne_nil_of_right_ne_nil _ (List.cons_ne_nil _ _)

theorem unmarked_of_not_mem {query : List Char} (h : '?' ∉ query) : unmarked query = query := by
  unfold unmarked
  split
  · exact absurd List.mem_cons_self h
  · rfl

theorem unmarked_encodeQuery (s : Snapshot) : unmarked (encodeQuery s) = encodeQuery s := by
  refine unmarked_of_not_mem fun h => ?_
  rcases mem_join h with h | ⟨pair, hpair, h⟩
  · exact absurd h (by decide)
  · obtain ⟨c, -, rfl⟩ := List.mem_map.mp hpair
    exact not_mem_encodePair (by decide) (by decide) c h

theorem pairs_join {ps : List (List Char)} (h : ∀ p ∈ ps, p ≠ [] ∧ '&' ∉ p) :
    pairs (join ['&'] ps) = ps := by
  cases ps with
  | nil => rfl
  | cons p ps =>
    rw [pairs, splitOn_join (by simp) fun q hq => (h q hq).2]
    exact List.filter_eq_self.mpr fun q hq => by simp [(h q hq).1]

theorem of_mem_map_encodePair {cs : List Control} {p : List Char} (hp : p ∈ cs.map encodePair) :
    p ≠ [] ∧ '&' ∉ p := by
  obtain ⟨c, -, rfl⟩ := List.mem_map.mp hp
  exact ⟨encodePair_ne_nil c, not_mem_encodePair (by decide) (by decide) c⟩

theorem pairs_encodeQuery (s : Snapshot) : pairs (encodeQuery s) = (written s).map encodePair :=
  pairs_join fun _ => of_mem_map_encodePair

theorem mem_written {s : Snapshot} {c : Control} :
    c ∈ written s ↔ c ∈ s.controls ∧ c.isActive = true ∧ isReserved c.id = false := by
  simp [written, Snapshot.sorted]

theorem nodup_written {s : Snapshot} (h : (s.controls.map (·.id)).Nodup) :
    ((written s).map (·.id)).Nodup := by
  have hsorted := (List.mergeSort_perm s.controls fun c d => c.id ≤ d.id).map (·.id)
  exact (hsorted.nodup_iff.mpr h).sublist (List.filter_sublist.map _)

variable {kinds : List (String × Kind)} {limits : Limits} {s : Snapshot}

theorem address?_encodePair {c : Control} (hfree : isReserved c.id = false)
    (hkind : kinds.lookup c.id = some c.kind) :
    address? kinds (encodePair c) = some (addressOf c) := by
  refine address?_eq_some.mpr ⟨?_, hfree, hkind, ?_⟩
  · rw [splitPair_encodePair]
    exact unescapeComponent?_escapeComponent _
  · rw [splitPair_encodePair]
    rfl

theorem filterMap_address?_encodePair {cs : List Control}
    (h : ∀ c ∈ cs, isReserved c.id = false ∧ kinds.lookup c.id = some c.kind) :
    (cs.map encodePair).filterMap (address? kinds) = cs.map addressOf := by
  induction cs with
  | nil => rfl
  | cons c cs ih =>
    obtain ⟨⟨hfree, hkind⟩, hcs⟩ := List.forall_mem_cons.mp h
    rw [List.map_cons, List.filterMap_cons_some (address?_encodePair hfree hkind), ih hcs,
      List.map_cons]

theorem readings_encodeQuery (hkinds : ∀ c ∈ s.controls, kinds.lookup c.id = some c.kind) :
    readings (encodeQuery s) kinds limits = readAll limits 0 ((written s).map addressOf) := by
  rw [readings, unmarked_encodeQuery, pairs_encodeQuery, filterMap_address?_encodePair]
  intro c hc
  obtain ⟨hmem, -, hfree⟩ := mem_written.mp hc
  exact ⟨hfree, hkinds c hmem⟩

-- a value that is written and can be carried is never undecodable: it reads as itself and not as null
theorem outcome_of_addressOf {c : Control} {n : Nat} (hactive : c.isActive = true)
    (hcarried : c.value.carried c.kind = c.value) :
    readValue limits n c.kind (Wire.encode c.value c.kind) = .ok c.value ∨
      ∃ reason, readValue limits n c.kind (Wire.encode c.value c.kind) = .error reason ∧
        reason ≠ .undecodable := by
  have hread : Wire.decode (Wire.encode c.value c.kind) c.kind = c.value := by
    rw [Wire.decode_encode, hcarried]
  cases h : readValue limits n c.kind (Wire.encode c.value c.kind) with
  | ok v =>
    obtain ⟨-, -, -, rfl⟩ := of_readValue_ok h
    rw [hread]
    exact .inl rfl
  | error reason =>
    refine .inr ⟨reason, rfl, ?_⟩
    rintro rfl
    have hnull := isNull_of_readValue_undecodable h
    rw [hread] at hnull
    rw [Control.isActive] at hactive
    cases hv : c.value <;> simp [hv, Value.isNull, Value.isActive] at hnull hactive

structure TakesIn (values : List (String × Value)) (before after : Store) : Prop where
  taken : ∀ id v, (id, v) ∈ values →
    after.get? id = (before.get? id).map fun c => { c with value := v }
  kept : ∀ id, id ∉ values.map (·.1) → after.get? id = before.get? id

def takeIn (taken : Nat × Store) (field : String × Value) : Nat × Store :=
  match taken.2.write field.1 field.2 .url with
  | .ok (store, _) => (taken.1 + 1, store)
  | .error _ => taken

theorem applyTo_eq_foldl (store : Store) (values : List (String × Value)) :
    applyTo store values = values.foldl takeIn (0, store) := rfl

theorem foldl_takeIn {values : List (String × Value)} (hn : (values.map (·.1)).Nodup)
    {store : Store}
    (hfits : ∀ id v, (id, v) ∈ values → ∃ k, store.kindOf? id = some k ∧ v.fits k = true) (n : Nat) :
    ∃ after, values.foldl takeIn (n, store) = (n + values.length, after) ∧
      TakesIn values store after := by
  induction values generalizing store n with
  | nil => exact ⟨store, rfl, fun id v h => absurd h List.not_mem_nil, fun id _ => rfl⟩
  | cons field values ih =>
    obtain ⟨id, v⟩ := field
    obtain ⟨hid, hrest⟩ := List.nodup_cons.mp hn
    obtain ⟨k, hkind, hv⟩ := hfits id v List.mem_cons_self
    obtain ⟨next, change, hwrite, hafter⟩ := Store.write_of_fits hkind hv .url
    have hnext : ∀ i w, (i, w) ∈ values → ∃ k, next.kindOf? i = some k ∧ w.fits k = true := by
      intro i w hi
      rw [Store.kindOf?_write hwrite]
      exact hfits i w (List.mem_cons_of_mem _ hi)
    obtain ⟨after, hfold, htakes⟩ := ih hrest hnext (n + 1)
    refine ⟨after, ?_, fun i w hi => ?_, fun i hi => ?_⟩
    · have hstep : takeIn (n, store) (id, v) = (n + 1, next) := by simp [takeIn, hwrite]
      rw [List.foldl_cons, hstep, hfold, List.length_cons, Nat.add_right_comm, Nat.add_assoc]
    · rcases List.mem_cons.mp hi with he | hi
      · cases he
        rw [htakes.kept id hid, Store.get?_write hwrite, if_pos rfl, hafter]
      · have hne : i ≠ id := fun he => hid (he ▸ List.mem_map_of_mem (f := (·.1)) hi)
        rw [htakes.taken i w hi, Store.get?_write_of_ne hwrite hne]
    · obtain ⟨hne, hi⟩ := not_or.mp (mt List.mem_cons.mpr hi)
      rw [htakes.kept i hi, Store.get?_write_of_ne hwrite hne]

theorem applyTo_takesIn {values : List (String × Value)} (hn : (values.map (·.1)).Nodup)
    {store : Store}
    (hfits : ∀ id v, (id, v) ∈ values → ∃ k, store.kindOf? id = some k ∧ v.fits k = true) :
    (applyTo store values).1 = values.length ∧ TakesIn values store (applyTo store values).2 := by
  obtain ⟨after, hfold, htakes⟩ := foldl_takeIn hn hfits 0
  rw [applyTo_eq_foldl, hfold]
  exact ⟨Nat.zero_add _, htakes⟩

variable {a b : Store}

def Reading.IsOf (r : Reading) (c : Control) : Prop :=
  r.address.key = c.id ∧ (r.outcome = .ok c.value ∨
    ∃ reason, r.outcome = .error reason ∧ reason ≠ .undecodable)

structure Covers (rs : List Reading) (cs : List Control) : Prop where
  unique : (rs.map (·.address.key)).Nodup
  control : ∀ r ∈ rs, ∃ c ∈ cs, r.IsOf c
  reading : ∀ c ∈ cs, ∃ r ∈ rs, r.IsOf c

theorem covers_readAll (ha : a.Sound) (hfinite : ∀ c ∈ a.controls, c.value.isFinite = true)
    (limits : Limits) :
    Covers (readAll limits 0 ((written a.snapshot).map addressOf)) (written a.snapshot) := by
  have haddress := map_address_readAll limits 0 ((written a.snapshot).map addressOf)
  generalize hrs : readAll limits 0 ((written a.snapshot).map addressOf) = rs at haddress ⊢
  have hkey : rs.map (·.address.key) = (written a.snapshot).map (·.id) := by
    have hmap := congrArg (List.map Address.key) haddress
    simpa [List.map_map, Function.comp_def, addressOf] using hmap
  have hisOf : ∀ r ∈ rs, ∀ c ∈ written a.snapshot, addressOf c = r.address → r.IsOf c := by
    intro r hr c hc he
    obtain ⟨hmem, hactive, -⟩ := mem_written.mp hc
    obtain ⟨n, hn⟩ := exists_readValue (hrs ▸ hr)
    rw [Reading.IsOf, hn, ← he]
    exact ⟨rfl, outcome_of_addressOf hactive
      (Value.carried_eq_self.mpr ⟨ha.fits c hmem, hfinite c hmem⟩)⟩
  refine ⟨hkey ▸ nodup_written ha.nodup, fun r hr => ?_, fun c hc => ?_⟩
  · obtain ⟨c, hc, he⟩ := List.mem_map.mp (haddress ▸ List.mem_map_of_mem (f := Reading.address) hr)
    exact ⟨c, hc, hisOf r hr c hc he⟩
  · obtain ⟨r, hr, he⟩ := List.mem_map.mp (haddress.symm ▸ List.mem_map_of_mem hc)
    exact ⟨r, hr, hisOf r hr c hc he.symm⟩

namespace Covers

variable {rs : List Reading} {cs : List Control}

theorem eq_of_key (h : Covers rs cs) {r r' : Reading} (hr : r ∈ rs) (hr' : r' ∈ rs)
    (hkey : r.address.key = r'.address.key) : r = r' :=
  List.inj_on_of_nodup_map h.unique hr hr' hkey

theorem perm (h : Covers rs cs) : (Json.sortFields (accepted rs)).Perm (accepted rs) :=
  Json.sortFields_perm (h.unique.sublist (map_key_accepted_sublist rs))

theorem nodup (h : Covers rs cs) : ((Json.sortFields (accepted rs)).map (·.1)).Nodup :=
  (h.perm.map _).nodup_iff.mpr (h.unique.sublist (map_key_accepted_sublist rs))

theorem mem_values (h : Covers rs cs) {id : String} {v : Value} :
    (id, v) ∈ Json.sortFields (accepted rs) ↔
      ∃ r ∈ rs, r.address.key = id ∧ r.outcome = .ok v := by
  rw [h.perm.mem_iff, mem_accepted]

theorem eq_of_mem_values (h : Covers rs cs) {id : String} {v : Value}
    (hv : (id, v) ∈ Json.sortFields (accepted rs)) : ∃ c ∈ cs, c.id = id ∧ c.value = v := by
  obtain ⟨r, hr, rfl, hok⟩ := h.mem_values.mp hv
  obtain ⟨c, hc, hkey, hout | ⟨reason, hout, -⟩⟩ := h.control r hr
  · rw [hok] at hout
    cases hout
    exact ⟨c, hc, hkey.symm, rfl⟩
  · rw [hok] at hout
    cases hout

-- each control is either among the values, with its own, or among the rejected, and never among both
theorem value_or_rejected (h : Covers rs cs) {c : Control} (hc : c ∈ cs) :
    ((c.id, c.value) ∈ Json.sortFields (accepted rs) ∧ ∀ x ∈ rejected rs, x.key ≠ c.id) ∨
      (c.id ∉ (Json.sortFields (accepted rs)).map (·.1) ∧ ∃ x ∈ rejected rs, x.key = c.id) := by
  obtain ⟨r, hr, hkey, hout | ⟨reason, hout, -⟩⟩ := h.reading c hc
  · refine .inl ⟨h.mem_values.mpr ⟨r, hr, hkey, hout⟩, fun x hx he => ?_⟩
    obtain ⟨r', hr', hkey', hout'⟩ := mem_rejected.mp hx
    obtain rfl := h.eq_of_key hr hr' (by rw [hkey, hkey', he])
    rw [hout] at hout'
    cases hout'
  · refine .inr ⟨fun hmem => ?_, ⟨c.id, reason⟩, mem_rejected.mpr ⟨r, hr, hkey, hout⟩, rfl⟩
    obtain ⟨⟨id, v⟩, hv, rfl⟩ := List.mem_map.mp hmem
    obtain ⟨r', hr', hkey', hout'⟩ := h.mem_values.mp hv
    obtain rfl := h.eq_of_key hr hr' (by rw [hkey, hkey'])
    rw [hout] at hout'
    cases hout'

theorem of_mem_rejected (h : Covers rs cs) {x : Rejected} (hx : x ∈ rejected rs) :
    x.reason ≠ .undecodable ∧ ∃ c ∈ cs, c.id = x.key := by
  obtain ⟨r, hr, hkey, herror⟩ := mem_rejected.mp hx
  obtain ⟨c, hc, hid, hout | ⟨reason, hout, hreason⟩⟩ := h.control r hr
  · rw [herror] at hout
    cases hout
  · rw [herror] at hout
    cases hout
    exact ⟨hreason, c, hc, hid.symm.trans hkey⟩

theorem takesIn (h : Covers rs (written a.snapshot)) (ha : a.Sound)
    (hkinds : ∀ id, a.kindOf? id = b.kindOf? id) {values : List (String × Value)}
    (hvalues : values = Json.sortFields (accepted rs)) :
    (applyTo b values).1 = values.length ∧ TakesIn values b (applyTo b values).2 := by
  subst hvalues
  refine applyTo_takesIn h.nodup fun id v hv => ?_
  obtain ⟨c, hc, rfl, rfl⟩ := h.eq_of_mem_values hv
  obtain ⟨hmem, -⟩ := mem_written.mp hc
  exact ⟨c.kind, hkinds c.id ▸ ha.kindOf?_of_mem hmem, ha.fits c hmem⟩

end Covers

theorem decodeQuery_encodeQuery (ha : a.Sound) (hkinds : ∀ id, a.kindOf? id = b.kindOf? id)
    (hfinite : ∀ c ∈ a.controls, c.value.isFinite = true) (limits : Limits) :
    ∃ rs, Covers rs (written a.snapshot) ∧
      decodeQuery (encodeQuery a.snapshot) b.snapshot.kinds limits =
        ⟨Json.sortFields (accepted rs), rejected rs⟩ := by
  have hlookup : ∀ c ∈ a.snapshot.controls, b.snapshot.kinds.lookup c.id = some c.kind := by
    intro c hc
    rw [Store.lookup_kinds, ← hkinds]
    exact ha.kindOf?_of_mem hc
  refine ⟨_, covers_readAll ha hfinite limits, ?_⟩
  rw [decodeQuery_eq, readings_encodeQuery hlookup]

theorem applyTo_decodeQuery_encodeQuery (ha : a.Reachable)
    (hkinds : ∀ id, a.kindOf? id = b.kindOf? id)
    (hfinite : ∀ c ∈ a.controls, c.value.isFinite = true) (limits : Limits) :
    let d := decodeQuery (encodeQuery a.snapshot) b.snapshot.kinds limits
    let r := applyTo b d.values
    r.1 = d.values.length ∧
    (∀ c ∈ a.controls, c.isActive = true → isReserved c.id = false →
      (r.2.get? c.id = some c ∧ ∀ x ∈ d.rejected, x.key ≠ c.id) ∨
      ∃ x ∈ d.rejected, x.key = c.id ∧ r.2.get? c.id = b.get? c.id) ∧
    (∀ id, (∀ c ∈ a.controls, c.id = id → c.isActive = false ∨ isReserved id = true) →
      r.2.get? id = b.get? id) ∧
    ∀ x ∈ d.rejected, x.reason ≠ .undecodable ∧
      ∃ c ∈ a.controls, c.id = x.key ∧ c.isActive = true ∧ isReserved c.id = false := by
  intro d r
  obtain ⟨rs, hcovers, hd⟩ := decodeQuery_encodeQuery ha.sound hkinds hfinite limits
  have hvalues : d.values = Json.sortFields (accepted rs) := congrArg (·.values) hd
  have hrejected : d.rejected = rejected rs := congrArg (·.rejected) hd
  obtain ⟨hcount, htakes⟩ : r.1 = d.values.length ∧ TakesIn d.values b r.2 :=
    hcovers.takesIn ha.sound hkinds hvalues
  refine ⟨hcount, fun c hc hactive hfree => ?_, fun id hid => htakes.kept id fun hmem => ?_,
    fun x hx => ?_⟩
  · rw [hrejected]
    rcases hcovers.value_or_rejected (mem_written.mpr ⟨hc, hactive, hfree⟩) with
      ⟨hv, hnone⟩ | ⟨hnot, x, hx, hkey⟩
    · have hkind : b.kindOf? c.id = some c.kind := hkinds c.id ▸ ha.sound.kindOf?_of_mem hc
      obtain ⟨c', hc', hsame⟩ := Option.map_eq_some_iff.mp hkind
      refine .inl ⟨?_, hnone⟩
      rw [htakes.taken c.id c.value (hvalues ▸ hv), hc', Option.map_some, hsame, Store.id_of_get? hc']
    · exact .inr ⟨x, hx, hkey, htakes.kept c.id (hvalues ▸ hnot)⟩
  · obtain ⟨⟨i, v⟩, hv, rfl⟩ := List.mem_map.mp hmem
    obtain ⟨c, hc, hci, -⟩ := hcovers.eq_of_mem_values (hvalues ▸ hv)
    obtain ⟨hmem, hactive, hfree⟩ := mem_written.mp hc
    rcases hid c hmem hci with h | h
    · rw [hactive] at h
      cases h
    · rw [← hci, hfree] at h
      cases h
  · obtain ⟨hreason, c, hc, hkey⟩ := hcovers.of_mem_rejected (hrejected ▸ hx)
    obtain ⟨hmem, hactive, hfree⟩ := mem_written.mp hc
    exact ⟨hreason, c, hmem, hkey, hactive, hfree⟩

def regional (v : Value) : Store := ⟨[⟨"région", .text, v⟩], 1, []⟩

theorem applyTo_regional :
    let d := decodeQuery (encodeQuery (regional (.text "a&b=~e")).snapshot)
      (regional .null).snapshot.kinds .default
    let r := applyTo (regional .null) d.values
    (regional (.text "a&b=~e")).Reachable ∧ r.1 = d.values.length ∧
      ((r.2.get? "région" = some ⟨"région", .text, .text "a&b=~e"⟩ ∧
          ∀ x ∈ d.rejected, x.key ≠ "région") ∨
        ∃ x ∈ d.rejected, x.key = "région" ∧
          r.2.get? "région" = (regional .null).get? "région") := by
  have hreachable : (regional (.text "a&b=~e")).Reachable :=
    .step (a := .register "région" .text (.text "a&b=~e")) .empty rfl
  have hkinds (id : String) :
      (regional (.text "a&b=~e")).kindOf? id = (regional .null).kindOf? id := by
    by_cases h : "région" = id <;> simp [Store.kindOf?, Store.get?, regional, h]
  obtain ⟨hcount, hshared, -⟩ :=
    applyTo_decodeQuery_encodeQuery hreachable hkinds (by decide) .default
  exact ⟨hreachable, hcount, hshared _ List.mem_cons_self rfl (by decide)⟩

end Link

end LinkedControls
