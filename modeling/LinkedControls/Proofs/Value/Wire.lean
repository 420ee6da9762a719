import LinkedControls.Value.Wire
import LinkedControls.Proofs.Calendar.DateText
import LinkedControls.Proofs.Decimal.ReadBack
import LinkedControls.Proofs.Text.Percent
import LinkedControls.Proofs.Text.Split
import Mathlib.Data.Bool.AllAny

/-!
What a value is after it has been written into a link and read again: itself when it fits its control
and is finite; null when it does not fit or is a number that is not finite; and a range without the
bounds that are not finite.
-/

namespace LinkedControls

open Decimal Calendar Text

namespace Value

def finitePart : Value → Value
  | .number x => if x.isFinite then .number x else .null
  | .numberRange r => .numberRange (r.filterMap fun x => if x.isFinite then some x else none)
  | v => v

/-- What a link can carry of a value to a control of kind `k`. -/
def carried (v : Value) (k : Kind) : Value := if v.fits k then v.finitePart else .null

theorem filterMap_eq_self {r : Range Binary64} :
    (r.filterMap fun x => if x.isFinite then some x else none) = r ↔
      r.lower.all (·.isFinite) = true ∧ r.upper.all (·.isFinite) = true := by
  have bound (b : Option Binary64) :
      (b.bind fun x => if x.isFinite then some x else none) = b ↔ b.all (·.isFinite) = true := by
    cases b with
    | none => simp
    | some x => cases hx : x.isFinite <;> simp [hx]
  obtain ⟨lower, upper⟩ := r
  simp [Range.filterMap, bound]

theorem finitePart_eq_self {v : Value} : v.finitePart = v ↔ v.isFinite = true := by
  cases v with
  | number x => cases hx : x.isFinite <;> simp [finitePart, isFinite, hx]
  | numberRange r => simp [finitePart, isFinite, filterMap_eq_self]
  | _ => simp [finitePart, isFinite]

theorem carried_eq_self {v : Value} {k : Kind} :
    v.carried k = v ↔ v.fits k = true ∧ v.isFinite = true := by
  unfold carried
  cases hk : v.fits k with
  | true => simp [finitePart_eq_self]
  | false =>
    have hnull : Value.null ≠ v := by
      rintro rfl
      cases hk
    simp [hnull]

end Value

namespace Wire

def IsToken (raw : List Char) : Prop := raw = nullToken ∨ raw = [] ∨ raw = emptyToken

theorem not_isToken_of_not_mem {raw : List Char} (hne : raw ≠ []) (h : '~' ∉ raw) :
    ¬ IsToken raw := by
  rintro (rfl | rfl | rfl)
  · exact h (by decide)
  · exact hne rfl
  · exact h (by decide)

def content (raw : List Char) : Kind → Value
  | .text => Value.ofBound (fun s => .text (String.ofList s)) (unescapeComponent? raw)
  | .number => Value.ofBound .number (decodeScalar? Binary64.finiteOfText? raw)
  | .boolean => Value.ofBound .boolean (decodeScalar? decodeBool? raw)
  | .date => Value.ofBound .date (decodeScalar? Date.ofText? raw)
  | .numberRange => Value.ofBound .numberRange (decodeRange? Binary64.finiteOfText? raw)
  | .dateRange => Value.ofBound .dateRange (decodeRange? Date.ofText? raw)
  | .list => Value.ofBound .list ((splitOn ',' raw).mapM decodeItem?)

theorem decode_eq_content {raw : List Char} (h : ¬ IsToken raw) (k : Kind) :
    decode raw k = content raw k := by
  simp only [IsToken, not_or] at h
  unfold decode
  rw [if_neg (not_or.mpr ⟨h.1, h.2.1⟩), if_neg h.2.2]
  cases k <;> rfl

theorem decode_nullToken (k : Kind) : decode nullToken k = .null := if_pos (.inl rfl)

theorem tilde_not_mem_escapeComponent (s : List Char) : '~' ∉ escapeComponent s :=
  not_mem_escapeComponent (by decide) (by decide) s

theorem decode_encode_text (s : String) : decode (encode (.text s) .text) .text = .text s := by
  by_cases h : s.isEmpty = true
  · have hs : s = "" := by simpa using h
    subst hs
    decide
  · have hne : escapeComponent s.toList ≠ [] := by
      rw [Ne, escapeComponent_eq_nil]
      simpa using h
    have htoken := not_isToken_of_not_mem hne (tilde_not_mem_escapeComponent s.toList)
    have hencode : encode (.text s) .text = escapeComponent s.toList := by
      simp [encode, Value.fits, Value.kind?, h]
    rw [hencode, decode_eq_content htoken, content, unescapeComponent?_escapeComponent]
    simp [Value.ofBound]

theorem encodeItem_of_ne {item : String} (h : item ≠ "") :
    encodeItem item = escapeComponent item.toList := by
  simp [encodeItem, h]

theorem escapeComponent_toList_ne_nil {s : String} (h : s ≠ "") : escapeComponent s.toList ≠ [] := by
  rw [Ne, escapeComponent_eq_nil]
  simpa using h

theorem decodeItem?_encodeItem (item : String) : decodeItem? (encodeItem item) = some item := by
  by_cases h : item = ""
  · subst h
    rfl
  · have htoken : escapeComponent item.toList ≠ emptyItemToken := by
      intro he
      exact tilde_not_mem_escapeComponent item.toList (he ▸ List.mem_cons_self)
    rw [encodeItem_of_ne h, decodeItem?, if_neg htoken, unescapeComponent?_escapeComponent]
    exact congrArg some String.ofList_toList

theorem comma_not_mem_encodeItem (item : String) : ',' ∉ encodeItem item := by
  by_cases h : item = ""
  · subst h
    decide
  · rw [encodeItem_of_ne h]
    exact not_mem_escapeComponent (by decide) (by decide) item.toList

theorem not_isToken_encodeItem (item : String) : ¬ IsToken (encodeItem item) := by
  by_cases h : item = ""
  · subst h
    rintro (he | he | he) <;> exact absurd he (by decide)
  · rw [encodeItem_of_ne h]
    exact not_isToken_of_not_mem (escapeComponent_toList_ne_nil h) (tilde_not_mem_escapeComponent _)

theorem splitOn_of_isToken {raw : List Char} (h : IsToken raw) : splitOn ',' raw = [raw] := by
  rcases h with rfl | rfl | rfl <;> rfl

theorem splitOn_encodeItems {items : List String} (hne : items ≠ []) :
    splitOn ',' (join [','] (items.map encodeItem)) = items.map encodeItem := by
  refine splitOn_join (by simpa using hne) fun piece hpiece => ?_
  obtain ⟨item, _, rfl⟩ := List.mem_map.mp hpiece
  exact comma_not_mem_encodeItem item

theorem mapM_decodeItem? (items : List String) :
    (items.map encodeItem).mapM decodeItem? = some items := by
  induction items with
  | nil => rfl
  | cons item items ih => simp [decodeItem?_encodeItem, ih]

theorem decode_encode_list (items : List String) :
    decode (encode (.list items) .list) .list = .list items := by
  by_cases h : items = []
  · subst h
    decide
  · have hsplit := splitOn_encodeItems h
    have htoken : ¬ IsToken (join [','] (items.map encodeItem)) := by
      intro ht
      rw [splitOn_of_isToken ht] at hsplit
      obtain ⟨item, _, hitem⟩ := List.mem_map.mp (hsplit ▸ List.mem_singleton_self _)
      exact not_isToken_encodeItem item (hitem ▸ ht)
    have hencode : encode (.list items) .list = join [','] (items.map encodeItem) := by
      simp [encode, Value.fits, Value.kind?, h]
    rw [hencode, decode_eq_content htoken, content, hsplit, mapM_decodeItem?]
    rfl

structure Written {α : Type} (read : List Char → Option α) (a : α) (s : List Char) : Prop where
  read : read s = some a
  ne_nil : s ≠ []
  plain : ∀ c ∈ s, c ≠ '%' ∧ c ≠ '~' ∧ c ≠ ',' ∧ isBlank c = false

theorem plain_of_isDigit {c : Char} (h : isDigit c = true) :
    c ≠ '%' ∧ c ≠ '~' ∧ c ≠ ',' ∧ isBlank c = false := by
  refine ⟨?_, ?_, ?_, Binary64.isBlank_of_isDigit h⟩ <;> rintro rfl <;> exact absurd h (by decide)

theorem written_number {x : Binary64} (h : x.isFinite = true) :
    Written Binary64.finiteOfText? x x.toText.toList where
  read := Binary64.finiteOfText?_toText h
  ne_nil := by
    intro hnil
    have hread := Binary64.finiteOfText?_toText h
    rw [hnil] at hread
    cases hread
  plain c hc := by
    rcases Binary64.mem_toText h hc with hd | rfl | rfl
    · exact plain_of_isDigit hd
    · decide
    · decide

theorem written_date (d : Date) : Written Date.ofText? d d.toChars where
  read := ofText?_toChars d
  ne_nil := by
    rw [toChars_eq]
    exact List.append_ne_nil_of_right_ne_nil _ (List.cons_ne_nil _ _)
  plain c hc := by
    rcases mem_toChars hc with hd | rfl | rfl
    · exact plain_of_isDigit hd
    · decide
    · decide

namespace Written

variable {α : Type} {read : List Char → Option α} {a : α} {s : List Char}

theorem not_isToken (h : Written read a s) : ¬ IsToken s :=
  not_isToken_of_not_mem h.ne_nil fun hm => (h.plain _ hm).2.1 rfl

theorem decodeScalar? (h : Written read a s) : decodeScalar? read s = some a := by
  have hs := unescapeComponent?_of_not_mem fun hm => (h.plain _ hm).1 rfl
  rw [Wire.decodeScalar?, hs]
  exact h.read

end Written

theorem decode_encode_number (x : Binary64) :
    decode (encode (.number x) .number) .number = (Value.number x).finitePart := by
  cases hx : x.isFinite with
  | true =>
    have hw := written_number hx
    have hencode : encode (.number x) .number = x.toText.toList := by
      simp [encode, Value.fits, Value.kind?, encodeNumber, hx]
    rw [hencode, decode_eq_content hw.not_isToken, content, hw.decodeScalar?]
    simp [Value.ofBound, Value.finitePart, hx]
  | false =>
    have hencode : encode (.number x) .number = nullToken := by
      simp [encode, Value.fits, Value.kind?, encodeNumber, hx]
    rw [hencode, decode_nullToken]
    simp [Value.finitePart, hx]

theorem decode_encode_boolean (b : Bool) :
    decode (encode (.boolean b) .boolean) .boolean = .boolean b := by
  cases b <;> decide

theorem decode_encode_date (d : Date) : decode (encode (.date d) .date) .date = .date d := by
  have hw := written_date d
  have hencode : encode (.date d) .date = d.toChars := rfl
  rw [hencode, decode_eq_content hw.not_isToken, content, hw.decodeScalar?]
  rfl

variable {α : Type} {read : List Char → Option α} {write : α → Option (List Char)}

/-- A bound without a written form is left open. -/
def writable (write : α → Option (List Char)) (a : α) : Option α := (write a).map fun _ => a

theorem decodeBound?_encodeBound (h : ∀ a s, write a = some s → Written read a s) (b : Option α) :
    decodeBound? read (encodeBound write b) = some (b.bind (writable write)) := by
  cases b with
  | none => rfl
  | some a =>
    cases hs : write a with
    | none => simp [encodeBound, decodeBound?, writable, hs]
    | some s => simp [encodeBound, decodeBound?, writable, hs, (h a s hs).ne_nil, (h a s hs).read]

theorem mem_encodeBound {b : Option α} {c : Char} (hc : c ∈ encodeBound write b) :
    ∃ a s, write a = some s ∧ c ∈ s := by
  cases hb : b.bind write with
  | none =>
    rw [encodeBound, hb] at hc
    cases hc
  | some s =>
    obtain ⟨a, -, hs⟩ := Option.bind_eq_some_iff.mp hb
    rw [encodeBound, hb] at hc
    exact ⟨a, s, hs, hc⟩

theorem plain_encodeBound (h : ∀ a s, write a = some s → Written read a s) (b : Option α) :
    ∀ c ∈ encodeBound write b, c ≠ ',' ∧ isBlank c = false := by
  intro c hc
  obtain ⟨a, s, hs, hc⟩ := mem_encodeBound hc
  exact ((h a s hs).plain c hc).2.2

theorem encodeRange_eq (r : Range α) :
    encodeRange write r =
      (lowerMark ++ encodeBound write r.lower) ++ ',' :: (upperMark ++ encodeBound write r.upper) := by
  simp [encodeRange]

theorem plain_marked (mark : List Char) {s : List Char} (hmark : ∀ c ∈ mark, c ≠ ',' ∧ isBlank c = false)
    (hs : ∀ c ∈ s, c ≠ ',' ∧ isBlank c = false) :
    ',' ∉ mark ++ s ∧ trim (mark ++ s) = mark ++ s := by
  have hall : ∀ c ∈ mark ++ s, c ≠ ',' ∧ isBlank c = false := by
    intro c hc
    rcases List.mem_append.mp hc with h | h
    · exact hmark c h
    · exact hs c h
  exact ⟨fun hc => (hall _ hc).1 rfl, trim_of_forall fun c hc => (hall c hc).2⟩

theorem decodeRange?_encodeRange (h : ∀ a s, write a = some s → Written read a s) (r : Range α) :
    decodeRange? read (encodeRange write r) = some (r.filterMap (writable write)) := by
  have hlower := plain_marked lowerMark (List.all_iff_forall_prop.mp (by decide)) (plain_encodeBound h r.lower)
  have hupper := plain_marked upperMark (List.all_iff_forall_prop.mp (by decide)) (plain_encodeBound h r.upper)
  have hlead : lowerMark.isPrefixOf (encodeRange write r) = true := by
    rw [encodeRange_eq, List.append_assoc]
    exact List.isPrefixOf_iff_prefix.mpr (List.prefix_append _ _)
  have hsplit := splitFirst_append hlower.1 (upperMark ++ encodeBound write r.upper)
  rw [← encodeRange_eq] at hsplit
  simp only [decodeRange?, if_pos hlead, hsplit, hlower.2, hupper.2, afterLead_append,
    decodeBound?_encodeBound h, Option.bind_eq_bind, Option.bind_some, Option.pure_def]
  rfl

theorem not_isToken_encodeRange (r : Range α) : ¬ IsToken (encodeRange write r) := by
  rw [encodeRange_eq]
  rintro (he | he | he) <;> cases he

theorem decode_encode_numberRange (r : Range Binary64) :
    decode (encode (.numberRange r) .numberRange) .numberRange = (Value.numberRange r).finitePart := by
  have hwritten : ∀ x s, encodeNumber x = some s → Written Binary64.finiteOfText? x s := by
    intro x s hs
    obtain ⟨hx, rfl⟩ : x.isFinite = true ∧ x.toText.toList = s := by simpa [encodeNumber] using hs
    exact written_number hx
  have hkept : writable encodeNumber = fun x => if x.isFinite then some x else none := by
    funext x
    cases hx : x.isFinite <;> simp [writable, encodeNumber, hx]
  have hencode : encode (.numberRange r) .numberRange = encodeRange encodeNumber r := rfl
  rw [hencode, decode_eq_content (not_isToken_encodeRange r), content,
    decodeRange?_encodeRange hwritten, hkept]
  rfl

theorem decode_encode_dateRange (r : Range Date) :
    decode (encode (.dateRange r) .dateRange) .dateRange = .dateRange r := by
  have hwritten : ∀ d s, some d.toChars = some s → Written Date.ofText? d s := by
    intro d s hs
    exact Option.some.inj hs ▸ written_date d
  have hkept : r.filterMap (writable fun d : Date => some d.toChars) = r := by
    have hsome : (writable fun d : Date => some d.toChars) = some := rfl
    rw [hsome]
    cases r
    simp [Range.filterMap]
  have hencode :
      encode (.dateRange r) .dateRange = encodeRange (fun d : Date => some d.toChars) r := rfl
  rw [hencode, decode_eq_content (not_isToken_encodeRange r), content,
    decodeRange?_encodeRange hwritten, hkept]
  rfl

theorem decode_encode_of_kind? {v : Value} {k : Kind} (h : v.kind? = some k) :
    decode (encode v k) k = v.finitePart := by
  cases v with
  | null => cases h
  | text s => cases h; exact decode_encode_text s
  | number x => cases h; exact decode_encode_number x
  | boolean b => cases h; exact decode_encode_boolean b
  | date d => cases h; exact decode_encode_date d
  | dateRange r => cases h; exact decode_encode_dateRange r
  | numberRange r => cases h; exact decode_encode_numberRange r
  | list items => cases h; exact decode_encode_list items

theorem encode_of_not_fits {v : Value} {k : Kind} (h : v.fits k = false) : encode v k = nullToken := by
  simp [encode, h]

theorem decode_encode (v : Value) (k : Kind) : decode (encode v k) k = v.carried k := by
  cases hfits : v.fits k with
  | false => simp [encode_of_not_fits hfits, decode_nullToken, Value.carried, hfits]
  | true =>
    rw [Value.carried, if_pos hfits]
    cases hk : v.kind? with
    | some own =>
      have hown : own = k := by simpa [Value.fits, hk] using hfits
      exact decode_encode_of_kind? (hown ▸ hk)
    | none =>
      have hnull : v = .null := by cases v <;> simp_all [Value.kind?]
      subst hnull
      exact decode_nullToken k

theorem decode_encode_eq_self_iff (v : Value) (k : Kind) :
    decode (encode v k) k = v ↔ v.fits k = true ∧ v.isFinite = true := by
  rw [decode_encode, Value.carried_eq_self]

end Wire

end LinkedControls
