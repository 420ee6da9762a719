import LinkedControls.Proofs.Store.Erasure
import LinkedControls.Proofs.Sync.Combining
import LinkedControls.Proofs.Sync.Following

/-!
When a combined value leaves members with nothing that had something. Combining active values can come to
a value that is not active, since open sides stay open and values of other kinds do not count; and a rule
may ask for a side of the combined range that is open.
-/

namespace LinkedControls

open Decimal

theorem Value.isActive_numberRange {r : Range Binary64} :
    (numberRange r).isActive = false ↔ r.lower = none ∧ r.upper = none := by
  simp [isActive, Range.isOpen]

theorem Value.isActive_dateRange {r : Range Calendar.Date} :
    (dateRange r).isActive = false ↔ r.lower = none ∧ r.upper = none := by
  simp [isActive, Range.isOpen]

namespace Combinator

variable {f : Combinator} {vs : List Value}

/-- The combinator finds nothing to say in the values: none of its kind is among them, or no list with an
item, or one range is open below and one above. -/
def FindsNothing (f : Combinator) (vs : List Value) : Prop :=
  match f with
  | .union => ∀ l, .list l ∈ vs → l = []
  | .widest => (∀ r, .numberRange r ∉ vs) ∨
      (∃ r, .numberRange r ∈ vs ∧ r.lower = none) ∧ ∃ r, .numberRange r ∈ vs ∧ r.upper = none
  | .max => ∀ x, .number x ∉ vs
  | .min => ∀ x, .number x ∉ vs

theorem isActive_combine_numbers {pick : Binary64 → Binary64 → Binary64} :
    (Value.ofBound .number (combine pick (vs.filterMap number?))).isActive = false ↔
      ∀ x, .number x ∉ vs := by
  have hnil : vs.filterMap number? = [] ↔ ∀ x, .number x ∉ vs := by
    rw [List.eq_nil_iff_forall_not_mem]
    exact forall_congr' fun x => not_congr mem_numbers
  rw [← hnil, ← combine_eq_none_iff (f := pick)]
  cases combine pick (vs.filterMap number?) <;> simp [Value.ofBound, Value.isActive]

theorem isActive_combine_ranges (hfinite : ∀ v ∈ vs, v.isFinite = true) :
    (Value.ofBound .numberRange (combine joinRange (vs.filterMap range?))).isActive = false ↔
      Combinator.widest.FindsNothing vs := by
  have hside {P : Range Binary64 → Prop} :
      (∃ r ∈ vs.filterMap range?, P r) ↔ ∃ r, .numberRange r ∈ vs ∧ P r :=
    exists_congr fun r => and_congr_left' mem_ranges
  cases h : combine joinRange (vs.filterMap range?) with
  | none =>
    have hnil := combine_eq_none_iff.mp h
    refine iff_of_true rfl (.inl fun r hr => ?_)
    exact List.not_mem_nil (hnil ▸ mem_ranges.mpr hr)
  | some r =>
    have hspans : Spans r (vs.filterMap range?) := spans_combine (fun t ht => hfinite _ (mem_ranges.mp ht)) h
    obtain ⟨t, ht, -⟩ := hside.mp hspans.lower_mem
    refine Value.isActive_numberRange.trans ((and_congr ?_ ?_).trans (or_iff_right fun hno => hno t ht).symm)
    · exact hspans.lower_open.trans hside
    · exact hspans.upper_open.trans hside

theorem isActive_apply (f : Combinator) (hfinite : ∀ v ∈ vs, v.isFinite = true) :
    (f.apply vs).isActive = false ↔ f.FindsNothing vs := by
  cases f with
  | union =>
    have hunion := firstOccurrences_union vs
    have hempty : (Combinator.union.apply vs).isActive = false ↔
        (vs.map items).foldl addItems [] = [] := by
      simp [apply, Value.isActive]
    rw [hempty, List.eq_nil_iff_forall_not_mem]
    constructor
    · intro hnone l hl
      rw [List.eq_nil_iff_forall_not_mem]
      exact fun s hs => hnone s ((hunion.mem s).mpr (mem_flatMap_items.mpr ⟨l, hl, hs⟩))
    · intro hnothing s hs
      obtain ⟨l, hl, hsl⟩ := mem_flatMap_items.mp ((hunion.mem s).mp hs)
      rw [hnothing l hl] at hsl
      cases hsl
  | widest => exact isActive_combine_ranges hfinite
  | max => exact isActive_combine_numbers
  | min => exact isActive_combine_numbers

theorem apply_ne_text (f : Combinator) (vs : List Value) (s : String) : f.apply vs ≠ .text s := by
  have hbound {α : Type} {form : α → Value} (b : Option α) (hform : ∀ a, form a ≠ .text s) :
      Value.ofBound form b ≠ .text s :=
    Value.ofBound_cases (P := (· ≠ .text s)) Value.noConfusion fun a _ => hform a
  cases f with
  | union => exact Value.noConfusion
  | widest => exact hbound _ fun _ => Value.noConfusion
  | max => exact hbound _ fun _ => Value.noConfusion
  | min => exact hbound _ fun _ => Value.noConfusion

end Combinator

namespace Transform

variable {t : Transform} {v w : Value}

def TakesOpenSide : Transform → Value → Prop
  | .rangeMin, .numberRange r => r.lower = none
  | .rangeMax, .numberRange r => r.upper = none
  | .rangeMin, .dateRange r => r.lower = none
  | .rangeMax, .dateRange r => r.upper = none
  | _, _ => False

def Opens (t : Transform) (v : Value) : Prop :=
  v.isActive = true ∧ (∃ r, v = .numberRange r) ∧ t.apply v = some (.numberRange ⟨none, none⟩)

theorem isActive_mapNumbers {f : Binary64 → Binary64} (h : mapNumbers f v = some w)
    (hkeeps : ¬ (v.isActive = true ∧ (∃ r, v = .numberRange r) ∧ w = .numberRange ⟨none, none⟩)) :
    w.isActive = false ↔ v.isActive = false := by
  cases v with
  | number x =>
    obtain ⟨y, -, rfl⟩ := Option.map_eq_some_iff.mp h
    exact Iff.rfl
  | numberRange r =>
    cases h
    constructor
    · intro hopen
      obtain ⟨hlower, hupper⟩ := Value.isActive_numberRange.mp hopen
      by_contra hactive
      have hw := congrArg₂ (fun lower upper => Value.numberRange ⟨lower, upper⟩) hlower hupper
      exact hkeeps ⟨Bool.eq_true_of_not_eq_false hactive, ⟨r, rfl⟩, hw⟩
    · intro hopen
      obtain ⟨hlower, hupper⟩ := Value.isActive_numberRange.mp hopen
      refine Value.isActive_numberRange.mpr ⟨?_, ?_⟩
      · rw [Range.filterMap, hlower, Option.bind_none]
      · rw [Range.filterMap, hupper, Option.bind_none]
  | _ => cases h

theorem isActive_mapTexts {f : List Char → List Char} (htext : ∀ s, v ≠ .text s)
    (h : mapTexts f v = some w) : w.isActive = false ↔ v.isActive = false := by
  cases v with
  | text s => exact absurd rfl (htext s)
  | list items =>
    cases h
    simp [Value.isActive]
  | _ => cases h

theorem isActive_ofBound {α : Type} {form : α → Value} (hform : ∀ a, (form a).isActive = true) {b : Option α}
    (hb : v.isActive = false → b = none) :
    (Value.ofBound form b).isActive = false ↔ v.isActive = false ∨ b = none := by
  cases b with
  | none => exact iff_of_true rfl (.inr rfl)
  | some a => simp [Value.ofBound, hform a, mt hb]

theorem isActive_of_apply (htext : ∀ s, v ≠ .text s) (hopens : ¬ t.Opens v) (h : t.apply v = some w) :
    w.isActive = false ↔ v.isActive = false ∨ t.TakesOpenSide v := by
  by_cases hnull : v.isNull = true
  · cases v <;> cases hnull
    cases h
    exact iff_of_true rfl (.inl rfl)
  have hresult := h
  rw [apply.eq_def, if_neg hnull] at hresult
  have hnumbers {f : Binary64 → Binary64} (hf : mapNumbers f v = some w) :
      w.isActive = false ↔ v.isActive = false :=
    isActive_mapNumbers hf fun ⟨hactive, hrange, hw⟩ => hopens ⟨hactive, hrange, hw ▸ h⟩
  cases t with
  | identity =>
    cases hresult
    exact (or_iff_left id).symm
  | rangeMin =>
    cases v with
    | numberRange r =>
      cases hresult
      exact isActive_ofBound (fun _ => rfl) fun h => (Value.isActive_numberRange.mp h).1
    | dateRange r =>
      cases hresult
      exact isActive_ofBound (fun _ => rfl) fun h => (Value.isActive_dateRange.mp h).1
    | _ => cases hresult
  | rangeMax =>
    cases v with
    | numberRange r =>
      cases hresult
      exact isActive_ofBound (fun _ => rfl) fun h => (Value.isActive_numberRange.mp h).2
    | dateRange r =>
      cases hresult
      exact isActive_ofBound (fun _ => rfl) fun h => (Value.isActive_dateRange.mp h).2
    | _ => cases hresult
  | toRange width =>
    cases v with
    | number x =>
      cases hresult
      exact (or_iff_left id).symm
    | date d =>
      obtain ⟨days, -, rfl⟩ := Option.map_eq_some_iff.mp hresult
      exact (or_iff_left id).symm
    | _ => cases hresult
  | scale | offset | clamp | round => exact (hnumbers hresult).trans (or_iff_left id).symm
  | prepend | append | uppercase | lowercase =>
    exact (isActive_mapTexts htext hresult).trans (or_iff_left id).symm

end Transform

def transformOn (rules : List Rule) (group source target : String) : Transform :=
  match rules.find? (·.governs group source target) with
  | none => .identity
  | some r => r.transform

theorem rewritten_eq_apply (rules : List Rule) (group source target : String) (v : Value) :
    rewritten rules group source target v = (transformOn rules group source target).apply v := by
  unfold rewritten transformOn
  cases rules.find? (·.governs group source target) with
  | some r => rfl
  | none => cases v <;> rfl

theorem Value.ofLoose_of_not_empties {w : Value} {k : Kind} (hfits : w.fits k = false)
    (hempties : ¬ w.Empties k) : ofLoose w.toJson k = .null ∨ (ofLoose w.toJson k).isActive = true := by
  cases hactive : w.isActive with
  | true => exact (ofLoose_cases hactive hfits).imp_right fun h => h.resolve_right hempties
  | false =>
    cases w with
    | null => cases hfits
    | text s =>
      obtain rfl : s = "" := by simpa [isActive] using hactive
      cases k with
      | text => cases hfits
      | list => exact .inr rfl
      | _ => exact .inl rfl
    | dateRange r =>
      obtain ⟨lower, upper⟩ := r
      obtain ⟨rfl, rfl⟩ : lower = none ∧ upper = none := isActive_dateRange.mp hactive
      cases k with
      | dateRange => cases hfits
      | _ => exact .inl rfl
    | numberRange r =>
      obtain ⟨lower, upper⟩ := r
      obtain ⟨rfl, rfl⟩ : lower = none ∧ upper = none := isActive_numberRange.mp hactive
      cases k with
      | numberRange => cases hfits
      | dateRange => exact (hempties trivial).elim
      | _ => exact .inl rfl
    | list items =>
      obtain rfl : items = [] := by simpa [isActive] using hactive
      cases k with
      | list => cases hfits
      | _ => exact .inl rfl
    | _ => cases hactive

theorem Store.kept_inactive_iff {s : Store} {id : String} {w : Value} {k : Kind}
    (hkind : s.kindOf? id = some k) (hempties : ¬ w.Empties k) :
    (∃ held, s.kept id w = .ok held ∧ held.isActive = false) ↔ w.fits k = true ∧ w.isActive = false := by
  cases hfits : w.fits k with
  | true =>
    rw [kept_of_fits hkind hfits]
    simp
  | false =>
    obtain ⟨c, hc, rfl⟩ := Option.map_eq_some_iff.mp hkind
    have hkept : s.kept id w = coerce id w c.kind := by simp only [kept, hc]
    refine iff_of_false ?_ (fun h => Bool.false_ne_true h.1)
    rintro ⟨held, hheld, hinactive⟩
    rw [hkept] at hheld
    rcases Value.ofLoose_of_not_empties hfits hempties with hnull | hactive
    · rw [coerce_of_null hfits hnull] at hheld
      cases hheld
    · rw [coerce_of_not_fits hfits fun hnull => by simp [hnull, Value.isActive] at hactive] at hheld
      cases hheld
      rw [hactive] at hinactive
      cases hinactive

namespace Coordinator

variable {c : Coordinator} {l : LiveGroup} {op : Operation} {last : Competing} {f : Combinator}
  {m : String} {k : Kind} {v : Value} {t : Transform} {now : Int}

theorem Closes.merged (h : c.Closes op l) (hpolicy : l.group.policy = .merge)
    (hf : c.combinator? l.id = some f) (hlast : l.window.getLast? = some last)
    (hconflict : (c.perform now op).conflicts ≠ c.conflicts) :
    c.decision l last = some (none, f.apply (l.window.map (·.value))) := by
  obtain ⟨id, hconflicts⟩ := h.conflicts hlast now
  unfold newConflicts at hconflicts
  unfold decision
  split at hconflicts
  next hcompete =>
    rw [if_pos hcompete]
    unfold decide
    rw [hpolicy, hf]
  next => exact absurd (hconflicts.trans (List.append_nil _)) hconflict

theorem merge_empties_iff (h : Reachable c) (hclose : c.Closes op l) (hpolicy : l.group.policy = .merge)
    (hf : c.combinator? l.id = some f) (hlast : l.window.getLast? = some last)
    (hconflict : (c.perform now op).conflicts ≠ c.conflicts)
    (hfinite : ∀ v ∈ l.window.map (·.value), v.isFinite = true)
    (hm : m ∈ l.group.members) (hkind : c.store.kindOf? m = some k)
    (hheld : (c.store.valueOf m).isActive = true)
    (hv : f.apply (l.window.map (·.value)) = v) (ht : transformOn c.rules l.id last.control m = t)
    (hopens : ¬ t.Opens v) (hempties : ∀ w, t.apply v = some w → ¬ w.Empties k) :
    ((c.perform now op).store.valueOf m).isActive = false ↔
      ∃ w, t.apply v = some w ∧ w.fits k = true ∧
        (f.FindsNothing (l.window.map (·.value)) ∨ t.TakesOpenSide v) := by
  have hn := nodup_of_live? h.wellKept hclose.1
  have hmember : m ∈ Parcel.targets ⟨none, last.control, v⟩ l.group := by simpa [Parcel.targets] using hm
  obtain ⟨hstore, -⟩ := hclose.sent hlast (hclose.merged hpolicy hf hlast hconflict) now
  have hsent : (c.perform now op).store.valueOf m =
      ((t.apply v).bind fun w => (c.store.kept m w).toOption).getD (c.store.valueOf m) := by
    rw [hstore, hv, valueOf_propagate_rewritten c.store c.rules hn (by simp [Parcel.isHeldBack])
      hmember,
      rewritten_eq_apply, ← ht]
    rfl
  rw [hsent]
  cases hw : t.apply v with
  | none => simp [hheld]
  | some w =>
    have htext : ∀ s, v ≠ .text s := fun s => hv ▸ f.apply_ne_text _ s
    have hinactive : w.isActive = false ↔
        f.FindsNothing (l.window.map (·.value)) ∨ t.TakesOpenSide v := by
      rw [Transform.isActive_of_apply htext hopens hw, ← f.isActive_apply hfinite, hv]
    have hkept := Store.kept_inactive_iff hkind (hempties w hw)
    rw [Option.bind_some]
    refine Iff.trans ?_ (hkept.trans ?_)
    · cases c.store.kept m w with
      | ok held => simp [Except.toOption]
      | error e => simp [Except.toOption, hheld]
    · rw [hinactive]
      simp

def oneSided : Coordinator :=
  (start .default .empty 0).performAll [
    (0, .act (.register "a" .numberRange .null)),
    (0, .act (.register "b" .numberRange .null)),
    (0, .createGroup ⟨"g", "g", ["a", "b"], .bidirectional, none, .merge, true, none⟩),
    (0, .setCombinator "g" .widest),
    (1, .change "a" (.numberRange ⟨some .zero, none⟩) .user),
    (2, .change "b" (.numberRange ⟨none, some .one⟩) .user)]

def oneSidedGroup : LiveGroup :=
  ⟨⟨"g", "g", ["a", "b"], .bidirectional, none, .merge, true, none⟩, .empty 100, .pendingPropagation,
    [⟨"a", .numberRange ⟨some .zero, none⟩, 1, .user⟩, ⟨"b", .numberRange ⟨none, some .one⟩, 2, .user⟩],
    some 1, 2⟩

theorem oneSided_closes : oneSided.Closes (.flush "g") oneSidedGroup :=
  ⟨by decide +kernel, rfl, rfl⟩

theorem oneSided_conflicts : (oneSided.perform 3 (.flush "g")).conflicts ≠ oneSided.conflicts := by
  decide +kernel

theorem merge_empties_iff_oneSided :
    ((oneSided.perform 3 (.flush "g")).store.valueOf "a").isActive = false := by
  have hreach : Reachable oneSided := (Reachable.start _ _ _).performAll _
  have hlast : oneSidedGroup.window.getLast? = some ⟨"b", .numberRange ⟨none, some .one⟩, 2, .user⟩ := rfl
  have hfinite : ∀ v ∈ oneSidedGroup.window.map (·.value), v.isFinite = true := by decide +kernel
  have hmerged : Combinator.widest.apply (oneSidedGroup.window.map (·.value)) =
      .numberRange ⟨none, none⟩ := by decide +kernel
  have hrule : transformOn oneSided.rules "g" "b" "a" = .identity := by decide +kernel
  have hnothing : Combinator.widest.FindsNothing (oneSidedGroup.window.map (·.value)) :=
    .inr ⟨⟨_, .tail _ (.head _), rfl⟩, _, .head _, rfl⟩
  refine (merge_empties_iff (m := "a") (k := .numberRange) hreach oneSided_closes rfl (by decide +kernel)
    hlast oneSided_conflicts hfinite (by decide) (by decide +kernel) (by decide +kernel) hmerged hrule
    ?_ ?_).mpr ⟨_, rfl, rfl, .inl hnothing⟩
  · rintro ⟨hactive, -⟩
    cases hactive
  · rintro w ⟨⟩
    exact id

theorem oneSided_emptied :
    Reachable oneSided ∧ oneSided.Closes (.flush "g") oneSidedGroup ∧ oneSidedGroup.group.policy = .merge ∧
      oneSided.combinator? "g" = some .widest ∧
      (oneSided.perform 3 (.flush "g")).conflicts ≠ oneSided.conflicts ∧
      (∀ w ∈ oneSidedGroup.window, w.value.isActive = true ∧ w.value.isFinite = true) ∧
      ∀ m ∈ oneSidedGroup.group.members, (oneSided.store.valueOf m).isActive = true ∧
        ((oneSided.perform 3 (.flush "g")).store.valueOf m).isActive = false :=
  ⟨(Reachable.start _ _ _).performAll _, oneSided_closes, rfl, by decide +kernel, oneSided_conflicts,
    by decide +kernel, by decide +kernel⟩

end Coordinator

end LinkedControls
