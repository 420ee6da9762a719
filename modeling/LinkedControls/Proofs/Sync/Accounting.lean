import LinkedControls.Proofs.Sync.Closing

/-!
The account that sending a value to a group gives of itself. The events say of each target whether it
took the value, and the store and its log have changed just as they say.
-/

namespace LinkedControls

theorem History.events_record {h : History} (hfull : h.events.length ≤ h.limit)
    (events : List Event) : (h.record events).events = (events.reverse ++ h.events).take h.limit := by
  induction events generalizing h with
  | nil => exact (List.take_of_length_le hfull).symm
  | cons e rest ih =>
    have hpush : (h.push e).events.length ≤ (h.push e).limit := List.length_take_le ..
    change ((h.push e).record rest).events = _
    rw [ih hpush]
    simp only [push, List.reverse_cons, List.append_assoc, List.singleton_append, List.take_append,
      List.take_take, Nat.min_eq_left (Nat.sub_le _ _)]

def Change.told (change : Change) : String × Value × Value × Origin :=
  (change.control, change.before, change.after, change.origin)

def Event.told (e : Event) : String × Value × Value × Origin :=
  (e.control, e.before, e.after, e.origin)

variable {g : Group} {rules : List Rule} {p : Parcel} {s s' : Store} {target : String}

def Parcel.fate (p : Parcel) (g : Group) (rules : List Rule) (s : Store) (target : String) :
    Bool × Value :=
  outcome s target p.value (rewritten rules g.id p.ruleSource target p.value)

theorem fate_congr (h : ∀ i, s'.kindOf? i = s.kindOf? i) (i : String) :
    p.fate g rules s' i = p.fate g rules s i :=
  outcome_congr (h i)

theorem fate_fst_iff (origin : Origin) : (p.fate g rules s target).1 = true ↔
    ∃ v r, p.outgoing g rules target = .ok v ∧ s.write target v origin = .ok r := by
  simp only [outgoing_eq_ok, Parcel.fate]
  cases rewritten rules g.id p.ruleSource target p.value with
  | none => simp [outcome]
  | some v =>
    cases hk : s.kept target v with
    | ok held =>
      obtain ⟨s', change, hw⟩ := Store.write_of_kept hk origin
      rw [outcome_of_kept hk]
      exact iff_of_true rfl ⟨v, _, rfl, hw⟩
    | error e =>
      have hw : s.write target v origin = .error e := Store.write_eq_error.mpr hk
      rw [outcome_of_refused hk]
      refine iff_of_false Bool.false_ne_true ?_
      rintro ⟨w, r, hv, hr⟩
      obtain rfl := Option.some.inj hv
      rw [hw] at hr
      cases hr

theorem deliver_cases (g : Group) (rules : List Rule) (p : Parcel) (s : Store) (target : String) :
    ((p.fate g rules s target).1 = false ∧ (deliver g rules p s target).1 = s ∧
        (deliver g rules p s target).2.propagated = false) ∨
      ∃ v s' change, s.write target v .sync = .ok (s', change) ∧
        p.fate g rules s target = (true, change.after) ∧
        deliver g rules p s target =
          (s', .applied g.id p.source target change.before change.after) := by
  have hfate : ((deliver g rules p s target).2.propagated, (deliver g rules p s target).2.after) =
      p.fate g rules s target := by
    have hreports := (deliver_spec g rules p s target).reports.2
    rwa [control_deliver] at hreports
  cases ho : p.outgoing g rules target with
  | error reason =>
    have he : deliver g rules p s target =
        (s, .skipped g.id p.source target (s.valueOf target) p.value reason) := by
      simp only [deliver, ho]
    rw [he] at hfate ⊢
    exact .inl ⟨hfate ▸ rfl, rfl, rfl⟩
  | ok v =>
    cases hw : s.write target v .sync with
    | error e =>
      have he : deliver g rules p s target =
          (s, .skipped g.id p.source target (s.valueOf target) v e.message) := by
        simp only [deliver, ho, hw]
      rw [he] at hfate ⊢
      exact .inl ⟨hfate ▸ rfl, rfl, rfl⟩
    | ok r =>
      obtain ⟨s', change⟩ := r
      simp only [deliver, ho, hw] at hfate ⊢
      exact .inr ⟨v, s', change, hw, hfate.symm, rfl⟩

def Control.receive (k : Control) (fate : Bool × Value) : Control :=
  if fate.1 then { k with value := fate.2 } else k

theorem receive_receive (k : Control) (fate : Bool × Value) :
    (k.receive fate).receive fate = k.receive fate := by
  unfold Control.receive
  split <;> rfl

theorem get?_deliver (i : String) : (deliver g rules p s target).1.get? i =
    if i = target then (s.get? i).map (·.receive (p.fate g rules s i)) else s.get? i := by
  rcases deliver_cases g rules p s target with ⟨hfate, hs, -⟩ | ⟨v, s', change, hw, hfate, he⟩
  · rw [hs]
    split
    · next hi =>
      have hid : (fun k : Control => k.receive (p.fate g rules s i)) = id := by
        funext k
        rw [hi, Control.receive, hfate]
        rfl
      rw [hid, Option.map_id, id]
    · rfl
  · rw [he, Store.get?_write hw]
    split
    · next hi =>
      rw [hi, hfate]
      rfl
    · rfl

theorem log_deliver : (deliver g rules p s target).1.log.map Change.told = s.log.map Change.told ++
    ([(deliver g rules p s target).2].filter (·.propagated)).map Event.told := by
  rcases deliver_cases g rules p s target with ⟨-, hs, hno⟩ | ⟨v, s', change, hw, -, he⟩
  · rw [hs, List.filter_singleton, hno]
    simp
  · obtain ⟨k, w, -, -, rfl, rfl⟩ := Store.write_eq_ok hw
    rw [he, List.map_append]
    rfl

theorem kindOf?_deliver (i : String) :
    (deliver g rules p s target).1.kindOf? i = s.kindOf? i :=
  (deliver_spec g rules p s target).kinds i

theorem controls_deliverAll (targets : List String) :
    (deliverAll g rules p s targets).2.map (·.control) = targets := by
  induction targets generalizing s with
  | nil => rfl
  | cons target rest ih => simp only [deliverAll, List.map_cons, control_deliver, ih]

theorem fate_of_mem_deliverAll {targets : List String} {e : Event}
    (he : e ∈ (deliverAll g rules p s targets).2) :
    e.group = g.id ∧ e.source = p.source ∧ (e.propagated, e.after) = p.fate g rules s e.control := by
  induction targets generalizing s with
  | nil => cases he
  | cons target rest ih =>
    rcases List.mem_cons.mp he with rfl | he
    · have hone := deliver_spec g rules p s target
      exact ⟨hone.group, hone.source, hone.reports.2⟩
    · obtain ⟨hgroup, hsource, hfate⟩ := ih he
      exact ⟨hgroup, hsource, hfate.trans (fate_congr (fun _ => kindOf?_deliver _) e.control)⟩

theorem get?_deliverAll (targets : List String) (i : String) :
    (deliverAll g rules p s targets).1.get? i =
      if i ∈ targets then (s.get? i).map (·.receive (p.fate g rules s i)) else s.get? i := by
  induction targets generalizing s with
  | nil => rfl
  | cons target rest ih =>
    have hfate : p.fate g rules (deliver g rules p s target).1 i = p.fate g rules s i :=
      fate_congr (fun _ => kindOf?_deliver _) i
    simp only [deliverAll, ih, hfate, get?_deliver, List.mem_cons]
    by_cases hi : i = target <;> by_cases hr : i ∈ rest <;>
      simp [hi, hr, Function.comp_def, receive_receive]

theorem log_deliverAll (targets : List String) :
    (deliverAll g rules p s targets).1.log.map Change.told = s.log.map Change.told ++
      ((deliverAll g rules p s targets).2.filter (·.propagated)).map Event.told := by
  induction targets generalizing s with
  | nil => exact (List.append_nil _).symm
  | cons target rest ih =>
    have hcons := List.filter_append (p := Event.propagated) [(deliver g rules p s target).2]
      (deliverAll g rules p (deliver g rules p s target).1 rest).2
    rw [List.singleton_append] at hcons
    simp only [deliverAll]
    rw [ih, log_deliver, hcons, List.map_append, List.append_assoc]

theorem isHeldBack_iff : p.isHeldBack g = true ↔
    g.mode = .masterSlave ∧ ∃ o, p.origin = some o ∧ g.isMaster o = false := by
  simp [Parcel.isHeldBack, Option.any_eq_true]

structure Accounts (g : Group) (rules : List Rule) (p : Parcel) (s s' : Store) (events : List Event) :
    Prop where
  controls : events.map (·.control) = p.targets g
  named : ∀ e ∈ events, e.group = g.id ∧ e.source = p.source
  before : g.members.Nodup → ∀ e ∈ events, e.before = s.valueOf e.control
  accepted : ∀ e ∈ events, e.propagated = true ↔ p.isHeldBack g = false ∧
    ∃ v r, p.outgoing g rules e.control = .ok v ∧ s.write e.control v .sync = .ok r
  taken : ∀ e ∈ events, e.propagated = true → s'.valueOf e.control = e.after
  refused : ∀ e ∈ events, e.propagated = false → s'.get? e.control = s.get? e.control
  others : ∀ i, i ∉ p.targets g → s'.get? i = s.get? i
  log : s'.log.map Change.told =
    s.log.map Change.told ++ (events.filter (·.propagated)).map Event.told

theorem accounts_deliverAll (hp : p.isHeldBack g = false) : Accounts g rules p s
    (deliverAll g rules p s (p.targets g)).1 (deliverAll g rules p s (p.targets g)).2 := by
  have hcontrols : (deliverAll g rules p s (p.targets g)).2.map (·.control) = p.targets g :=
    controls_deliverAll (p.targets g)
  have hstored : ∀ i, (deliverAll g rules p s (p.targets g)).1.get? i =
      if i ∈ p.targets g then (s.get? i).map (·.receive (p.fate g rules s i)) else s.get? i :=
    get?_deliverAll (p.targets g)
  have hmem : ∀ e ∈ (deliverAll g rules p s (p.targets g)).2, e.control ∈ p.targets g :=
    fun e he => hcontrols ▸ List.mem_map_of_mem he
  have hfate : ∀ e ∈ (deliverAll g rules p s (p.targets g)).2,
      (e.propagated, e.after) = p.fate g rules s e.control :=
    fun e he => (fate_of_mem_deliverAll he).2.2
  have haccepted : ∀ e ∈ (deliverAll g rules p s (p.targets g)).2, e.propagated = true ↔
      ∃ v r, p.outgoing g rules e.control = .ok v ∧ s.write e.control v .sync = .ok r := by
    intro e he
    rw [← fate_fst_iff, ← hfate e he]
  refine ⟨hcontrols, ?_, ?_, ?_, ?_, ?_, ?_, log_deliverAll (p.targets g)⟩
  · intro e he
    obtain ⟨hgroup, hsource, -⟩ := fate_of_mem_deliverAll he
    exact ⟨hgroup, hsource⟩
  · intro hn e he
    exact ((deliverAll_spec (targets_nodup hn)).reports e he).1
  · intro e he
    rw [haccepted e he, hp]
    simp
  · intro e he hyes
    obtain ⟨v, ⟨s', change⟩, -, hw⟩ := (haccepted e he).mp hyes
    obtain ⟨k, -, hk, -⟩ := Store.write_eq_ok hw
    have hget := hstored e.control
    rw [if_pos (hmem e he), hk, ← hfate e he, Option.map_some] at hget
    rw [Store.valueOf_of_get? hget, Control.receive, hyes]
    rfl
  · intro e he hno
    rw [hstored, if_pos (hmem e he), ← hfate e he, hno]
    exact Option.map_id' ..
  · intro i hi
    rw [hstored, if_neg hi]

theorem accounts_holdBack (hp : p.isHeldBack g = true) :
    Accounts g rules p s s ((p.targets g).map (holdBack g p s)) := by
  have hno : ∀ e ∈ (p.targets g).map (holdBack g p s), e.propagated = false := by
    intro e he
    obtain ⟨t, -, rfl⟩ := List.mem_map.mp he
    rfl
  refine ⟨?_, ?_, ?_, ?_, ?_, fun _ _ _ => rfl, fun _ _ => rfl, ?_⟩
  · rw [List.map_map]
    exact List.map_id _
  · intro e he
    obtain ⟨t, -, rfl⟩ := List.mem_map.mp he
    exact ⟨rfl, rfl⟩
  · intro _ e he
    obtain ⟨t, -, rfl⟩ := List.mem_map.mp he
    rfl
  · intro e he
    simp [hno e he, hp]
  · intro e he hyes
    rw [hno e he] at hyes
    cases hyes
  · have hnone : ((p.targets g).map (holdBack g p s)).filter (·.propagated) = [] :=
      List.filter_eq_nil_iff.mpr fun e he => by simp [hno e he]
    rw [hnone]
    simp

theorem accounts_propagate (g : Group) (rules : List Rule) (p : Parcel) (s : Store) :
    Accounts g rules p s (propagate s g rules p).1 (propagate s g rules p).2 := by
  cases hp : p.isHeldBack g with
  | true =>
    rw [propagate_of_heldBack s rules hp]
    exact accounts_holdBack hp
  | false =>
    rw [propagate, hp]
    exact accounts_deliverAll hp

namespace Coordinator

variable {c : Coordinator} {l : LiveGroup}

theorem send_accounts (hl : c.live? l.id = some l) (p : Parcel) (now : Int) :
    ∃ events k, (c.send l p now).live? l.id = some k ∧
      (l.history.events.length ≤ l.history.limit →
        k.history.events = (events.reverse ++ l.history.events).take l.history.limit) ∧
      Accounts l.group c.rules p c.store (c.send l p now).store events ∧
      (l.group.mode = .masterSlave → ∀ o, p.origin = some o → l.group.isMaster o = false →
        (c.send l p now).store = c.store) := by
  refine ⟨_, _, live?_send p hl, fun hfull => History.events_record hfull _,
    accounts_propagate l.group c.rules p c.store, ?_⟩
  intro hmode o ho hmaster
  have hback := isHeldBack_iff.mpr ⟨hmode, o, ho, hmaster⟩
  exact congrArg Prod.fst (propagate_of_heldBack c.store c.rules hback)

def fourWays : Coordinator :=
  (start .default .empty 0).performAll [
    (0, .act (.register "a" .boolean (.boolean true))),
    (0, .act (.register "b" .text (.text ""))),
    (0, .act (.register "c" .date .null)),
    (0, .act (.register "d" .text (.text ""))),
    (0, .createGroup
      ⟨"g", "g", ["a", "b", "c", "d"], .masterSlave, some "a", .latestWins, true, none⟩),
    (0, .addRule ⟨"r", "g", "a", "d", .append "!", true⟩)]

def fourWaysGroup : LiveGroup :=
  .fresh ⟨"g", "g", ["a", "b", "c", "d"], .masterSlave, some "a", .latestWins, true, none⟩ 100

theorem send_accounts_fourWays :
    (∃ events, Accounts fourWaysGroup.group fourWays.rules ⟨some "a", "a", .boolean true⟩
        fourWays.store (fourWays.send fourWaysGroup ⟨some "a", "a", .boolean true⟩ 1).store events ∧
      events.map (fun e => (e.control, e.propagated)) = [("b", true), ("c", false), ("d", false)]) ∧
      (fourWays.send fourWaysGroup ⟨some "b", "b", .text "x"⟩ 1).store = fourWays.store := by
  have hl : fourWays.live? fourWaysGroup.id = some fourWaysGroup := by decide
  obtain ⟨events, k, hk, hhistory, haccounts, -⟩ := send_accounts hl ⟨some "a", "a", .boolean true⟩ 1
  obtain ⟨-, -, -, -, -, hback⟩ := send_accounts hl ⟨some "b", "b", .text "x"⟩ 1
  refine ⟨⟨events, haccounts, ?_⟩, hback rfl "b" rfl rfl⟩
  have hthree : events.length = 3 := by
    rw [← List.length_map Event.control, haccounts.controls]
    rfl
  have hall : k.history.events = events.reverse := by
    rw [hhistory (Nat.zero_le _)]
    change (events.reverse ++ []).take 100 = events.reverse
    rw [List.append_nil, List.take_of_length_le]
    rw [List.length_reverse, hthree]
    decide
  have hrecent : ((fourWays.send fourWaysGroup ⟨some "a", "a", .boolean true⟩ 1).live?
      fourWaysGroup.id).map (fun k => k.history.events.map fun e => (e.control, e.propagated)) =
        some [("d", false), ("c", false), ("b", true)] := by decide
  rw [hk, Option.map_some, Option.some.injEq, hall, List.map_reverse, List.reverse_eq_iff] at hrecent
  exact hrecent

end Coordinator

end LinkedControls
