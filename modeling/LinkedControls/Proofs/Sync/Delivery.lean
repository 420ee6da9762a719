import LinkedControls.Proofs.Store.Writing

/-!
What sending a value to the members of a group leaves behind: one event for each target, which says
what became of the value as the rules rewrote it, and the values that the targets hold afterwards.
-/

namespace LinkedControls

def rewritten (rules : List Rule) (group source target : String) (v : Value) : Option Value :=
  match rules.find? (·.governs group source target) with
  | none => some v
  | some r => r.transform.apply v

/-- What becomes of a value `v` on its way to a control, when rules have made `sent` of it: whether the
control takes it, and the value on record. A value that no rule could rewrite is on record itself. -/
def outcome (s : Store) (control : String) (v : Value) : Option Value → Bool × Value
  | none => (false, v)
  | some w =>
      match s.kept control w with
      | .ok held => (true, held)
      | .error _ => (false, w)

theorem outcome_of_kept {s : Store} {control : String} {v w held : Value}
    (h : s.kept control w = .ok held) : outcome s control v (some w) = (true, held) := by
  simp only [outcome, h]

theorem outcome_of_refused {s : Store} {control : String} {v w : Value} {e : StoreError}
    (h : s.kept control w = .error e) : outcome s control v (some w) = (false, w) := by
  simp only [outcome, h]

theorem outcome_congr {s s' : Store} {control : String} {v : Value} {sent : Option Value}
    (h : s'.kindOf? control = s.kindOf? control) :
    outcome s' control v sent = outcome s control v sent := by
  cases sent with
  | none => rfl
  | some w => simp only [outcome, Store.kept_congr h]

def Event.Reports (e : Event) (s : Store) (v : Value) (sent : Option Value) : Prop :=
  e.before = s.valueOf e.control ∧ (e.propagated, e.after) = outcome s e.control v sent

theorem rewritten_eq_toOption (p : Parcel) (g : Group) (rules : List Rule) (target : String) :
    rewritten rules g.id p.ruleSource target p.value =
      (p.outgoing g rules target).toOption := by
  unfold rewritten Parcel.outgoing
  cases rules.find? (·.governs g.id p.ruleSource target) with
  | none => rfl
  | some r =>
    simp only
    cases r.transform.apply p.value <;> rfl

variable {g : Group} {rules : List Rule} {p : Parcel} {s : Store} {target : String}

theorem outgoing_eq_ok {w : Value} : p.outgoing g rules target = .ok w ↔
    rewritten rules g.id p.ruleSource target p.value = some w := by
  rw [rewritten_eq_toOption]
  cases p.outgoing g rules target <;> simp [Except.toOption]

structure Delivered (g : Group) (rules : List Rule) (p : Parcel) (s s' : Store) (e : Event) :
    Prop where
  group : e.group = g.id
  source : e.source = p.source
  origin : e.origin = .sync
  reports : e.Reports s p.value (rewritten rules g.id p.ruleSource e.control p.value)
  held : s'.valueOf e.control = if e.propagated then e.after else e.before
  others : ∀ i, i ≠ e.control → s'.get? i = s.get? i
  kinds : ∀ i, s'.kindOf? i = s.kindOf? i

theorem control_deliver : (deliver g rules p s target).2.control = target := by
  unfold deliver
  split
  · rfl
  · split <;> rfl

theorem deliver_spec (g : Group) (rules : List Rule) (p : Parcel) (s : Store) (target : String) :
    Delivered g rules p s (deliver g rules p s target).1 (deliver g rules p s target).2 := by
  have hr := rewritten_eq_toOption p g rules target
  cases ho : p.outgoing g rules target with
  | error reason =>
    rw [ho] at hr
    simp only [deliver, ho]
    refine ⟨rfl, rfl, rfl, ⟨rfl, ?_⟩, rfl, fun _ _ => rfl, fun _ => rfl⟩
    simp only [Event.skipped, hr, Except.toOption]
    rfl
  | ok v =>
    rw [ho] at hr
    cases hw : s.write target v .sync with
    | error err =>
      simp only [deliver, ho, hw]
      refine ⟨rfl, rfl, rfl, ⟨rfl, ?_⟩, rfl, fun _ _ => rfl, fun _ => rfl⟩
      simp only [Event.skipped, hr, Except.toOption,
        outcome_of_refused (Store.write_eq_error.mp hw)]
      rfl
    | ok r =>
      obtain ⟨s', change⟩ := r
      obtain ⟨c, w, hc, hk, hchange, _⟩ := Store.write_eq_ok hw
      simp only [deliver, ho, hw]
      refine ⟨rfl, rfl, rfl, ⟨?_, ?_⟩, Store.valueOf_write_self hw,
        fun i hi => Store.get?_write_of_ne hw hi, Store.kindOf?_write hw⟩
      · simp only [Event.applied, hchange, Store.valueOf_of_get? hc]
      · simp only [Event.applied, hr, Except.toOption, hchange, outcome_of_kept hk]
        rfl

structure DeliveredAll (g : Group) (rules : List Rule) (p : Parcel) (s : Store)
    (targets : List String) (s' : Store) (es : List Event) : Prop where
  controls : es.map (·.control) = targets
  each : ∀ e ∈ es, e.group = g.id ∧ e.source = p.source ∧ e.origin = .sync
  reports : ∀ e ∈ es, e.Reports s p.value (rewritten rules g.id p.ruleSource e.control p.value)
  held : ∀ e ∈ es, s'.valueOf e.control = if e.propagated then e.after else e.before
  others : ∀ i, i ∉ targets → s'.get? i = s.get? i
  kinds : ∀ i, s'.kindOf? i = s.kindOf? i

theorem Event.Reports.congr {e : Event} {s' : Store} {v : Value} {sent : Option Value}
    (hget : s'.get? e.control = s.get? e.control) (h : e.Reports s' v sent) :
    e.Reports s v sent := by
  have hkind : s'.kindOf? e.control = s.kindOf? e.control := by rw [Store.kindOf?, hget, Store.kindOf?]
  exact ⟨h.1.trans (Store.valueOf_congr hget), h.2.trans (outcome_congr hkind)⟩

theorem deliverAll_spec {targets : List String} (hn : targets.Nodup) :
    DeliveredAll g rules p s targets (deliverAll g rules p s targets).1
      (deliverAll g rules p s targets).2 := by
  induction targets generalizing s with
  | nil => exact ⟨rfl, by simp [deliverAll], by simp [deliverAll], by simp [deliverAll],
      fun _ _ => rfl, fun _ => rfl⟩
  | cons target rest ih =>
    obtain ⟨htarget, hrest⟩ := List.nodup_cons.mp hn
    have hone := deliver_spec g rules p s target
    have hall := ih (s := (deliver g rules p s target).1) hrest
    have hcontrol : (deliver g rules p s target).2.control = target := control_deliver
    -- the targets are distinct, so the later deliveries see the rest of the store as it was
    have hne : ∀ e ∈ (deliverAll g rules p (deliver g rules p s target).1 rest).2,
        e.control ≠ target := by
      intro e he heq
      have hmem : e.control ∈ rest := hall.controls ▸ List.mem_map_of_mem he
      exact htarget (heq ▸ hmem)
    refine ⟨?_, ?_, ?_, ?_, ?_, ?_⟩
    · simp only [deliverAll, List.map_cons, hcontrol, hall.controls]
    · intro e he
      rcases List.mem_cons.mp he with rfl | he
      · exact ⟨hone.group, hone.source, hone.origin⟩
      · exact hall.each e he
    · intro e he
      rcases List.mem_cons.mp he with rfl | he
      · exact hone.reports
      · refine (hall.reports e he).congr (hone.others _ ?_)
        rw [hcontrol]
        exact hne e he
    · intro e he
      rcases List.mem_cons.mp he with rfl | he
      · have hsame := hall.others _ (hcontrol ▸ htarget)
        exact (Store.valueOf_congr hsame).trans hone.held
      · exact hall.held e he
    · intro i hi
      rw [List.mem_cons, not_or] at hi
      obtain ⟨hit, hir⟩ := hi
      exact (hall.others i hir).trans (hone.others i fun h => hit (h.trans hcontrol))
    · exact fun i => (hall.kinds i).trans (hone.kinds i)

theorem targets_nodup (hn : g.members.Nodup) : (p.targets g).Nodup := hn.filter _

theorem isHeldBack_of_not_masterSlave (h : g.mode ≠ .masterSlave) : p.isHeldBack g = false := by
  simp [Parcel.isHeldBack, h]

theorem propagate_spec (s : Store) (rules : List Rule) (hn : g.members.Nodup)
    (hp : p.isHeldBack g = false) :
    DeliveredAll g rules p s (p.targets g) (propagate s g rules p).1 (propagate s g rules p).2 := by
  rw [propagate, hp]
  exact deliverAll_spec (targets_nodup hn)

theorem propagate_of_heldBack (s : Store) (rules : List Rule) (hp : p.isHeldBack g = true) :
    propagate s g rules p = (s, (p.targets g).map (holdBack g p s)) := by
  rw [propagate, if_pos hp]

theorem kindOf?_propagate (s : Store) (rules : List Rule) (p : Parcel) (hn : g.members.Nodup)
    (i : String) : (propagate s g rules p).1.kindOf? i = s.kindOf? i := by
  cases hp : p.isHeldBack g with
  | true => rw [propagate_of_heldBack s rules hp]
  | false => exact (propagate_spec s rules hn hp).kinds i

theorem valueOf_propagate_of_not_mem (s : Store) (rules : List Rule) (p : Parcel)
    (hn : g.members.Nodup) {i : String} (hi : i ∉ p.targets g) :
    (propagate s g rules p).1.valueOf i = s.valueOf i := by
  cases hp : p.isHeldBack g with
  | true => rw [propagate_of_heldBack s rules hp]
  | false => exact Store.valueOf_congr ((propagate_spec s rules hn hp).others i hi)

theorem rewritten_of_no_rules {group source : String} {v : Value}
    (h : ∀ r ∈ rules, r.group ≠ group) : rewritten rules group source target v = some v := by
  have hf : rules.find? (·.governs group source target) = none := by
    rw [List.find?_eq_none]
    intro r hr
    simp [Rule.governs, Rule.isFor, h r hr]
  simp only [rewritten, hf]

theorem valueOf_propagate_rewritten (s : Store) (rules : List Rule) (hn : g.members.Nodup)
    (hp : p.isHeldBack g = false) (ht : target ∈ p.targets g) :
    (propagate s g rules p).1.valueOf target =
      ((rewritten rules g.id p.ruleSource target p.value).bind fun w =>
        (s.kept target w).toOption).getD (s.valueOf target) := by
  have hs := propagate_spec s rules hn hp
  rw [← hs.controls] at ht
  obtain ⟨e, he, rfl⟩ := List.mem_map.mp ht
  obtain ⟨hbefore, hreport⟩ := hs.reports e he
  rw [hs.held e he]
  cases hw : rewritten rules g.id p.ruleSource e.control p.value with
  | none =>
    rw [hw, outcome, Prod.mk.injEq] at hreport
    rw [if_neg (by simp [hreport.1]), hbefore]
    rfl
  | some w =>
    rw [hw] at hreport
    rw [Option.bind_some]
    cases hk : s.kept e.control w with
    | ok held =>
      rw [outcome_of_kept hk, Prod.mk.injEq] at hreport
      rw [if_pos hreport.1, hreport.2]
      rfl
    | error err =>
      rw [outcome_of_refused hk, Prod.mk.injEq] at hreport
      rw [if_neg (by simp [hreport.1]), hbefore]
      rfl

theorem valueOf_propagate_target (s : Store) (hn : g.members.Nodup) (hp : p.isHeldBack g = false)
    (hrules : ∀ r ∈ rules, r.group ≠ g.id) (ht : target ∈ p.targets g) :
    (propagate s g rules p).1.valueOf target =
      (s.kept target p.value).toOption.getD (s.valueOf target) := by
  rw [valueOf_propagate_rewritten s rules hn hp ht, rewritten_of_no_rules hrules]
  rfl

end LinkedControls
