import LinkedControls.Proofs.Sync.Debounce

/-!
Whose timer is whose. In every state that a coordinator reaches, a timer that a group takes for its own
is not another group's, so that nobody stops it but the group itself. Nothing but a write that a group
accepts starts a timer or gets into a window.
-/

namespace LinkedControls.Coordinator

variable {c d e : Coordinator} {l k : LiveGroup} {g : Group} {id i control keep : String}

structure Attributed (c : Coordinator) : Prop where
  serials : (c.timers.map (·.serial)).Nodup
  fresh : ∀ t ∈ c.timers, t.serial < c.nextTimer
  held : ∀ i l, c.live? i = some l → ∀ serial, l.timer = some serial → serial < c.nextTimer
  own : ∀ i l, c.live? i = some l → ∀ t ∈ c.timers, l.timer = some t.serial → t.group = i

structure Relaxes (c d : Coordinator) : Prop where
  timers : d.timers.Sublist c.timers
  nextTimer : d.nextTimer = c.nextTimer
  live : ∀ i k, d.live? i = some k → k.timer = none ∨ ∃ l, c.live? i = some l ∧ k.timer = l.timer

namespace Relaxes

theorem attributed (h : Relaxes c d) (hc : Attributed c) : Attributed d := by
  refine ⟨hc.serials.sublist (h.timers.map _), fun t ht => ?_, fun i k hk serial hserial => ?_,
    fun i k hk t ht hserial => ?_⟩
  · rw [h.nextTimer]
    exact hc.fresh t (h.timers.subset ht)
  · rw [h.nextTimer]
    rcases h.live i k hk with hnone | ⟨l, hl, hsame⟩
    · rw [hnone] at hserial
      cases hserial
    · exact hc.held i l hl serial (hsame ▸ hserial)
  · rcases h.live i k hk with hnone | ⟨l, hl, hsame⟩
    · rw [hnone] at hserial
      cases hserial
    · exact hc.own i l hl t (h.timers.subset ht) (hsame ▸ hserial)

theorem trans (h : Relaxes c d) (h' : Relaxes d e) : Relaxes c e := by
  refine ⟨h'.timers.trans h.timers, h'.nextTimer.trans h.nextTimer, fun i k hk => ?_⟩
  rcases h'.live i k hk with hnone | ⟨m, hm, hsame⟩
  · exact .inl hnone
  · rw [hsame]
    exact h.live i m hm

theorem of_groups (hgroups : d.groups = c.groups) (htimers : d.timers.Sublist c.timers)
    (hnext : d.nextTimer = c.nextTimer) : Relaxes c d := by
  refine ⟨htimers, hnext, fun i k hk => .inr ⟨k, ?_, rfl⟩⟩
  rwa [live?_congr hgroups] at hk

end Relaxes

/-- A step that also puts nothing in a window, and empties the window of a group that gets or loses
members. -/
structure Subsides (c d : Coordinator) : Prop extends Relaxes c d where
  windows : ∀ i k, d.live? i = some k → k.window = [] ∨
    ∃ l, c.live? i = some l ∧ k.window = l.window ∧ k.group.members = l.group.members

namespace Subsides

theorem trans (h : Subsides c d) (h' : Subsides d e) : Subsides c e := by
  refine ⟨h.toRelaxes.trans h'.toRelaxes, fun i k hk => ?_⟩
  rcases h'.windows i k hk with hempty | ⟨m, hm, hwindow, hmembers⟩
  · exact .inl hempty
  · rw [hwindow, hmembers]
    exact h.windows i m hm

theorem of_groups (hgroups : d.groups = c.groups) (htimers : d.timers.Sublist c.timers)
    (hnext : d.nextTimer = c.nextTimer) : Subsides c d := by
  refine ⟨.of_groups hgroups htimers hnext, fun i k hk => .inr ⟨k, ?_, rfl, rfl⟩⟩
  rwa [live?_congr hgroups] at hk

theorem refl (c : Coordinator) : Subsides c c := .of_groups rfl (.refl _) rfl

theorem empty (h : Subsides c d) (hempty : ∀ l, c.live? i = some l → l.window = [])
    (hk : d.live? i = some k) : k.window = [] := by
  rcases h.windows i k hk with hnone | ⟨l, hl, hwindow, -⟩
  · exact hnone
  · exact hwindow.trans (hempty l hl)

end Subsides

theorem relaxes_update {f : LiveGroup → LiveGroup} (hid : ∀ l, l.id = id → (f l).id = id)
    (hf : ∀ l, (f l).timer = none ∨ (f l).timer = l.timer) : Relaxes c (c.update id f) := by
  refine ⟨.refl _, rfl, fun i k hk => ?_⟩
  rw [live?_update hid] at hk
  split at hk
  · obtain ⟨l, hl, rfl⟩ := Option.map_eq_some_iff.mp hk
    exact (hf l).imp_right fun hsame => ⟨l, hl, hsame⟩
  · exact .inr ⟨k, hk, rfl⟩

theorem subsides_update {f : LiveGroup → LiveGroup} (hid : ∀ l, l.id = id → (f l).id = id)
    (htimer : ∀ l, (f l).timer = none ∨ (f l).timer = l.timer)
    (hwindow : ∀ l, c.live? id = some l → (f l).window = [] ∨
      (f l).window = l.window ∧ (f l).group.members = l.group.members) :
    Subsides c (c.update id f) := by
  refine ⟨relaxes_update hid htimer, fun i k hk => ?_⟩
  rw [live?_update hid] at hk
  split at hk
  next hi =>
    obtain ⟨l, hl, rfl⟩ := Option.map_eq_some_iff.mp hk
    exact (hwindow l (hi ▸ hl)).imp_right fun hsame => ⟨l, hl, hsame⟩
  next => exact .inr ⟨k, hk, rfl, rfl⟩

theorem subsides_stopTimer (c : Coordinator) (timer : Option Nat) : Subsides c (c.stopTimer timer) :=
  .of_groups rfl List.filter_sublist rfl

theorem subsides_cancel (c : Coordinator) (l : LiveGroup) : Subsides c (c.cancel l) := by
  refine (subsides_stopTimer c l.timer).trans (subsides_update ?_ ?_ ?_)
  · exact fun _ h => h
  · exact fun _ => .inl rfl
  · exact fun _ _ => .inl rfl

theorem window_of_cancelled (hk : (c.cancel l).live? l.id = some k) : k.window = [] := by
  rw [live?_cancel, if_pos rfl] at hk
  obtain ⟨j, -, rfl⟩ := Option.map_eq_some_iff.mp hk
  rfl

theorem subsides_cancel_update {f : LiveGroup → LiveGroup} (hid : ∀ k, k.id = l.id → (f k).id = l.id)
    (htimer : ∀ k, (f k).timer = k.timer) (hwindow : ∀ k, (f k).window = k.window) :
    Subsides c ((c.cancel l).update l.id f) :=
  (subsides_cancel c l).trans (subsides_update hid (fun k => .inr (htimer k))
    fun k hk => .inl ((hwindow k).trans (window_of_cancelled hk)))

theorem subsides_disarm (c : Coordinator) (l : LiveGroup) : Subsides c (c.disarm l) := by
  refine (subsides_stopTimer c l.timer).trans (subsides_update ?_ ?_ ?_)
  · exact fun _ h => h
  · exact fun _ => .inl rfl
  · exact fun _ _ => .inr ⟨rfl, rfl⟩

theorem subsides_drop (c : Coordinator) (l : LiveGroup) : Subsides c (c.drop l) := by
  have hrest : ∀ i k, (c.drop l).live? i = some k → c.live? i = some k := by
    intro i k hk
    rw [live?_drop] at hk
    split at hk
    · cases hk
    · exact hk
  exact ⟨⟨List.filter_sublist, rfl, fun i k hk => .inr ⟨k, hrest i k hk, rfl⟩⟩,
    fun i k hk => .inr ⟨k, hrest i k hk, rfl, rfl⟩⟩

theorem subsides_takeIn (c : Coordinator) (g : Group) : Subsides c (c.takeIn g) := by
  have hnew : ∀ i k, (c.takeIn g).live? i = some k →
      k = .fresh g c.settings.historyLimit ∨ c.live? i = some k := by
    intro i k hk
    rw [live?_takeIn] at hk
    split at hk
    · exact .inl (Option.some.inj hk).symm
    · exact .inr hk
  refine ⟨⟨.refl _, rfl, fun i k hk => ?_⟩, fun i k hk => ?_⟩
  · rcases hnew i k hk with rfl | hk
    · exact .inl rfl
    · exact .inr ⟨k, hk, rfl⟩
  · rcases hnew i k hk with rfl | hk
    · exact .inl rfl
    · exact .inr ⟨k, hk, rfl, rfl⟩

theorem subsides_expel (c : Coordinator) (control : String) (l : LiveGroup) :
    Subsides c (c.expel control l).1 := by
  rcases expel_cases c control l with ⟨-, he, -⟩ | ⟨-, he⟩
  · have hgroup : Subsides c ((c.cancel l).update l.id fun k =>
        { k with group := l.group.without control }) := by
      refine subsides_cancel_update ?_ ?_ ?_
      · exact fun _ _ => rfl
      · exact fun _ => rfl
      · exact fun _ => rfl
    rw [he]
    exact hgroup.trans (.of_groups rfl (.refl _) rfl)
  · rw [he]
    exact subsides_drop c l

theorem subsides_detachAll (hwk : WellKept c.roster) (controls : List String) (keep : String) :
    Subsides c (c.detachAll controls keep).1 :=
  detachAll_of_expel hwk (.refl c) (fun d l m _ hd _ _ _ => hd.trans (subsides_expel d m l)) controls

theorem subsides_redefine (hempty : ∀ l, c.live? g.id = some l → l.window = []) :
    Subsides c (c.redefine g) := by
  have hrules : Subsides c { c with
      rules := c.rules.filter fun r =>
        r.group != g.id || (g.contains r.source && g.contains r.target) } :=
    .of_groups rfl (.refl _) rfl
  refine hrules.trans (subsides_update ?_ ?_ ?_)
  · exact fun _ _ => rfl
  · exact fun _ => .inr rfl
  · exact fun l hl => .inl (hempty l hl)

theorem subsides_enrol (c : Coordinator) (l : LiveGroup) (control : String) :
    Subsides c (c.enrol l control) := by
  refine subsides_cancel_update ?_ ?_ ?_
  · exact fun _ _ => rfl
  · exact fun _ => rfl
  · exact fun _ => rfl

theorem subsides_send (c : Coordinator) (l : LiveGroup) (p : Parcel) (now : Int) :
    Subsides c (c.send l p now) := by
  have hstore : Subsides c { c with store := (propagate c.store l.group c.rules p).1 } :=
    .of_groups rfl (.refl _) rfl
  refine hstore.trans (subsides_update (f := fun k =>
    recordSent k (propagate c.store l.group c.rules p).2 now) ?_ ?_ ?_)
  · exact fun _ h => h
  · exact fun _ => .inr rfl
  · exact fun _ _ => .inr ⟨rfl, rfl⟩

theorem subsides_closeWindow (c : Coordinator) (id : String) (now : Int) :
    Subsides c (c.closeWindow id now).1 := by
  have hclear : Subsides c (c.clearWindow id) := by
    refine subsides_update ?_ ?_ ?_
    · exact fun _ h => h
    · exact fun _ => .inr rfl
    · exact fun _ _ => .inl rfl
  refine closeWindow_induction (.refl c) hclear (fun l last => hclear.trans ?_)
    fun d l p hd => hd.trans (subsides_send d l p now)
  rw [settle]
  split
  · exact .of_groups rfl (.refl _) rfl
  · exact .refl _

theorem attributed_note (h : Attributed c) (hl : c.live? l.id = some l) (w : Competing) (now : Int) :
    Attributed (c.note l w now) := by
  have hmem : ∀ t ∈ (c.note l w now).timers, t ∈ c.timers ∨ t = c.freshTimer l now := by
    intro t ht
    rcases List.mem_append.mp ht with ht | ht
    · exact .inl (List.mem_filter.mp ht).1
    · exact .inr (List.mem_singleton.mp ht)
  have hgroups : ∀ i k, (c.note l w now).live? i = some k →
      i = l.id ∧ k.timer = some c.nextTimer ∨ i ≠ l.id ∧ c.live? i = some k := by
    intro i k hk
    rcases eq_or_ne i l.id with rfl | hi
    · rw [live?_note hl] at hk
      exact .inl ⟨rfl, Option.some.inj hk ▸ rfl⟩
    · rw [live?_note_of_ne hi] at hk
      exact .inr ⟨hi, hk⟩
  refine ⟨?_, fun t ht => ?_, fun i k hk serial hserial => ?_, fun i k hk t ht hserial => ?_⟩
  · have hold : ((c.stopTimer l.timer).timers.map (·.serial)).Sublist (c.timers.map (·.serial)) :=
      List.filter_sublist.map _
    have htimers : (c.note l w now).timers.map (·.serial) =
        (c.stopTimer l.timer).timers.map (·.serial) ++ [c.nextTimer] := List.map_append
    rw [htimers, List.nodup_append]
    refine ⟨h.serials.sublist hold, by simp, fun s hs s' hs' he => ?_⟩
    obtain ⟨t, ht, rfl⟩ := List.mem_map.mp (hold.subset hs)
    have hlt := h.fresh t ht
    rw [he, List.mem_singleton.mp hs'] at hlt
    exact Nat.lt_irrefl _ hlt
  · change t.serial < c.nextTimer + 1
    rcases hmem t ht with ht | rfl
    · exact Nat.lt_succ_of_lt (h.fresh t ht)
    · exact Nat.lt_succ_self _
  · change serial < c.nextTimer + 1
    rcases hgroups i k hk with ⟨-, hnew⟩ | ⟨-, hk⟩
    · rw [hnew] at hserial
      exact Option.some.inj hserial ▸ Nat.lt_succ_self _
    · exact Nat.lt_succ_of_lt (h.held i k hk serial hserial)
  · -- the new serial is above all others
    rcases hgroups i k hk with ⟨rfl, hnew⟩ | ⟨-, hk⟩
    · rcases hmem t ht with ht | rfl
      · have hlt := h.fresh t ht
        rw [hnew] at hserial
        rw [Option.some.inj hserial] at hlt
        exact absurd hlt (Nat.lt_irrefl _)
      · rfl
    · rcases hmem t ht with ht | rfl
      · exact h.own i k hk t ht hserial
      · exact absurd (h.held i k hk _ hserial) (Nat.lt_irrefl _)

theorem subsides_perform (hwk : WellKept c.roster) {now : Int} {op : Operation}
    (hnone : ∀ id, c.accepted now id op = none) : Subsides c (c.perform now op) := by
  have keep {ε α : Type} {next : α → Coordinator} {r : Except ε α}
      (hok : ∀ a, r = .ok a → Subsides c (next a)) : Subsides c (c.after next r) :=
    after_induction (.refl c) hok
  cases op with
  | createGroup g =>
    refine keep fun o ho => ?_
    obtain ⟨-, -, hnext⟩ := createGroup_eq_ok ho
    exact hnext ▸ (subsides_detachAll hwk _ _).trans (subsides_takeIn _ g)
  | updateGroup g =>
    refine keep fun o ho => ?_
    obtain ⟨-, l, hl, hnext⟩ := updateGroup_eq_ok ho
    have hwk' : WellKept (c.cancel l).roster := by rwa [roster_cancel]
    have hdetached := subsides_detachAll hwk' g.members g.id
    have hempty (k : LiveGroup)
        (hk : ((c.cancel l).detachAll g.members g.id).1.live? g.id = some k) : k.window = [] := by
      refine hdetached.empty (fun j hj => ?_) hk
      rw [← id_of_live? hl] at hj
      exact window_of_cancelled hj
    exact hnext ▸ ((subsides_cancel c l).trans hdetached).trans (subsides_redefine hempty)
  | deleteGroup id =>
    refine keep fun o ho => ?_
    obtain ⟨l, -, hnext⟩ := deleteGroup_eq_ok ho
    exact hnext ▸ subsides_drop c l
  | addMember id control =>
    refine keep fun o ho => ?_
    obtain ⟨l, -, ⟨-, hnext⟩ | ⟨-, hnext⟩⟩ := addMember_eq_ok ho
    · exact hnext ▸ .refl c
    · exact hnext ▸ (subsides_detachAll hwk [control] id).trans (subsides_enrol _ l control)
  | removeMember id control =>
    refine keep fun o ho => ?_
    obtain ⟨l, -, -, hnext⟩ := removeMember_eq_ok ho
    exact hnext ▸ subsides_expel c control l
  | setEnabled id enabled =>
    refine keep fun o ho => ?_
    obtain ⟨l, hl, hnext⟩ := setEnabled_eq_ok ho
    rw [hnext]
    cases enabled with
    | true =>
      refine subsides_update ?_ ?_ ?_
      · exact fun _ _ => rfl
      · exact fun _ => .inr rfl
      · intro k hk
        obtain rfl : l = k := Option.some.inj (hl.symm.trans (id_of_live? hl ▸ hk))
        exact .inr ⟨rfl, rfl⟩
    | false =>
      refine subsides_cancel_update ?_ ?_ ?_
      · exact fun _ _ => rfl
      · exact fun _ => rfl
      · exact fun _ => rfl
  | loadGroups stored =>
    exact loadGroups_induction (.refl c) (fun d g hd _ _ => hd.trans (subsides_takeIn d g)) stored
  | addRule r =>
    refine keep fun a ha => ?_
    obtain ⟨-, -, -, -, -, hd⟩ := addRule_eq_ok ha
    exact hd ▸ .of_groups rfl (.refl _) rfl
  | removeRule id => exact keep fun a ha => (removeRule_eq_ok ha).2.2 ▸ .of_groups rfl (.refl _) rfl
  | setCombinator id f =>
    refine keep fun d hd => ?_
    obtain ⟨-, -, rfl⟩ := setCombinator_eq_ok hd
    exact .of_groups rfl (.refl _) rfl
  | change control v origin =>
    obtain ⟨hgroups, -, htimers, hnext⟩ := perform_change_of_none hnone
    exact .of_groups hgroups (htimers ▸ .refl _) hnext
  | flush id =>
    refine keep fun o ho => ?_
    obtain ⟨l, -, ⟨-, he⟩ | ⟨-, he⟩⟩ := flush_eq_ok ho
    · exact he ▸ subsides_disarm c l
    · exact he ▸ (subsides_disarm c l).trans (subsides_closeWindow _ id now)
  | resolve id v resolver =>
    refine keep fun r hr => ?_
    obtain ⟨k, -, ⟨-, he⟩ | ⟨-, -, he⟩ | ⟨-, l, -, -, he⟩⟩ := resolveConflict_eq_ok hr
    · exact he ▸ .refl c
    · exact he ▸ .of_groups rfl (.refl _) rfl
    · have hreplaced : Subsides c (c.replaceConflict (k.resolve v resolver now)) :=
        .of_groups rfl (.refl _) rfl
      rw [he]
      refine (hreplaced.trans (subsides_send _ l ⟨none, k.control, v⟩ now)).trans
        (subsides_update ?_ ?_ ?_)
      · exact fun _ h => h
      · exact fun _ => .inr rfl
      · exact fun _ _ => .inr ⟨rfl, rfl⟩
  | ignore id =>
    refine keep fun a ha => ?_
    obtain ⟨_, -, hd⟩ := ignoreConflict_eq_ok ha
    exact hd ▸ .of_groups rfl (.refl _) rfl
  | shutdown => exact shutdown_induction (.refl c) fun d l _ hd => hd.trans (subsides_cancel d l)
  | expire t =>
    simp only [perform]
    split
    · have hstopped := subsides_stopTimer c (some t.serial)
      rcases fire_cases c t now with ⟨he, -⟩ | ⟨l, -, -, -, he⟩
      · exact he ▸ hstopped
      · have hcleared : Subsides (c.stopTimer (some t.serial))
            ((c.stopTimer (some t.serial)).update t.group fun k => { k with timer := none }) := by
          refine subsides_update ?_ ?_ ?_
          · exact fun _ h => h
          · exact fun _ => .inl rfl
          · exact fun _ _ => .inr ⟨rfl, rfl⟩
        rw [he]
        exact (hstopped.trans hcleared).trans (subsides_closeWindow _ t.group now)
    · exact .refl c
  | act a => exact keep fun _ _ => .of_groups rfl (.refl _) rfl

theorem attributed_perform (hwk : WellKept c.roster) (h : Attributed c) (now : Int) (op : Operation) :
    Attributed (c.perform now op) := by
  rcases accepted_cases c now op with ⟨id, w, hacc⟩ | hnone
  · obtain ⟨-, l, store, hl, -, hd⟩ := perform_of_accepted hwk hacc
    obtain rfl := id_of_live? hl
    have hstored : Relaxes c { c with store := store } := .of_groups rfl (.refl _) rfl
    rw [hd]
    exact attributed_note (hstored.attributed h) hl w w.time
  · exact (subsides_perform hwk hnone).attributed h

theorem Reachable.attributed (h : Reachable c) : Attributed c := by
  induction h with
  | start settings store nextConflict =>
    refine ⟨.nil, fun _ ht => absurd ht List.not_mem_nil, fun _ _ hl => ?_, fun _ _ hl => ?_⟩
    · cases hl
    · cases hl
  | step now op hr ih => exact attributed_perform hr.wellKept ih now op

end LinkedControls.Coordinator
