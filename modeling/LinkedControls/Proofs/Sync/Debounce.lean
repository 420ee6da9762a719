import LinkedControls.Proofs.Sync.Turn

/-!
What is in the window of a group: the last write of each member since the window was last closed or
dropped, in the order of those writes.
-/

namespace LinkedControls

def lastWrites : List Competing → List Competing
  | [] => []
  | w :: rest =>
      if rest.any (·.control == w.control) then lastWrites rest else w :: lastWrites rest

theorem lastWrites_concat (writes : List Competing) (w : Competing) :
    lastWrites (writes ++ [w]) = LiveGroup.gather (lastWrites writes) w := by
  induction writes with
  | nil => rfl
  | cons v rest ih =>
    simp only [List.cons_append, lastWrites, ih, List.any_append, List.any_cons, List.any_nil,
      Bool.or_false, Bool.or_eq_true]
    by_cases hrest : rest.any (·.control == v.control) = true
    · simp [hrest]
    · by_cases hw : w.control = v.control
      · simp [hrest, hw, LiveGroup.gather]
      · simp [hrest, hw, Ne.symm hw, LiveGroup.gather]

namespace Coordinator

variable {c d : Coordinator} {l : LiveGroup} {id : String} {op : Operation} {w : Competing}

/-- The write that an operation puts in the window of a group: a user's change of a member while the
group is enabled, with the value that the store keeps. -/
def accepted (c : Coordinator) (now : Int) (id : String) : Operation → Option Competing
  | .change control v .user =>
      match c.liveOf? control, c.store.kept control v with
      | some l, .ok held =>
          if l.id = id ∧ l.group.enabled then some ⟨control, held, now, .user⟩ else none
      | _, _ => none
  | _ => none

/-- The operation closes or drops the window of a group, or changes its definition or members. -/
def ends (c : Coordinator) (now : Int) (id : String) (op : Operation) : Bool :=
  c.interrupts id op || (c.perform now op).membersOf? id != c.membersOf? id

/-- The writes that a group has accepted since its window was last closed or dropped. -/
def ledger (c : Coordinator) (id : String) (log : List Competing) :
    List (Int × Operation) → List Competing
  | [] => log
  | (now, op) :: rest =>
      (c.perform now op).ledger id
        (if c.ends now id op then [] else log ++ (c.accepted now id op).toList) rest

def mayPerform (c : Coordinator) : Operation → Bool
  | .loadGroups _ => c.groups.isEmpty
  | _ => true

def loadsFirst (c : Coordinator) : List (Int × Operation) → Bool
  | [] => true
  | (now, op) :: rest => c.mayPerform op && (c.perform now op).loadsFirst rest

theorem groups_of_mayPerform {stored : List Group} (h : c.mayPerform op = true)
    (hop : op = .loadGroups stored) : c.groups = [] := by
  subst hop
  simpa [mayPerform] using h

theorem accepted_eq_some {now : Int} (h : c.accepted now id op = some w) :
    ∃ control v held l, op = .change control v .user ∧ c.liveOf? control = some l ∧ l.id = id ∧
      l.group.enabled = true ∧ c.store.kept control v = .ok held ∧ w = ⟨control, held, now, .user⟩ := by
  cases op with
  | change control v origin =>
    cases origin with
    | user =>
      simp only [accepted] at h
      cases hl : c.liveOf? control with
      | none => simp [hl] at h
      | some l =>
        cases hk : c.store.kept control v with
        | error e => simp [hl, hk] at h
        | ok held =>
          simp only [hl, hk, Option.ite_none_right_eq_some, Option.some.injEq] at h
          exact ⟨control, v, held, l, rfl, hl, h.1.1, h.1.2, hk, h.2.symm⟩
    | _ => cases h
  | _ => cases h

theorem time_accepted {now : Int} (h : c.accepted now id op = some w) : w.time = now := by
  obtain ⟨control, v, held, l, -, -, -, -, -, rfl⟩ := accepted_eq_some h
  rfl

theorem accepted_unique {now : Int} {i : String} {u : Competing} (h : c.accepted now id op = some w)
    (h' : c.accepted now i op = some u) : i = id := by
  obtain ⟨_, _, _, l, rfl, hl, rfl, _⟩ := accepted_eq_some h
  obtain ⟨_, _, _, k, he, hk, rfl, _⟩ := accepted_eq_some h'
  obtain ⟨rfl, rfl, _⟩ := Operation.change.inj he
  rw [Option.some.inj (hk.symm.trans hl)]

theorem accepted_cases (c : Coordinator) (now : Int) (op : Operation) :
    (∃ id w, c.accepted now id op = some w) ∨ ∀ id, c.accepted now id op = none := by
  by_cases h : ∃ id w, c.accepted now id op = some w
  · exact .inl h
  · exact .inr fun id => Option.eq_none_iff_forall_ne_some.mpr fun w hw => h ⟨id, w, hw⟩

theorem perform_of_accepted (hwk : WellKept c.roster) {now : Int}
    (h : c.accepted now id op = some w) :
    (∃ control v, op = .change control v .user) ∧
      ∃ l store, c.live? id = some l ∧ l.group.enabled = true ∧
        c.perform now op = { c with store := store }.note l w w.time := by
  obtain ⟨control, v, held, l, rfl, hl, rfl, he, hk, rfl⟩ := accepted_eq_some h
  obtain ⟨store, change, hwrite⟩ := Store.write_of_kept hk .user
  obtain ⟨_, held', _, hk', hchange, _⟩ := Store.write_eq_ok hwrite
  obtain rfl : held = held' := Except.ok.inj (hk.symm.trans hk')
  refine ⟨⟨control, v, rfl⟩, l, store, live?_of_wellKept hwk (mem_of_liveOf? hl), he, ?_⟩
  simp only [perform, handleChange_of_write hwrite hl he, after, hchange]

theorem perform_change_of_none {control : String} {v : Value} {origin : Origin} {now : Int}
    (h : ∀ id, c.accepted now id (.change control v origin) = none) :
    (c.perform now (.change control v origin)).groups = c.groups ∧
      (c.perform now (.change control v origin)).settings = c.settings ∧
      (c.perform now (.change control v origin)).timers = c.timers ∧
      (c.perform now (.change control v origin)).nextTimer = c.nextTimer := by
  refine after_induction (P := fun d => d.groups = c.groups ∧ d.settings = c.settings ∧
    d.timers = c.timers ∧ d.nextTimer = c.nextTimer) ⟨rfl, rfl, rfl, rfl⟩ ?_
  rintro ⟨change, d⟩ hd
  obtain ⟨store, hwrite, ⟨he, _⟩ | ⟨rfl, l, hl, he, _⟩⟩ := handleChange_eq_ok hd
  · exact he ▸ ⟨rfl, rfl, rfl, rfl⟩
  · obtain ⟨_, held, _, hk, _⟩ := Store.write_eq_ok hwrite
    have hnone := h l.id
    simp [accepted, hl, hk, he] at hnone

theorem turn_perform (hwk : WellKept c.roster) (hc : Clockwork c) {now : Int}
    (hload : c.mayPerform op = true) (hnone : ∀ id, c.accepted now id op = none) :
    Turn c op (c.perform now op) := by
  -- an error leaves the state, and what it would have closed is not there
  have unchanged (h : ∀ id, c.interrupts id op = true → c.live? id = none) : Turn c op c :=
    turn_refl hc h
  have missing {α : Type} {r : Except SyncError α} {e : SyncError} {id : String} (hr : r = .error e)
      (h : ∀ l, c.live? id = some l → ∃ o, r = .ok o) : c.live? id = none := by
    cases hl : c.live? id with
    | none => rfl
    | some l =>
      obtain ⟨o, ho⟩ := h l hl
      rw [hr] at ho
      cases ho
  have steady {d : Coordinator} (hgroups : d.groups = c.groups) (hsettings : d.settings = c.settings)
      (htimers : d.timers = c.timers) (hnext : d.nextTimer = c.nextTimer)
      (hno : ∀ id, c.interrupts id op = false) : Turn c op d :=
    turn_steady hc (steady_of_groups hgroups hsettings htimers hnext)
      (membersOf?_of_roster (roster_congr hgroups)) hno
  cases op with
  | createGroup g =>
    exact after_induction (unchanged (by simp [interrupts])) fun o ho => turn_createGroup hwk hc ho
  | updateGroup g =>
    simp only [perform]
    cases ho : c.updateGroup g with
    | ok o => exact turn_updateGroup hwk hc ho
    | error e =>
      refine unchanged ?_
      intro id hid
      have hg : g.id = id ∧ g.isValid = true := by simpa [interrupts] using hid
      exact missing ho fun l hl => updateGroup_of_live? hg.2 (hg.1 ▸ hl)
  | deleteGroup id =>
    refine after_induction (unchanged (by simp [interrupts])) fun o ho => ?_
    obtain ⟨l, hl, hnext⟩ := deleteGroup_eq_ok ho
    obtain rfl := id_of_live? hl
    exact hnext ▸ turn_detached (detached_drop hwk hc hl) fun _ => rfl
  | addMember id control =>
    exact after_induction (unchanged (by simp [interrupts])) fun o ho => turn_addMember hwk hc ho
  | removeMember id control =>
    refine after_induction (unchanged (by simp [interrupts])) fun o ho => ?_
    obtain ⟨l, hl, hm, hnext⟩ := removeMember_eq_ok ho
    exact hnext ▸ turn_detached ((Detached.refl hwk hc).expel (mem_of_live? hl) hm) fun _ => rfl
  | setEnabled i enabled =>
    simp only [perform]
    cases ho : c.setEnabled i enabled with
    | ok o => exact turn_setEnabled hc ho
    | error e =>
      refine unchanged ?_
      intro id hid
      have hi : i = id ∧ enabled = false := by simpa [interrupts] using hid
      exact missing ho fun l hl => setEnabled_of_live? (hi.1 ▸ hl) enabled
  | loadGroups stored => exact turn_loadGroups hc (groups_of_mayPerform hload rfl) stored
  | addRule r =>
    refine after_induction (unchanged (by simp [interrupts])) fun a ha => ?_
    obtain ⟨_, _, _, _, _, hd⟩ := addRule_eq_ok ha
    exact hd ▸ steady rfl rfl rfl rfl fun _ => rfl
  | removeRule id =>
    refine after_induction (unchanged (by simp [interrupts])) fun a ha => ?_
    exact (removeRule_eq_ok ha).2.2 ▸ steady rfl rfl rfl rfl fun _ => rfl
  | setCombinator id f =>
    refine after_induction (unchanged (by simp [interrupts])) fun d hd => ?_
    obtain ⟨_, _, rfl⟩ := setCombinator_eq_ok hd
    exact steady rfl rfl rfl rfl fun _ => rfl
  | change control v origin =>
    obtain ⟨hgroups, hsettings, htimers, hnext⟩ := perform_change_of_none hnone
    exact steady hgroups hsettings htimers hnext fun _ => rfl
  | flush i =>
    simp only [perform]
    cases ho : c.flush i now with
    | ok o => exact turn_flush hc ho
    | error e =>
      refine unchanged ?_
      intro id hid
      obtain rfl := (interrupts_flush id).mp hid
      exact missing ho fun l hl => flush_of_live? hl now
  | resolve id v resolver =>
    refine after_induction (unchanged (by simp [interrupts])) fun r hr => ?_
    exact turn_resolveConflict hc hr
  | ignore id =>
    refine after_induction (unchanged (by simp [interrupts])) fun a ha => ?_
    obtain ⟨_, _, hd⟩ := ignoreConflict_eq_ok ha
    exact hd ▸ steady rfl rfl rfl rfl fun _ => rfl
  | shutdown => exact turn_shutdown hwk hc
  | expire t =>
    simp only [perform]
    by_cases ht : t ∈ c.timers
    · rw [if_pos ht]
      exact turn_expire hc ht now
    · rw [if_neg ht]
      exact unchanged (by simp [interrupts, ht])
  | act a =>
    refine after_induction (unchanged (by simp [interrupts])) fun r _ => ?_
    exact steady rfl rfl rfl rfl fun _ => rfl

structure Logged (c : Coordinator) (now : Int) (op : Operation) (d : Coordinator) : Prop where
  settings : d.settings = c.settings
  clockwork : Clockwork d
  ended : ∀ id, c.ends now id op = true → ∀ l, d.live? id = some l → l.window = []
  noted : ∀ id, c.ends now id op = false → d.windowOf? id =
    (c.windowOf? id).map fun window => (c.accepted now id op).toList.foldl LiveGroup.gather window

theorem logged_of_turn {now : Int} (h : Turn c op (c.perform now op))
    (hnone : ∀ id, c.accepted now id op = none) : Logged c now op (c.perform now op) := by
  refine ⟨h.settings, h.clockwork, ?_, ?_⟩
  · intro id hends
    cases hi : c.interrupts id op with
    | true => exact h.dropped id hi
    | false =>
      cases h.passes id hi with
      | same members _ => simp [ends, hi, members] at hends
      | lost _ window => exact window
  · intro id hends
    simp only [ends, Bool.or_eq_false_iff, bne_eq_false_iff_eq] at hends
    obtain ⟨hi, hm⟩ := hends
    cases h.passes id hi with
    | same _ window => simpa [hnone id] using window
    | lost members _ => exact absurd hm members

theorem logged_of_accepted (hwk : WellKept c.roster) (hc : Clockwork c) {now : Int}
    (h : c.accepted now id op = some w) : Logged c now op (c.perform now op) := by
  obtain ⟨⟨control, v, rfl⟩, l, store, hl, he, hd⟩ := perform_of_accepted hwk h
  obtain rfl := id_of_live? hl
  have hstore : Clockwork { c with store := store } := hc.steady (steady_of_groups rfl rfl rfl rfl)
  have hroster : (c.perform now (.change control v .user)).roster = c.roster := by
    rw [hd, roster_note]
    rfl
  have hkeeps (i : String) : c.ends now i (.change control v .user) = false := by
    simp [ends, interrupts, membersOf?_of_roster hroster i]
  refine ⟨by rw [hd]; rfl, hd ▸ hstore.note hl he w, ?_, ?_⟩
  · intro i hi
    rw [hkeeps i] at hi
    cases hi
  · intro i _
    by_cases hi : i = l.id
    · subst hi
      rw [hd, windowOf?, live?_note (c := { c with store := store }) hl, windowOf?, hl, h]
      rfl
    · have hnone : c.accepted now i (.change control v .user) = none := by
        cases hacc : c.accepted now i (.change control v .user) with
        | none => rfl
        | some u => exact absurd (accepted_unique h hacc) hi
      rw [hd, windowOf?, live?_note_of_ne (c := { c with store := store }) hi, hnone]
      exact Option.map_id'.symm

theorem logged_perform (hwk : WellKept c.roster) (hc : Clockwork c) (now : Int)
    (hload : c.mayPerform op = true) : Logged c now op (c.perform now op) := by
  rcases accepted_cases c now op with ⟨id, w, h⟩ | hnone
  · exact logged_of_accepted hwk hc h
  · exact logged_of_turn (turn_perform hwk hc hload hnone) hnone

structure Kept (c : Coordinator) (settings : SyncSettings) (logs : String → List Competing) :
    Prop where
  settings : c.settings = settings
  clockwork : Clockwork c
  windows : ∀ id l, c.live? id = some l → l.window = lastWrites (logs id)

theorem kept_step {settings : SyncSettings} {logs : String → List Competing} {now : Int}
    (h : Kept c settings logs) (hlogged : Logged c now op d) :
    Kept d settings fun id =>
      if c.ends now id op then [] else logs id ++ (c.accepted now id op).toList := by
  refine ⟨hlogged.settings.trans h.settings, hlogged.clockwork, ?_⟩
  intro id k hk
  cases hends : c.ends now id op with
  | true => exact hlogged.ended id hends k hk
  | false =>
    have hwindow := hlogged.noted id hends
    rw [windowOf?, hk] at hwindow
    obtain ⟨window, hw, he⟩ := Option.map_eq_some_iff.mp hwindow.symm
    obtain ⟨l, hl, rfl⟩ := Option.map_eq_some_iff.mp hw
    have he : k.window = (c.accepted now id op).toList.foldl LiveGroup.gather l.window := he.symm
    rw [if_neg Bool.false_ne_true, he, h.windows id l hl]
    cases c.accepted now id op with
    | none => simp
    | some w => exact (lastWrites_concat (logs id) w).symm

theorem kept_performAll {settings : SyncSettings} {logs : String → List Competing}
    (hreach : Reachable c) (h : Kept c settings logs) {run : List (Int × Operation)}
    (hload : c.loadsFirst run = true) :
    Kept (c.performAll run) settings fun id => c.ledger id (logs id) run := by
  induction run generalizing c logs with
  | nil => exact h
  | cons step rest ih =>
    obtain ⟨now, op⟩ := step
    simp only [loadsFirst, Bool.and_eq_true] at hload
    -- one step takes the ledgers and the windows along together
    have hlogged := logged_perform hreach.wellKept h.clockwork now hload.1
    exact ih (hreach.step now op) (kept_step h hlogged) hload.2

theorem window_eq_lastWrites {settings : SyncSettings} {store : Store} {nextConflict : Nat}
    {run : List (Int × Operation)} (hload : (start settings store nextConflict).loadsFirst run = true)
    (hc : c = (start settings store nextConflict).performAll run) :
    (∀ l ∈ c.groups,
      l.window = lastWrites ((start settings store nextConflict).ledger l.id [] run) ∧
        Ticks settings.debounce l (c.timersOf l.id)) ∧
      (∀ t ∈ c.timers, ∃ l ∈ c.groups, l.id = t.group) ∧
      (∀ now op, c.mayPerform op = true → (∀ id, c.accepted now id op = none) →
        (c.perform now op).timers.Sublist c.timers ∧
          ∀ id l, (c.perform now op).live? id = some l →
            l.window = [] ∨ c.windowOf? id = some l.window) ∧
      ∀ now control v origin, origin ≠ .user →
        (c.perform now (.change control v origin)).groups = c.groups ∧
          (c.perform now (.change control v origin)).timers = c.timers := by
  have hstart := Reachable.start settings store nextConflict
  have hinit : Kept (start settings store nextConflict) settings fun _ => [] :=
    ⟨rfl, clockwork_start settings store nextConflict, fun _ _ hl => by cases hl⟩
  have hkept := kept_performAll hstart hinit hload
  have hreach := hstart.performAll run
  rw [← hc] at hkept hreach
  have hwk := hreach.wellKept
  refine ⟨?_, ?_, ?_, ?_⟩
  · intro l hl
    have hlive := live?_of_wellKept hwk hl
    refine ⟨hkept.windows l.id l hlive, ?_⟩
    have hticks := hkept.clockwork.ticks l.id l hlive
    rwa [hkept.settings] at hticks
  · intro t ht
    obtain ⟨l, hl⟩ := hkept.clockwork.owned t ht
    exact ⟨l, mem_of_live? hl, id_of_live? hl⟩
  · intro now op hmay hnone
    have hturn := turn_perform hwk hkept.clockwork hmay hnone
    refine ⟨hturn.timers, ?_⟩
    intro id l hl
    cases hi : c.interrupts id op with
    | true => exact .inl (hturn.dropped id hi l hl)
    | false =>
      cases hturn.passes id hi with
      | same _ window =>
        rw [windowOf?, hl] at window
        exact .inr window.symm
      | lost _ window => exact .inl (window l hl)
  · intro now control v origin ho
    have hnone (id : String) : c.accepted now id (.change control v origin) = none := by
      cases origin with
      | user => exact absurd rfl ho
      | _ => rfl
    obtain ⟨hgroups, _, htimers, _⟩ := perform_change_of_none hnone
    exact ⟨hgroups, htimers⟩

def rewrittenText : List (Int × Operation) := [
  (0, .act (.register "a" .text (.text ""))),
  (0, .act (.register "b" .text (.text ""))),
  (0, .loadGroups [⟨"g", "g", ["a", "b"], .bidirectional, none, .latestWins, true, none⟩]),
  (1, .change "a" (.text "u") .user),
  (2, .flush "g"),
  (3, .change "a" (.text "x") .user),
  (4, .change "b" (.text "y") .user),
  (5, .change "b" (.text "v") .url),
  (6, .change "a" (.text "z") .user)]

theorem window_eq_lastWrites_rewrittenText :
    (start .default .empty 0).loadsFirst rewrittenText = true ∧
      ∀ l ∈ ((start .default .empty 0).performAll rewrittenText).groups, l.id = "g" →
        l.window = [⟨"b", .text "y", 4, .user⟩, ⟨"a", .text "z", 6, .user⟩] ∧
          ∃ serial, ((start .default .empty 0).performAll rewrittenText).timersOf "g" =
            [⟨serial, "g", l.generation, 306⟩] := by
  have hload : (start .default .empty 0).loadsFirst rewrittenText = true := by decide
  refine ⟨hload, ?_⟩
  intro l hl hid
  obtain ⟨hwindow, hticks⟩ := (window_eq_lastWrites hload rfl).1 l hl
  rw [hid] at hwindow hticks
  have hlog : lastWrites ((start .default .empty 0).ledger "g" [] rewrittenText) =
      [⟨"b", .text "y", 4, .user⟩, ⟨"a", .text "z", 6, .user⟩] := by decide
  have hw := hwindow.trans hlog
  refine ⟨hw, ?_⟩
  rcases hticks with ⟨hempty, _⟩ | ⟨last, serial, hlast, _, _, _, hts⟩
  · rw [hw] at hempty
    cases hempty
  · rw [hw] at hlast
    obtain rfl := Option.some.inj hlast
    exact ⟨serial, hid ▸ hts⟩

end Coordinator

end LinkedControls
