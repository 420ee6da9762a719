import LinkedControls.Proofs.Sync.Pauses
import LinkedControls.Sync.Script

/-!
Scripts as runs of operations: the groups, rules and combinators first, then for each step the timers that
are due within its pause and what it asks for, and in the end the timers that are due within the last
pause.
-/

namespace LinkedControls

open Coordinator

variable {s t u : Session}

def Operation.ofStep : Operation → Bool
  | .change .. => true
  | .resolve .. => true
  | .expire _ => true
  | _ => false

theorem loads_of_ofStep {op : Operation} (h : op.ofStep = true) : op.loads = false := by
  cases op with
  | loadGroups stored => cases h
  | _ => rfl

structure Within (later : Int) (entry : Int × Operation) : Prop where
  ofStep : entry.2.ofStep = true
  time : entry.1 ≤ later
  due : ∀ t, entry.2 = .expire t → entry.1 = t.due

theorem Within.mono {later later' : Int} {entry : Int × Operation} (h : Within later entry)
    (hle : later ≤ later') : Within later' entry :=
  ⟨h.ofStep, h.time.trans hle, h.due⟩

theorem within_expiries {c : Coordinator} {later : Int} {entry : Int × Operation}
    (h : entry ∈ c.expiries later) : Within later entry := by
  obtain ⟨t, ht, rfl⟩ := List.mem_map.mp h
  refine ⟨rfl, (mem_dueTimers.mp ht).2, ?_⟩
  rintro _ ⟨⟩
  rfl

namespace ScriptStep

def operation? (kinds : List (String × Kind)) (c : Coordinator) (t : ScriptStep) : Option Operation :=
  match t.action with
  | .change control value origin =>
      (kinds.lookup control).map fun k => .change control (Value.ofLoose value k) origin
  | .resolve group value =>
      (c.conflictsWith (some group) (some .pending)).head?.map fun k =>
        let v := match kinds.lookup k.control with
          | some kind => Value.ofLoose value kind
          | none => .null
        .resolve k.id v "script"

def run (kinds : List (String × Kind)) (c : Coordinator) (now : Int) (t : ScriptStep) :
    List (Int × Operation) :=
  let expired := c.expiries (now + t.pause)
  expired ++ ((t.operation? kinds (c.performAll expired)).map fun op => (now + t.pause, op)).toList

def runAll (kinds : List (String × Kind)) (c : Coordinator) (now : Int) :
    List ScriptStep → List (Int × Operation)
  | [] => []
  | t :: rest =>
      t.run kinds c now ++ runAll kinds (c.performAll (t.run kinds c now)) (now + t.pause) rest

def pauses : List ScriptStep → Nat
  | [] => 0
  | t :: rest => t.pause + pauses rest

theorem pauses_append (front back : List ScriptStep) :
    pauses (front ++ back) = pauses front + pauses back := by
  induction front with
  | nil => exact (Nat.zero_add _).symm
  | cons t rest ih => rw [List.cons_append, pauses, ih, pauses, Nat.add_assoc]

theorem ofStep_of_asked {kinds : List (String × Kind)} {c : Coordinator} {step : ScriptStep}
    {op : Operation} (h : step.operation? kinds c = some op) :
    op.ofStep = true ∧ ∀ t, op ≠ .expire t := by
  obtain ⟨pause, action⟩ := step
  cases action with
  | change control value origin =>
    obtain ⟨k, -, rfl⟩ := Option.map_eq_some_iff.mp h
    exact ⟨rfl, nofun⟩
  | resolve group value =>
    obtain ⟨k, -, rfl⟩ := Option.map_eq_some_iff.mp h
    exact ⟨rfl, nofun⟩

theorem within_run {kinds : List (String × Kind)} {c : Coordinator} {now : Int} {step : ScriptStep}
    {entry : Int × Operation} (h : entry ∈ step.run kinds c now) : Within (now + step.pause) entry := by
  rcases List.mem_append.mp h with h | h
  · exact within_expiries h
  · obtain ⟨op, hop, rfl⟩ := Option.map_eq_some_iff.mp (Option.mem_toList.mp h)
    obtain ⟨hstep, hno⟩ := ofStep_of_asked hop
    exact ⟨hstep, le_refl _, fun t ht => absurd ht (hno t)⟩

theorem within_runAll {kinds : List (String × Kind)} {c : Coordinator} {now : Int}
    {steps : List ScriptStep} {entry : Int × Operation} (h : entry ∈ runAll kinds c now steps) :
    Within (now + pauses steps) entry := by
  induction steps generalizing c now with
  | nil => cases h
  | cons step rest ih =>
    have hpauses : now + pauses (step :: rest) = now + step.pause + pauses rest := by
      simp [pauses, Int.add_assoc]
    rcases List.mem_append.mp h with h | h
    · exact (within_run h).mono (by omega)
    · exact (ih h).mono hpauses.ge

theorem runAll_append (kinds : List (String × Kind)) (c : Coordinator) (now : Int)
    (front back : List ScriptStep) : runAll kinds c now (front ++ back) =
      runAll kinds c now front ++
        runAll kinds (c.performAll (runAll kinds c now front)) (now + pauses front) back := by
  induction front generalizing c now with
  | nil => simp [runAll, pauses, performAll]
  | cons t rest ih =>
    simp only [List.cons_append, runAll, ih, List.append_assoc, performAll_append]
    simp [pauses, Int.add_assoc]

end ScriptStep

namespace Script

def kinds (script : Script) : List (String × Kind) := script.controls.map fun d => (d.id, d.kind)

def rule (entry : RuleSpec × Nat) : Rule :=
  ⟨toString entry.2, entry.1.group, entry.1.source, entry.1.target, entry.1.transform, true⟩

def combinator? (entry : String × String) : Option Operation :=
  (Combinator.named? entry.2).map (.setCombinator entry.1)

def opening (script : Script) : List Operation :=
  script.groups.flatMap (fun g => [.createGroup g]) ++
    (script.rules.zipIdx.flatMap (fun entry => [.addRule (rule entry)]) ++
      script.combinators.flatMap fun entry => (combinator? entry).toList)

def runUntil (script : Script) (settings : SyncSettings) (store : Store) (now : Int)
    (steps : List ScriptStep) : List (Int × Operation) :=
  let opened := script.opening.map fun op => (now, op)
  opened ++ ScriptStep.runAll script.kinds ((start settings store 0).performAll opened) now steps

/-- The run of a script up to what is asked for by the step that follows some of its steps. -/
def runBefore (script : Script) (settings : SyncSettings) (store : Store) (now : Int)
    (front : List ScriptStep) (pause : Nat) : List (Int × Operation) :=
  let stepped := script.runUntil settings store now front
  stepped ++ ((start settings store 0).performAll stepped).expiries
    (now + ScriptStep.pauses front + pause)

def run (script : Script) (settings : SyncSettings) (store : Store) (now : Int) :
    List (Int × Operation) :=
  let stepped := script.runUntil settings store now script.steps
  stepped ++ ((start settings store 0).performAll stepped).expiries
    (now + ScriptStep.pauses script.steps + (settings.debounce + closingPause : ℕ))

theorem loads_of_mem_opening {script : Script} {op : Operation} (h : op ∈ script.opening) :
    op.loads = false := by
  simp only [opening, List.mem_append, List.mem_flatMap, List.mem_singleton, Option.mem_toList,
    combinator?, Option.map_eq_some_iff] at h
  rcases h with ⟨g, -, rfl⟩ | ⟨entry, -, rfl⟩ | ⟨entry, -, f, -, rfl⟩ <;> rfl

theorem of_mem_runUntil {script : Script} {settings : SyncSettings} {store : Store} {now : Int}
    {steps : List ScriptStep} {entry : Int × Operation}
    (h : entry ∈ script.runUntil settings store now steps) :
    entry.1 ≤ now + ScriptStep.pauses steps ∧ entry.2.loads = false := by
  rcases List.mem_append.mp h with h | h
  · obtain ⟨op, hop, rfl⟩ := List.mem_map.mp h
    exact ⟨by simp only; omega, loads_of_mem_opening hop⟩
  · have hwithin := ScriptStep.within_runAll h
    exact ⟨hwithin.time, loads_of_ofStep hwithin.ofStep⟩

theorem loads_of_mem_run {script : Script} {settings : SyncSettings} {store : Store} {now : Int}
    {entry : Int × Operation} (h : entry ∈ script.run settings store now) : entry.2.loads = false := by
  rcases List.mem_append.mp h with h | h
  · exact (of_mem_runUntil h).2
  · exact loads_of_ofStep (within_expiries h).ofStep

theorem runUntil_append (script : Script) (settings : SyncSettings) (store : Store) (now : Int)
    (front back : List ScriptStep) : script.runUntil settings store now (front ++ back) =
      script.runUntil settings store now front ++ ScriptStep.runAll script.kinds
        ((start settings store 0).performAll (script.runUntil settings store now front))
        (now + ScriptStep.pauses front) back := by
  simp only [runUntil, ScriptStep.runAll_append, List.append_assoc, performAll_append]

end Script

namespace Session

structure Does (s : Session) (ops : List Operation) (t : Session) : Prop where
  coordinator : t.coordinator = s.coordinator.performAll (ops.map fun op => (s.now, op))
  now : t.now = s.now

theorem Does.trans {ops more : List Operation} (h : Does s ops t) (h' : Does t more u) :
    Does s (ops ++ more) u := by
  refine ⟨?_, h'.now.trans h.now⟩
  rw [h'.coordinator, h.coordinator, h.now, List.map_append, performAll_append]

theorem does_foldlM {α : Type} {f : Session → α → Except ScriptError Session}
    {ops : α → List Operation} (hf : ∀ s a t, f s a = .ok t → Does s (ops a) t) {items : List α}
    (h : items.foldlM f s = .ok t) : Does s (items.flatMap ops) t := by
  induction items generalizing s with
  | nil =>
    cases h
    exact ⟨rfl, rfl⟩
  | cons a rest ih =>
    obtain ⟨u, hu, h⟩ := bind_eq_ok h
    exact (hf s a u hu).trans (ih h)

end Session

namespace Script

theorem lift_act_eq_ok {ε α : Type} {wrap : ε → ScriptError}
    {f : Coordinator → Except ε (α × Coordinator)} {r : α × Session}
    (h : lift wrap (s.act f) = .ok r) :
    ∃ a c, f s.coordinator = .ok (a, c) ∧ r.2 = { s with coordinator := c } := by
  unfold Session.act at h
  cases hf : f s.coordinator with
  | error e =>
    rw [hf] at h
    cases h
  | ok b =>
    rw [hf] at h
    cases h
    exact ⟨b.1, b.2, rfl, rfl⟩

theorem lift_run_eq_ok {α : Type} {wrap : SyncError → ScriptError}
    {f : Coordinator → Except SyncError (Outcome α)} {r : α × Session}
    (h : lift wrap (s.run f) = .ok r) :
    ∃ o, f s.coordinator = .ok o ∧ r.2.coordinator = o.next ∧ r.2.now = s.now := by
  unfold Session.run at h
  cases hf : f s.coordinator with
  | error e =>
    rw [hf] at h
    cases h
  | ok o =>
    rw [hf] at h
    have hcoordinator := Session.coordinator_commit { s with coordinator := o.next } o.writes
    have hnow := Session.now_commit { s with coordinator := o.next } o.writes
    cases hcommit : Session.commit { s with coordinator := o.next } o.writes with
    | mk result t =>
      rw [hcommit] at hcoordinator hnow
      cases result with
      | error e =>
        simp only [hcommit] at h
        cases h
      | ok a =>
        simp only [hcommit] at h
        cases h
        exact ⟨o, rfl, hcoordinator, hnow⟩

theorem does_addGroup {g : Group} (h : addGroup s g = .ok t) : Session.Does s [.createGroup g] t := by
  obtain ⟨r, hr, h⟩ := bind_eq_ok h
  cases h
  obtain ⟨o, ho, hcoordinator, hnow⟩ := lift_run_eq_ok hr
  refine ⟨hcoordinator.trans ?_, hnow⟩
  simp only [List.map_cons, List.map_nil, performAll, List.foldl_cons, List.foldl_nil,
    Coordinator.perform, ho, after]

theorem does_addRule {entry : RuleSpec × Nat} (h : addRule s entry = .ok t) :
    Session.Does s [.addRule (rule entry)] t := by
  obtain ⟨r, hr, h⟩ := bind_eq_ok h
  cases h
  obtain ⟨a, c, hc, hs⟩ := lift_act_eq_ok hr
  rw [hs]
  refine ⟨?_, rfl⟩
  simp only [List.map_cons, List.map_nil, performAll, List.foldl_cons, List.foldl_nil,
    Coordinator.perform]
  rw [show s.coordinator.addRule (rule entry) = _ from hc]
  rfl

theorem does_addCombinator {entry : String × String} (h : addCombinator s entry = .ok t) :
    Session.Does s (combinator? entry).toList t := by
  unfold addCombinator at h
  cases hf : Combinator.named? entry.2 with
  | none =>
    rw [hf] at h
    cases h
  | some f =>
    rw [hf] at h
    obtain ⟨r, hr, h⟩ := bind_eq_ok h
    cases h
    obtain ⟨a, c, hc, hs⟩ := lift_act_eq_ok hr
    obtain ⟨d, hd, he⟩ := eq_ok_of_map hc
    cases he
    rw [hs, combinator?, hf]
    refine ⟨?_, rfl⟩
    simp only [Option.map_some, Option.toList_some, List.map_cons, List.map_nil, performAll,
      List.foldl_cons, List.foldl_nil, Coordinator.perform, hd, after, id]

structure Asks (kinds : List (String × Kind)) (c : Coordinator) (step : ScriptStep) (op : Operation)
    (t : Session) : Prop where
  asked : step.operation? kinds c = some op
  coordinator : t.coordinator = c.perform t.now op
  taken : ∀ control v origin, op = .change control v origin →
    ∃ r, c.handleChange control v origin t.now = .ok r

theorem step_eq_ok {kinds : List (String × Kind)} {step : ScriptStep} (hreach : s.coordinator.Reachable)
    (h : Script.step kinds s step = .ok t) : t.now = s.now + step.pause ∧ ∃ op,
      Asks kinds (s.coordinator.performAll (s.coordinator.expiries (s.now + step.pause))) step op t := by
  have hwait := Session.coordinator_wait hreach step.pause
  obtain ⟨pause, action⟩ := step
  cases action with
  | change control value origin =>
    simp only [Script.step] at h
    cases hk : kinds.lookup control with
    | none =>
      rw [hk] at h
      cases h
    | some k =>
      simp only [hk] at h
      obtain ⟨r, hr, h⟩ := bind_eq_ok h
      cases h
      obtain ⟨a, d, hd, hs⟩ := lift_act_eq_ok hr
      rw [hwait] at hd
      rw [hs]
      refine ⟨rfl, _, congrArg (Option.map _) hk, ?_, ?_⟩
      · exact (congrArg (Coordinator.after _ (·.2)) hd).symm
      · rintro _ _ _ ⟨⟩
        exact ⟨_, hd⟩
  | resolve group value =>
    simp only [Script.step, hwait] at h
    cases hk : ((s.coordinator.performAll (s.coordinator.expiries (s.now + pause))).conflictsWith
        (some group) (some .pending)).head? with
    | none =>
      rw [hk] at h
      cases h
    | some k =>
      rw [hk] at h
      obtain ⟨r, hr, h⟩ := bind_eq_ok h
      cases h
      obtain ⟨a, d, hd, hs⟩ := lift_act_eq_ok hr
      rw [hwait] at hd
      rw [hs]
      refine ⟨rfl, _, congrArg (Option.map _) hk, ?_, ?_⟩
      · exact (congrArg (Coordinator.after _ (·.2)) hd).symm
      · intro _ _ _ hop
        cases hop

variable {kinds : List (String × Kind)} {c : Coordinator} {now : Int} {step : ScriptStep}

theorem run_of_asked {op : Operation}
    (h : step.operation? kinds (c.performAll (c.expiries (now + step.pause))) = some op) :
    step.run kinds c now = c.expiries (now + step.pause) ++ [(now + step.pause, op)] := by
  rw [ScriptStep.run, h]
  rfl

theorem foldlM_step {steps : List ScriptStep} (hreach : s.coordinator.Reachable)
    (h : steps.foldlM (Script.step kinds) s = .ok t) :
    t.coordinator = s.coordinator.performAll (ScriptStep.runAll kinds s.coordinator s.now steps) ∧
      t.now = s.now + ScriptStep.pauses steps := by
  induction steps generalizing s with
  | nil =>
    cases h
    exact ⟨rfl, (Int.add_zero _).symm⟩
  | cons step rest ih =>
    obtain ⟨u, hu, h⟩ := bind_eq_ok h
    obtain ⟨hnow, op, hasks⟩ := step_eq_ok hreach hu
    have hdone : u.coordinator = s.coordinator.performAll (step.run kinds s.coordinator s.now) := by
      rw [run_of_asked hasks.asked, performAll_append, hasks.coordinator, hnow]
      rfl
    obtain ⟨hcoordinator, hlater⟩ := ih (hdone ▸ hreach.performAll _) h
    rw [hnow] at hcoordinator hlater
    rw [hcoordinator, hdone, ← performAll_append]
    refine ⟨rfl, hlater.trans ?_⟩
    simp [ScriptStep.pauses, Int.add_assoc]

theorem replay_eq_ok {script : Script} {settings : SyncSettings}
    (h : script.replay settings now = .ok s) :
    ∃ store u t, Store.ofDeclarations script.controls = .ok store ∧
      Session.Does (.start settings store now) script.opening u ∧
      script.steps.foldlM (Script.step script.kinds) u = .ok t ∧
      s = t.wait (settings.debounce + closingPause) := by
  obtain ⟨store, hstore, h⟩ := bind_eq_ok h
  obtain ⟨a, ha, h⟩ := bind_eq_ok h
  obtain ⟨b, hb, h⟩ := bind_eq_ok h
  obtain ⟨u, hu, h⟩ := bind_eq_ok h
  obtain ⟨t, ht, h⟩ := bind_eq_ok h
  refine ⟨store, u, t, eq_ok_of_mapError hstore, ?_, ht, (Except.ok.inj h).symm⟩
  have hgroups := Session.does_foldlM (fun _ _ _ hdone => does_addGroup hdone) ha
  have hrules := Session.does_foldlM (fun _ _ _ hdone => does_addRule hdone) hb
  have hcombinators := Session.does_foldlM (fun _ _ _ hdone => does_addCombinator hdone) hu
  exact hgroups.trans (hrules.trans hcombinators)

variable {script : Script} {settings : SyncSettings} {store : Store} {front back : List ScriptStep}

theorem coordinator_stepped (hopened : Session.Does (.start settings store now) script.opening u)
    (h : front.foldlM (Script.step script.kinds) u = .ok t) :
    t.coordinator = (start settings store 0).performAll (script.runUntil settings store now front) ∧
      t.now = now + ScriptStep.pauses front := by
  have hstart := Reachable.start settings store 0
  have hreach : u.coordinator.Reachable := hopened.coordinator ▸ hstart.performAll _
  obtain ⟨hcoordinator, hnow⟩ := foldlM_step hreach h
  rw [hcoordinator, hnow, hopened.coordinator, hopened.now, runUntil, performAll_append]
  exact ⟨rfl, rfl⟩

theorem coordinator_replay (h : script.replay settings now = .ok s) :
    ∃ store, Store.ofDeclarations script.controls = .ok store ∧
      s.coordinator = (start settings store 0).performAll (script.run settings store now) := by
  obtain ⟨store, u, t, hstore, hopened, hsteps, rfl⟩ := replay_eq_ok h
  obtain ⟨hcoordinator, hnow⟩ := coordinator_stepped hopened hsteps
  have hreach := (Reachable.start settings store 0).performAll
    (script.runUntil settings store now script.steps)
  refine ⟨store, hstore, ?_⟩
  rw [Session.coordinator_wait (hcoordinator ▸ hreach), hcoordinator, hnow, run, performAll_append]

theorem run_eq_runBefore {op : Operation} (hsteps : script.steps = front ++ step :: back)
    (hasked : step.operation? script.kinds ((start settings store 0).performAll
      (script.runBefore settings store now front step.pause)) = some op) :
    let time := now + ScriptStep.pauses front + step.pause
    ∃ after later, script.run settings store now =
        script.runBefore settings store now front step.pause ++ (time, op) :: after ∧
      ∀ entry ∈ after, Within later entry := by
  rw [runBefore, performAll_append] at hasked
  have hstep := run_of_asked hasked
  let c := (start settings store 0).performAll (script.runUntil settings store now front)
  let d := c.performAll (step.run script.kinds c (now + ScriptStep.pauses front))
  let finish := now + ScriptStep.pauses script.steps + (settings.debounce + closingPause : ℕ)
  refine ⟨ScriptStep.runAll script.kinds d (now + ScriptStep.pauses front + step.pause) back ++
    ((start settings store 0).performAll (script.runUntil settings store now script.steps)).expiries
      finish, finish, ?_, ?_⟩
  · simp only [run, runBefore, finish, d, c, hsteps, runUntil_append, ScriptStep.runAll, hstep,
      List.append_assoc, List.cons_append, List.nil_append]
  · intro entry hentry
    have hpauses : ScriptStep.pauses script.steps =
        ScriptStep.pauses front + (step.pause + ScriptStep.pauses back) := by
      rw [hsteps, ScriptStep.pauses_append]
      rfl
    rcases List.mem_append.mp hentry with hentry | hentry
    · refine (ScriptStep.within_runAll hentry).mono ?_
      simp only [finish, hpauses]
      omega
    · exact within_expiries hentry

theorem change_of_replay {pause : Nat} {control : String} {value : Json} {origin : Origin}
    (h : script.replay settings now = .ok s) (hstore : Store.ofDeclarations script.controls = .ok store)
    (hsteps : script.steps = front ++ ⟨pause, .change control value origin⟩ :: back) :
    let c := (start settings store 0).performAll (script.runBefore settings store now front pause)
    ∃ kind, script.kinds.lookup control = some kind ∧
      ScriptStep.operation? script.kinds c ⟨pause, .change control value origin⟩ =
        some (.change control (Value.ofLoose value kind) origin) ∧
      ∃ r, c.handleChange control (Value.ofLoose value kind) origin
        (now + ScriptStep.pauses front + pause) = .ok r := by
  intro c
  obtain ⟨store', u, t, hstore', hopened, hall, -⟩ := replay_eq_ok h
  obtain rfl := Except.ok.inj (hstore'.symm.trans hstore)
  rw [hsteps, List.foldlM_append] at hall
  obtain ⟨m, hm, hall⟩ := bind_eq_ok hall
  obtain ⟨v, hv, -⟩ := bind_eq_ok hall
  obtain ⟨hcoordinator, hnow⟩ := coordinator_stepped hopened hm
  have hreach := (Reachable.start settings store' 0).performAll
    (script.runUntil settings store' now front)
  obtain ⟨hlater, op, hasks⟩ := step_eq_ok (hcoordinator ▸ hreach) hv
  rw [hcoordinator, hnow, ← performAll_append] at hasks
  obtain ⟨kind, hkind, rfl⟩ := Option.map_eq_some_iff.mp hasks.asked
  have htaken := hasks.taken _ _ _ rfl
  rw [hlater, hnow] at htaken
  exact ⟨kind, hkind, hasks.asked, htaken⟩

end Script

end LinkedControls
