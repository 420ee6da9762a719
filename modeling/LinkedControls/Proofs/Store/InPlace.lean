import LinkedControls.Proofs.Store.Reachable

/-!
Actions as they work on a store in place, one step after the other, where a step that fails leaves what
the steps before it have done. All the same a failed action leaves no trace, and the values of all
controls keep to their kinds.
-/

namespace LinkedControls

namespace Value

def Suits (v : Value) (k : Kind) : Prop := v.fits k = true ∨ ofLoose v.toJson k ≠ .null

end Value

theorem coerce_eq_ok_iff {id : String} {v : Value} {k : Kind} :
    (∃ w, coerce id v k = .ok w) ↔ v.Suits k := by
  unfold coerce Value.Suits
  split
  next hfits => simp [hfits]
  next hfits =>
    split
    next hnull => simp [hfits, hnull]
    next hloose =>
      have hne : Value.ofLoose v.toJson k ≠ .null := fun h => hloose h
      simp [hne]

theorem mem_replaceControl_of_ne {c d : Control} {cs : List Control} (h : d.id ≠ c.id) :
    d ∈ replaceControl c cs ↔ d ∈ cs := by
  have hne : d ≠ c := fun hd => h (hd ▸ rfl)
  induction cs with
  | nil => simp [replaceControl, hne]
  | cons e cs ih =>
    unfold replaceControl
    split
    next he =>
      have hde : d ≠ e := fun hd => h (hd ▸ he)
      simp [hne, hde]
    next => simp [ih]

namespace Store

abbrev InPlace := ExceptT StoreError (StateM Store)

def enact : Action → InPlace (Option Change)
  | .register id k v => do
      if (← get).contains id then throw (.alreadyRegistered id)
      let v ← MonadExcept.ofExcept (coerce id v k)
      modify fun s => { s with controls := s.controls ++ [⟨id, k, v⟩] }
      return none
  | .write id v origin => do
      let s ← get
      match s.get? id with
      | none => throw (.controlNotFound id)
      | some c =>
          let v ← MonadExcept.ofExcept (coerce id v c.kind)
          modify fun s => { s with controls := replaceControl { c with value := v } s.controls }
          return some ⟨id, c.value, v, origin, s.version + 1⟩
  | .deregister id => do
      let present := (← get).contains id
      modify fun s => { s with controls := s.controls.filter (·.id != id) }
      if !present then throw (.controlNotFound id)
      return none
  | .clear => do
      modify fun s => { s with controls := [] }
      return none

def dispatch (a : Action) : InPlace (Option Change) := do
  let change ← enact a
  modify fun s => { s with version := s.version + 1 }
  modify fun s => { s with log := s.log ++ change.toList }
  return change

namespace InPlace

variable {α β : Type} {s t : Store}

def on (x : InPlace α) (s : Store) : Except StoreError α × Store := x.run.run s

@[simp]
theorem on_pure (a : α) : (pure a : InPlace α).on s = (.ok a, s) := rfl

@[simp]
theorem on_throw (e : StoreError) : (throw e : InPlace α).on s = (.error e, s) := rfl

@[simp]
theorem on_get : (get : InPlace Store).on s = (.ok s, s) := rfl

@[simp]
theorem on_modify (f : Store → Store) : (modify f : InPlace PUnit).on s = (.ok ⟨⟩, f s) := rfl

@[simp]
theorem on_ofExcept (x : Except StoreError α) :
    (MonadExcept.ofExcept x : InPlace α).on s = (x, s) := by
  cases x <;> rfl

@[simp]
theorem on_bind (x : InPlace α) (f : α → InPlace β) :
    (x >>= f).on s = match x.on s with
      | (.ok a, t) => (f a).on t
      | (.error e, t) => (.error e, t) := by
  change (ExceptT.bindCont f (x.on s).1).run (x.on s).2 = _
  cases x.on s with
  | mk answer t => cases answer <;> rfl

@[simp]
theorem on_map (f : α → β) (x : InPlace α) :
    (f <$> x).on s = ((x.on s).1.map f, (x.on s).2) := by
  rw [map_eq_pure_bind, on_bind]
  cases x.on s with
  | mk answer t => cases answer <;> rfl

end InPlace

def perform (s : Store) (a : Action) : Except StoreError (Option Change) × Store :=
  (dispatch a).on s

def performAll (s : Store) (actions : List Action) : Store :=
  actions.foldl (fun s a => (s.perform a).2) s

variable {s s' : Store} {a : Action} {id : String}

theorem filter_of_not_contains (h : s.contains id = false) :
    s.controls.filter (·.id != id) = s.controls := by
  refine List.filter_eq_self.mpr fun c hc => ?_
  have hnone : s.get? id = none := by simpa [contains] using h
  have hne := List.find?_eq_none.mp hnone c hc
  simpa using hne

theorem perform_eq (s : Store) (a : Action) :
    s.perform a = match s.apply a with
      | .ok (s', change) => (.ok change, s')
      | .error e => (.error e, s) := by
  cases a with
  | register id k v =>
    cases hid : s.contains id with
    | true => simp [perform, dispatch, enact, apply, register, hid, Except.map]
    | false =>
      cases hv : coerce id v k <;>
        simp [perform, dispatch, enact, apply, register, hid, hv, Except.map]
  | write id v origin =>
    cases hc : s.get? id with
    | none => simp [perform, dispatch, enact, apply, write, hc, Except.map]
    | some c =>
      cases hv : coerce id v c.kind <;>
        simp [perform, dispatch, enact, apply, write, hc, hv, Except.map]
  | deregister id =>
    cases hid : s.contains id with
    | true => simp [perform, dispatch, enact, apply, deregister, hid, Except.map]
    | false =>
      simp [perform, dispatch, enact, apply, deregister, hid, Except.map,
        filter_of_not_contains hid]
  | clear => simp [perform, dispatch, enact, apply, clear, Except.map]

theorem Reachable.perform (hs : s.Reachable) (a : Action) : (s.perform a).2.Reachable := by
  rw [perform_eq]
  cases h : s.apply a with
  | error e => exact hs
  | ok r => exact hs.step h

theorem Reachable.performAll (hs : s.Reachable) (actions : List Action) :
    (s.performAll actions).Reachable := by
  induction actions generalizing s with
  | nil => exact hs
  | cons a rest ih => exact ih (hs.perform a)

inductive Step (s : Store) : Action → Option Change → Store → Prop
  | register {id : String} {k : Kind} {v w : Value} :
      s.get? id = none → coerce id v k = .ok w →
        Step s (.register id k v) none
          ⟨s.controls ++ [⟨id, k, w⟩], s.version + 1, s.log⟩
  | write {id : String} {v w : Value} {origin : Origin} {c : Control} :
      s.get? id = some c → coerce id v c.kind = .ok w →
        Step s (.write id v origin) (some ⟨id, c.value, w, origin, s.version + 1⟩)
          ⟨replaceControl { c with value := w } s.controls, s.version + 1,
            s.log ++ [⟨id, c.value, w, origin, s.version + 1⟩]⟩
  | deregister {id : String} {c : Control} :
      s.get? id = some c →
        Step s (.deregister id) none ⟨s.controls.filter (·.id != id), s.version + 1, s.log⟩
  | clear : Step s .clear none ⟨[], s.version + 1, s.log⟩

theorem apply_eq_ok {change : Option Change} :
    s.apply a = .ok (s', change) ↔ s.Step a change s' := by
  constructor
  · intro h
    cases a with
    | register id k v =>
      obtain ⟨t, ht, he⟩ := eq_ok_of_map h
      cases he
      unfold Store.register at ht
      split at ht
      · cases ht
      next hid =>
        cases hv : coerce id v k with
        | error e => simp [hv, bind, Except.bind] at ht
        | ok w =>
          simp only [hv, bind, Except.bind, pure, Except.pure, Except.ok.injEq] at ht
          subst ht
          exact .register (by simpa [contains] using hid) hv
    | write id v origin =>
      obtain ⟨⟨t, written⟩, ht, he⟩ := eq_ok_of_map h
      cases he
      obtain ⟨c, w, hc, hw, rfl, rfl⟩ := write_eq_ok ht
      exact .write hc (by simpa [kept, hc] using hw)
    | deregister id =>
      obtain ⟨t, ht, he⟩ := eq_ok_of_map h
      cases he
      unfold Store.deregister at ht
      split at ht
      next hid =>
        cases ht
        obtain ⟨c, hc⟩ := Option.isSome_iff_exists.mp hid
        exact .deregister hc
      · cases ht
    | clear =>
      cases h
      exact .clear
  · intro h
    cases h with
    | register hid hv =>
      simp only [apply, Store.register, contains, hid, hv]
      rfl
    | write hc hv =>
      simp only [apply, Store.write, hc, hv]
      rfl
    | deregister hc => simp [apply, Store.deregister, contains, hc, Except.map]
    | clear => rfl

def Allows (s : Store) : Action → Prop
  | .register id k v => s.get? id = none ∧ v.Suits k
  | .write id v _ => ∃ c, s.get? id = some c ∧ v.Suits c.kind
  | .deregister id => ∃ c, s.get? id = some c
  | .clear => True

def Action.named? : Action → Option String
  | .register id _ _ | .write id _ _ | .deregister id => some id
  | .clear => none

theorem exists_step_iff : (∃ change s', s.Step a change s') ↔ s.Allows a := by
  constructor
  · rintro ⟨change, s', h⟩
    cases h with
    | register hid hv => exact ⟨hid, coerce_eq_ok_iff.mp ⟨_, hv⟩⟩
    | write hc hv => exact ⟨_, hc, coerce_eq_ok_iff.mp ⟨_, hv⟩⟩
    | deregister hc => exact ⟨_, hc⟩
    | clear => trivial
  · intro h
    cases a with
    | register id k v =>
      obtain ⟨w, hw⟩ : ∃ w, coerce id v k = .ok w := coerce_eq_ok_iff.mpr h.2
      exact ⟨_, _, .register h.1 hw⟩
    | write id v origin =>
      obtain ⟨c, hc, hv⟩ := h
      obtain ⟨w, hw⟩ : ∃ w, coerce id v c.kind = .ok w := coerce_eq_ok_iff.mpr hv
      exact ⟨_, _, .write hc hw⟩
    | deregister id =>
      obtain ⟨c, hc⟩ := h
      exact ⟨_, _, .deregister hc⟩
    | clear => exact ⟨_, _, .clear⟩

theorem perform_eq_ok {change : Option Change} :
    s.perform a = (.ok change, s') ↔ s.Step a change s' := by
  rw [perform_eq, ← apply_eq_ok]
  cases s.apply a with
  | error e => simp
  | ok r => simp [Prod.ext_iff, and_comm]

theorem perform_eq_error {e : StoreError} (h : (s.perform a).1 = .error e) : (s.perform a).2 = s := by
  rw [perform_eq] at h ⊢
  cases hr : s.apply a with
  | error e' => rfl
  | ok r => simp [hr] at h

theorem perform_succeeds_iff : (∃ change, (s.perform a).1 = .ok change) ↔ s.Allows a := by
  rw [← exists_step_iff]
  constructor
  · rintro ⟨change, h⟩
    exact ⟨change, (s.perform a).2, perform_eq_ok.mp (Prod.ext h rfl)⟩
  · rintro ⟨change, s', h⟩
    exact ⟨change, congrArg Prod.fst (perform_eq_ok.mpr h)⟩

namespace Step

variable {change : Option Change}

theorem version (h : s.Step a change s') : s'.version = s.version + 1 := by
  cases h <;> rfl

theorem log (h : s.Step a change s') : s'.log = s.log ++ change.toList := by
  cases h <;> simp

theorem mem_of_ne (h : s.Step a change s') (hid : a.named? = some id) {c : Control} (hc : c.id ≠ id) :
    c ∈ s'.controls ↔ c ∈ s.controls := by
  cases h with
  | @register id k v w =>
    cases hid
    have hne : c ≠ ⟨id, k, w⟩ := fun h => hc (congrArg Control.id h)
    simp [hne]
  | write hget =>
    cases hid
    exact mem_replaceControl_of_ne (by simpa [id_of_get? hget] using hc)
  | deregister =>
    cases hid
    simp [hc]
  | clear => cases hid

theorem controls_of_unnamed (h : s.Step a change s') (ha : a.named? = none) : s'.controls = [] := by
  cases h <;> first | rfl | cases ha

end Step

theorem typed_at_every_step (actions : List Action) (a : Action) :
    let s := Store.empty.performAll actions
    let (answer, s') := s.perform a
    (s.controls.map (·.id)).Nodup ∧
    (∀ c ∈ s.controls, c.value = .null ∨ c.value.kind? = some c.kind) ∧
    ((∃ change, answer = .ok change) ↔ s.Allows a) ∧
    (∀ e, answer = .error e → s' = s) ∧
    ∀ change, answer = .ok change →
      s'.version = s.version + 1 ∧ s'.log = s.log ++ change.toList ∧
      match a.named? with
      | some id => ∀ c : Control, c.id ≠ id → (c ∈ s'.controls ↔ c ∈ s.controls)
      | none => s'.controls = [] := by
  intro s
  have hsound := (Reachable.empty.performAll actions).sound
  refine ⟨hsound.nodup, fun c hc => Value.fits_iff.mp (hsound.fits c hc), perform_succeeds_iff,
    fun e => perform_eq_error, fun change h => ?_⟩
  have hstep : s.Step a change (s.perform a).2 := perform_eq_ok.mp (Prod.ext h rfl)
  refine ⟨hstep.version, hstep.log, ?_⟩
  split
  next id hid => exact fun c => hstep.mem_of_ne hid
  next hnone => exact hstep.controls_of_unnamed hnone

end Store

end LinkedControls
