import LinkedControls.Sync.Propagation

/-!
What a write leaves in a store: the control that is written keeps the coerced value, and every other
control, and every kind, stays as it was.
-/

namespace LinkedControls

theorem coerce_of_fits {id : String} {v : Value} {k : Kind} (h : v.fits k = true) :
    coerce id v k = .ok v := by
  simp [coerce, h]

theorem find?_replaceControl (d : Control) (cs : List Control) (i : String) :
    (replaceControl d cs).find? (·.id == i) =
      if i = d.id then some d else cs.find? (·.id == i) := by
  induction cs with
  | nil =>
    by_cases hi : i = d.id
    · simp [replaceControl, hi]
    · simp [replaceControl, hi, Ne.symm hi]
  | cons c rest ih =>
    unfold replaceControl
    by_cases hc : c.id = d.id
    · by_cases hi : i = d.id
      · simp [hc, hi]
      · simp [hc, hi, Ne.symm hi]
    · by_cases hci : c.id = i
      · have hi : i ≠ d.id := hci ▸ hc
        simp [hci, hi]
      · simp [hc, hci, ih]

namespace Store

variable {s s' : Store} {id i : String} {v : Value} {origin : Origin} {change : Change}

def kept (s : Store) (id : String) (v : Value) : Except StoreError Value :=
  match s.get? id with
  | none => .error (.controlNotFound id)
  | some c => coerce id v c.kind

def kindOf? (s : Store) (id : String) : Option Kind := (s.get? id).map (·.kind)

theorem id_of_get? {c : Control} (h : s.get? id = some c) : c.id = id := by
  simpa using List.find?_some h

theorem valueOf_of_get? {c : Control} (h : s.get? id = some c) : s.valueOf id = c.value := by
  simp [valueOf, h]

theorem write_eq_error {e : StoreError} :
    s.write id v origin = .error e ↔ s.kept id v = .error e := by
  unfold write kept
  cases s.get? id with
  | none => simp
  | some c =>
    cases hv : coerce id v c.kind with
    | error e' => simp [hv, bind, Except.bind]
    | ok w => simp [hv, bind, Except.bind, pure, Except.pure]

theorem write_eq_ok (h : s.write id v origin = .ok (s', change)) :
    ∃ c w, s.get? id = some c ∧ s.kept id v = .ok w ∧
      change = ⟨id, c.value, w, origin, s.version + 1⟩ ∧
      s' = ⟨replaceControl { c with value := w } s.controls, s.version + 1, s.log ++ [change]⟩ := by
  unfold write at h
  cases hc : s.get? id with
  | none => simp [hc] at h
  | some c =>
    simp only [hc] at h
    cases hv : coerce id v c.kind with
    | error e => simp [hv, bind, Except.bind] at h
    | ok w =>
      simp only [hv, bind, Except.bind, pure, Except.pure, Except.ok.injEq, Prod.mk.injEq] at h
      obtain ⟨rfl, rfl⟩ := h
      exact ⟨c, w, rfl, by simp [kept, hc, hv], rfl, rfl⟩

theorem write_of_kept {w : Value} (h : s.kept id v = .ok w) (origin : Origin) :
    ∃ s' change, s.write id v origin = .ok (s', change) := by
  cases hw : s.write id v origin with
  | ok r => exact ⟨r.1, r.2, rfl⟩
  | error e => rw [write_eq_error.mp hw] at h; cases h

theorem get?_write (h : s.write id v origin = .ok (s', change)) (i : String) :
    s'.get? i = if i = id then (s.get? id).map fun c => { c with value := change.after }
      else s.get? i := by
  obtain ⟨c, w, hc, _, rfl, rfl⟩ := write_eq_ok h
  have hid := id_of_get? hc
  rw [get?, find?_replaceControl]
  by_cases hi : i = id
  · simp [hi, hid, hc]
  · simp [hi, hid, get?]

theorem kindOf?_write (h : s.write id v origin = .ok (s', change)) (i : String) :
    s'.kindOf? i = s.kindOf? i := by
  unfold kindOf?
  rw [get?_write h]
  by_cases hi : i = id
  · subst hi
    rw [if_pos rfl, Option.map_map]
    rfl
  · rw [if_neg hi]

theorem valueOf_write_self (h : s.write id v origin = .ok (s', change)) :
    s'.valueOf id = change.after := by
  obtain ⟨c, _, hc, _⟩ := write_eq_ok h
  have hs' := get?_write h id
  rw [if_pos rfl, hc] at hs'
  exact valueOf_of_get? hs'

theorem get?_write_of_ne (h : s.write id v origin = .ok (s', change)) (hi : i ≠ id) :
    s'.get? i = s.get? i := by
  rw [get?_write h, if_neg hi]

theorem valueOf_congr (h : s'.get? id = s.get? id) : s'.valueOf id = s.valueOf id := by
  rw [valueOf, valueOf, h]

theorem kept_congr (h : s'.kindOf? id = s.kindOf? id) : s'.kept id v = s.kept id v := by
  unfold kept
  cases hc : s.get? id with
  | none =>
    have hc' : s'.get? id = none := by simpa [kindOf?, hc] using h
    rw [hc']
  | some c =>
    obtain ⟨c', hc', hkind⟩ : ∃ c', s'.get? id = some c' ∧ c'.kind = c.kind := by
      simpa [kindOf?, hc] using h
    simp only [hc', hkind]

theorem kept_of_fits {k : Kind} (hk : s.kindOf? id = some k) (hv : v.fits k = true) :
    s.kept id v = .ok v := by
  obtain ⟨c, hc, rfl⟩ := Option.map_eq_some_iff.mp hk
  simp [kept, hc, coerce_of_fits hv]

end Store

end LinkedControls
