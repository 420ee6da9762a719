import LinkedControls.Proofs.Outcome
import LinkedControls.Proofs.Store.Writing
import LinkedControls.Proofs.Value.Loose
import Mathlib.Data.List.Nodup

/-!
The stores that actions lead to. In each of them no two controls share an id, and every value fits the
kind of its control.
-/

namespace LinkedControls

theorem fits_of_coerce {id : String} {v w : Value} {k : Kind} (h : coerce id v k = .ok w) :
    w.fits k = true := by
  unfold coerce at h
  split at h
  next hfits =>
    cases h
    exact hfits
  · have hloose := Value.fits_ofLoose v.toJson k
    split at h
    · cases h
    · cases h
      exact hloose

theorem mem_replaceControl {c d : Control} {cs : List Control} (h : d ∈ replaceControl c cs) :
    d = c ∨ d ∈ cs := by
  induction cs with
  | nil => exact .inl (List.mem_singleton.mp h)
  | cons e cs ih =>
    unfold replaceControl at h
    split at h
    · exact (List.mem_cons.mp h).imp_right (List.mem_cons_of_mem _)
    · rcases List.mem_cons.mp h with rfl | h
      · exact .inr List.mem_cons_self
      · exact (ih h).imp_right (List.mem_cons_of_mem _)

theorem map_id_replaceControl {c d : Control} {cs : List Control} (hd : d ∈ cs) (hid : d.id = c.id) :
    (replaceControl c cs).map (·.id) = cs.map (·.id) := by
  induction cs with
  | nil => cases hd
  | cons e cs ih =>
    unfold replaceControl
    split
    next h => simp [h]
    next h =>
      have hmem : d ∈ cs := (List.mem_cons.mp hd).resolve_left fun he => h (he ▸ hid)
      simp [ih hmem]

namespace Store

inductive Reachable : Store → Prop
  | empty : Reachable .empty
  | step {s s' : Store} {a : Action} {change : Option Change} :
      Reachable s → s.apply a = .ok (s', change) → Reachable s'

structure Sound (s : Store) : Prop where
  nodup : (s.controls.map (·.id)).Nodup
  fits : ∀ c ∈ s.controls, c.value.fits c.kind = true

variable {s s' : Store} {id : String} {v : Value} {k : Kind}

theorem mem_of_get? {c : Control} (h : s.get? id = some c) : c ∈ s.controls :=
  List.mem_of_find?_eq_some h

theorem get?_eq_none : s.get? id = none ↔ id ∉ s.controls.map (·.id) := by
  simp [get?]

theorem write_of_fits (hkind : s.kindOf? id = some k) (hfits : v.fits k = true) (origin : Origin) :
    ∃ next change, s.write id v origin = .ok (next, change) ∧ change.after = v := by
  have hkept := kept_of_fits hkind hfits
  obtain ⟨next, change, hwrite⟩ := write_of_kept hkept origin
  obtain ⟨c, w, -, hw, rfl, -⟩ := write_eq_ok hwrite
  rw [hkept] at hw
  cases hw
  exact ⟨next, _, hwrite, rfl⟩

theorem lookup_kinds (s : Store) (id : String) :
    s.snapshot.kinds.lookup id = s.kindOf? id := by
  rw [snapshot, Snapshot.kinds, kindOf?, get?]
  induction s.controls with
  | nil => rfl
  | cons c cs ih =>
    rw [List.map_cons, List.lookup_cons, List.find?_cons, BEq.comm]
    cases c.id == id with
    | true => rfl
    | false => exact ih

namespace Sound

theorem kindOf?_of_mem (hs : s.Sound) {c : Control} (hc : c ∈ s.controls) :
    s.kindOf? c.id = some c.kind := by
  obtain ⟨d, hd⟩ : ∃ d, s.get? c.id = some d :=
    Option.isSome_iff_exists.mp (List.find?_isSome.mpr ⟨c, hc, beq_self_eq_true c.id⟩)
  obtain rfl := List.inj_on_of_nodup_map hs.nodup (mem_of_get? hd) hc (id_of_get? hd)
  rw [Store.kindOf?, hd]
  rfl

theorem register (hs : s.Sound) (h : s.register id k v = .ok s') : s'.Sound := by
  unfold Store.register at h
  split at h
  · cases h
  next hnew =>
    have hfresh : id ∉ s.controls.map (·.id) := by
      simpa [contains, get?_eq_none] using hnew
    cases hv : coerce id v k with
    | error e => simp [hv, bind, Except.bind] at h
    | ok w =>
      simp only [hv, bind, Except.bind, pure, Except.pure, Except.ok.injEq] at h
      subst h
      refine ⟨?_, fun c hc => ?_⟩
      · simp only [List.map_append, List.map_cons, List.map_nil]
        exact List.nodup_append.mpr ⟨hs.nodup, by simp, by simpa using hfresh⟩
      · rcases List.mem_append.mp hc with hc | hc
        · exact hs.fits c hc
        · obtain rfl := List.mem_singleton.mp hc
          exact fits_of_coerce hv

theorem write {origin : Origin} {change : Change} (hs : s.Sound)
    (h : s.write id v origin = .ok (s', change)) : s'.Sound := by
  obtain ⟨c, w, hc, hw, -, rfl⟩ := write_eq_ok h
  refine ⟨?_, fun d hd => ?_⟩
  · have hids := map_id_replaceControl (c := { c with value := w }) (mem_of_get? hc) rfl
    exact hids ▸ hs.nodup
  · rcases mem_replaceControl hd with rfl | hd
    · simp only [kept, hc] at hw
      exact fits_of_coerce hw
    · exact hs.fits d hd

theorem deregister (hs : s.Sound) (h : s.deregister id = .ok s') : s'.Sound := by
  unfold Store.deregister at h
  split at h
  · cases h
    refine ⟨hs.nodup.sublist (List.filter_sublist.map _), fun c hc => ?_⟩
    exact hs.fits c ((List.mem_filter.mp hc).1)
  · cases h

theorem apply {a : Action} {change : Option Change} (hs : s.Sound)
    (h : s.apply a = .ok (s', change)) : s'.Sound := by
  cases a with
  | register id k v =>
    obtain ⟨t, ht, he⟩ := eq_ok_of_map h
    cases he
    exact hs.register ht
  | write id v origin =>
    obtain ⟨⟨t, change⟩, ht, he⟩ := eq_ok_of_map h
    cases he
    exact hs.write ht
  | deregister id =>
    obtain ⟨t, ht, he⟩ := eq_ok_of_map h
    cases he
    exact hs.deregister ht
  | clear =>
    cases h
    exact ⟨.nil, fun c hc => absurd hc List.not_mem_nil⟩

end Sound

theorem Reachable.sound (h : s.Reachable) : s.Sound := by
  induction h with
  | empty => exact ⟨.nil, fun c hc => absurd hc List.not_mem_nil⟩
  | step _ hstep ih => exact ih.apply hstep

end Store

end LinkedControls
