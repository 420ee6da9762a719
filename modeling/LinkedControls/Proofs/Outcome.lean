namespace LinkedControls

variable {ε α β : Type}

theorem bind_eq_ok {x : Except ε α} {f : α → Except ε β} {b : β} (h : (x >>= f) = .ok b) :
    ∃ a, x = .ok a ∧ f a = .ok b := by
  cases x with
  | ok a => exact ⟨a, rfl, h⟩
  | error e => cases h

theorem eq_ok_of_map {x : Except ε α} {f : α → β} {b : β} (h : x.map f = .ok b) :
    ∃ a, x = .ok a ∧ f a = b := by
  cases x with
  | error e => cases h
  | ok a =>
    cases h
    exact ⟨a, rfl, rfl⟩

theorem eq_ok_of_mapError {ε' : Type} {x : Except ε α} {f : ε → ε'} {a : α}
    (h : x.mapError f = .ok a) : x = .ok a := by
  cases x with
  | error e => cases h
  | ok b => exact congrArg Except.ok (Except.ok.inj h)

theorem map_ne_error {x : Except ε α} {f : α → β} {e : ε} (h : x ≠ .error e) : x.map f ≠ .error e := by
  cases x with
  | error e' => exact fun he => h (congrArg Except.error (Except.error.inj he))
  | ok a => simp [Except.map]

theorem guard_bind {p : Prop} [Decidable p] (h : p) (x : Option α) :
    (guard p >>= fun _ => x) = x := by
  change ((if p then pure () else failure) >>= fun _ => x) = x
  rw [if_pos h]
  rfl

theorem of_guard_bind {p : Prop} [Decidable p] {x : Option α} {a : α}
    (h : (guard p >>= fun _ => x) = some a) : p ∧ x = some a := by
  by_cases hp : p
  · exact ⟨hp, (guard_bind hp x).symm.trans h⟩
  · change ((if p then pure () else failure) >>= fun _ => x) = some a at h
    rw [if_neg hp] at h
    cases h

theorem of_mapM {f : α → Option β} {items : List α} {results : List β}
    (h : items.mapM f = some results) :
    results.length = items.length ∧ ∀ b ∈ results, ∃ a ∈ items, f a = some b := by
  induction items generalizing results with
  | nil =>
    cases h
    exact ⟨rfl, fun b hb => absurd hb List.not_mem_nil⟩
  | cons a items ih =>
    rw [List.mapM_cons] at h
    obtain ⟨b, hb, h⟩ := Option.bind_eq_some_iff.mp h
    obtain ⟨rest, hrest, h⟩ := Option.bind_eq_some_iff.mp h
    cases h
    obtain ⟨hlength, hall⟩ := ih hrest
    refine ⟨congrArg (· + 1) hlength, List.forall_mem_cons.mpr ⟨⟨a, List.mem_cons_self, hb⟩, ?_⟩⟩
    intro c hc
    obtain ⟨d, hd, hf⟩ := hall c hc
    exact ⟨d, List.mem_cons_of_mem _ hd, hf⟩

end LinkedControls
