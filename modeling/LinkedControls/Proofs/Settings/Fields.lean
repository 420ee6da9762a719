import LinkedControls.Proofs.Outcome
import LinkedControls.Settings.File

/-!
The fields of the settings by their keys: what an assignment and what the environment do to each of them.
-/

namespace LinkedControls

open Decimal

inductive SettingValue
  | number (n : Nat)
  | flag (b : Bool)
  | text (s : String)
deriving DecidableEq

def SettingKey.valueOf? (k : SettingKey) (value : String) : Option SettingValue :=
  match k with
  | .debounce | .historyLimit | .maxPairs | .maxValueBytes =>
      (naturalOfText? Settings.numberLimit value.toList).map .number
  | .blockInvalid | .logJson => (Settings.readBool value).toOption.map .flag
  | .placeholder | .logLevel => some (.text value)

namespace Settings

def get (s : Settings) : SettingKey → SettingValue
  | .debounce => .number s.sync.debounce
  | .historyLimit => .number s.sync.historyLimit
  | .maxPairs => .number s.url.pairs
  | .maxValueBytes => .number s.url.valueBytes
  | .blockInvalid => .flag s.query.blockInvalid
  | .placeholder => .text s.query.placeholder
  | .logLevel => .text s.log.level
  | .logJson => .flag s.log.json

variable {s s' : Settings} {env : Environment}

theorem ext_get (h : ∀ k, s.get k = s'.get k) : s = s' := by
  obtain ⟨⟨debounce, history⟩, ⟨pairs, bytes⟩, ⟨block, placeholder⟩, ⟨level, json⟩⟩ := s
  obtain ⟨⟨debounce', history'⟩, ⟨pairs', bytes'⟩, ⟨block', placeholder'⟩, ⟨level', json'⟩⟩ := s'
  obtain rfl : debounce = debounce' := SettingValue.number.inj (h .debounce)
  obtain rfl : history = history' := SettingValue.number.inj (h .historyLimit)
  obtain rfl : pairs = pairs' := SettingValue.number.inj (h .maxPairs)
  obtain rfl : bytes = bytes' := SettingValue.number.inj (h .maxValueBytes)
  obtain rfl : block = block' := SettingValue.flag.inj (h .blockInvalid)
  obtain rfl : placeholder = placeholder' := SettingValue.text.inj (h .placeholder)
  obtain rfl : level = level' := SettingValue.text.inj (h .logLevel)
  obtain rfl : json = json' := SettingValue.flag.inj (h .logJson)
  rfl

theorem readNumber_eq_ok {value : String} {n : Nat} :
    readNumber value = .ok n ↔ naturalOfText? numberLimit value.toList = some n := by
  unfold readNumber
  cases naturalOfText? numberLimit value.toList <;> simp

theorem get_set {k : SettingKey} {value : String} (h : s.set k value = .ok s') :
    k.valueOf? value = some (s'.get k) ∧ ∀ k' ≠ k, s'.get k' = s.get k' := by
  have hothers (hsame : ∀ k', k' = k ∨ s'.get k' = s.get k') : ∀ k' ≠ k, s'.get k' = s.get k' :=
    fun k' hne => (hsame k').resolve_left hne
  cases k with
  | debounce | historyLimit | maxPairs | maxValueBytes =>
    obtain ⟨n, hn, he⟩ := bind_eq_ok h
    cases he
    refine ⟨?_, hothers (by rintro ⟨⟩ <;> simp [get])⟩
    simp only [SettingKey.valueOf?, readNumber_eq_ok.mp hn, Option.map_some]
    rfl
  | blockInvalid | logJson =>
    obtain ⟨b, hb, he⟩ := bind_eq_ok h
    cases he
    refine ⟨?_, hothers (by rintro ⟨⟩ <;> simp [get])⟩
    rw [SettingKey.valueOf?, hb]
    rfl
  | placeholder | logLevel =>
    cases h
    exact ⟨rfl, hothers (by rintro ⟨⟩ <;> simp [get])⟩

theorem exists_set {k : SettingKey} {value : String} {v : SettingValue}
    (h : k.valueOf? value = some v) (s : Settings) : ∃ s', s.set k value = .ok s' := by
  cases k with
  | debounce | historyLimit | maxPairs | maxValueBytes =>
    obtain ⟨n, hn, -⟩ := Option.map_eq_some_iff.mp h
    rw [set, readNumber_eq_ok.mpr hn]
    exact ⟨_, rfl⟩
  | blockInvalid | logJson =>
    rw [set]
    cases hb : readBool value with
    | ok b => exact ⟨_, rfl⟩
    | error f =>
      rw [SettingKey.valueOf?, hb] at h
      cases h
  | placeholder | logLevel => exact ⟨_, rfl⟩

theorem set_eq_ok_iff {k : SettingKey} {value : String} :
    s.set k value = .ok s' ↔
      k.valueOf? value = some (s'.get k) ∧ ∀ k' ≠ k, s'.get k' = s.get k' := by
  refine ⟨get_set, fun ⟨hvalue, hothers⟩ => ?_⟩
  obtain ⟨after, hset⟩ := exists_set hvalue s
  obtain ⟨hafter, hkept⟩ := get_set hset
  obtain rfl : after = s' := by
    refine ext_get fun k' => ?_
    by_cases hk : k' = k
    · rw [hk, Option.some.inj (hafter.symm.trans hvalue)]
    · rw [hkept k' hk, hothers k' hk]
  exact hset

def overridden? (env : Environment) : SettingKey → Option SettingValue
  | .debounce =>
      (env.lookup debounceVariable).bind fun raw =>
        (naturalOfText? numberLimit (Text.trim raw.toList)).map .number
  | .logLevel =>
      (env.lookup logVariable).bind fun level =>
        if Text.isBlankText level then none else some (.text level)
  | _ => none

theorem get_overrideDebounce (h : overrideDebounce env s = .ok s') :
    s'.get .debounce = (overridden? env .debounce).getD (s.get .debounce) ∧
      ∀ k ≠ .debounce, s'.get k = s.get k := by
  unfold overrideDebounce at h
  split at h
  next hnone =>
    cases h
    exact ⟨by simp [overridden?, hnone], fun _ _ => rfl⟩
  next raw hraw =>
    split at h
    next n hn =>
      cases h
      refine ⟨by simp [overridden?, hraw, hn, get], fun k hk => ?_⟩
      cases k with
      | debounce => exact absurd rfl hk
      | _ => rfl
    next => cases h

theorem get_overrideLog (env : Environment) (s : Settings) :
    (overrideLog env s).get .logLevel = (overridden? env .logLevel).getD (s.get .logLevel) ∧
      ∀ k ≠ .logLevel, (overrideLog env s).get k = s.get k := by
  unfold overrideLog
  split
  next level hlevel =>
    split
    next hblank => exact ⟨by simp [overridden?, hlevel, hblank], fun _ _ => rfl⟩
    next hblank =>
      refine ⟨by simp [overridden?, hlevel, hblank, get], fun k hk => ?_⟩
      cases k with
      | logLevel => exact absurd rfl hk
      | _ => rfl
  next hnone => exact ⟨by simp [overridden?, hnone], fun _ _ => rfl⟩

theorem get_override (h : override env s = .ok s') (k : SettingKey) :
    s'.get k = (overridden? env k).getD (s.get k) := by
  obtain ⟨middle, hmiddle, rfl⟩ := eq_ok_of_map h
  obtain ⟨hdebounce, hothers⟩ := get_overrideDebounce hmiddle
  obtain ⟨hlevel, hrest⟩ := get_overrideLog env middle
  cases k with
  | debounce => rw [hrest _ (by decide), hdebounce]
  | logLevel => rw [hlevel, hothers _ (by decide)]
  | _ =>
    rw [hrest _ (by decide), hothers _ (by decide)]
    rfl

structure Silent (env : Environment) : Prop where
  debounce : env.lookup debounceVariable = none
  log : ∀ level ∈ env.lookup logVariable, Text.isBlankText level = true

theorem silent_nil : Silent [] := ⟨rfl, nofun⟩

theorem override_of_silent (h : Silent env) (s : Settings) : override env s = .ok s := by
  have hdebounce : overrideDebounce env s = .ok s := by rw [overrideDebounce, h.debounce]
  have hlog : overrideLog env s = s := by
    unfold overrideLog
    split
    next level hlevel => rw [if_pos (h.log level hlevel)]
    next => rfl
  rw [override, hdebounce, Except.map, hlog]

end Settings

end LinkedControls
