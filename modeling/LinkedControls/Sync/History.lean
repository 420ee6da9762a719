import LinkedControls.Sync.Conflict

/-!
The record of what a group has sent, bounded in size.
-/

namespace LinkedControls

structure Event where
  group : String
  control : String
  source : String
  before : Value
  after : Value
  origin : Origin
  refusal : Option String
deriving DecidableEq

namespace Event

def propagated (e : Event) : Bool := e.refusal.isNone

def applied (group source control : String) (before after : Value) : Event :=
  ⟨group, control, source, before, after, .sync, none⟩

def skipped (group source control : String) (before after : Value) (reason : String) : Event :=
  ⟨group, control, source, before, after, .sync, some reason⟩

end Event

structure History where
  events : List Event
  limit : Nat
deriving DecidableEq

namespace History

def empty (limit : Nat) : History := ⟨[], max limit 1⟩

def push (h : History) (e : Event) : History := { h with events := (e :: h.events).take h.limit }

def record (h : History) (es : List Event) : History := es.foldl push h

def recent (h : History) (limit : Option Nat) : List Event :=
  match limit with
  | some n => h.events.take n
  | none => h.events

end History

end LinkedControls
