import LinkedControls.Store.Basic

/-!
A reader of the change log. It holds back a bounded number of changes, so a reader that comes late
misses the older ones and is told how many.
-/

namespace LinkedControls

structure Feed where
  seen : Nat
deriving DecidableEq, Repr

namespace Feed

def capacity : Nat := 256

def subscribe (s : Store) : Feed := ⟨s.log.length⟩

def drain (f : Feed) (s : Store) : Nat × List Change × Feed :=
  let unseen := s.log.drop f.seen
  let missed := unseen.length - capacity
  (missed, unseen.drop missed, ⟨s.log.length⟩)

end Feed

end LinkedControls
