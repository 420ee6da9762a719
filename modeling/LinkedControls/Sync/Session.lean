import LinkedControls.Repository.Basic
import LinkedControls.Store.Feed
import LinkedControls.Sync.Membership
import LinkedControls.Sync.Window

/-!
A coordinator at work beside its repository, under a clock that moves only when it is told to.
-/

namespace LinkedControls

inductive Service
  | working
  | failing
  /-- Saves wait until the repository works again. -/
  | stalled
deriving DecidableEq, Repr

structure Session where
  coordinator : Coordinator
  repository : Repository
  service : Service
  waiting : List Group
  feed : Feed
  now : Int
deriving DecidableEq

namespace Session

def start (settings : SyncSettings) (store : Store) (now : Int) : Session :=
  ⟨.start settings store 0, .empty, .working, [], .subscribe store, now⟩

def store (s : Session) : Store := s.coordinator.store

def failure : SyncError := (RepositoryError.storage "injected").toSyncError

def saveAll (r : Repository) (gs : List Group) : Repository := gs.foldl Repository.save r

def commit (s : Session) (w : Writes) : Except SyncError Unit × Session :=
  match w, s.service with
  | ⟨[], []⟩, _ => (.ok (), s)
  | _, .failing => (.error failure, s)
  | w, .working =>
      let r := w.deletes.foldl (fun r id => (r.delete id).2) s.repository
      (.ok (), { s with repository := saveAll r w.saves })
  | w, .stalled =>
      let r := w.deletes.foldl (fun r id => (r.delete id).2) s.repository
      (.ok (), { s with repository := r, waiting := s.waiting ++ w.saves })

def run {α : Type} (s : Session) (op : Coordinator → Except SyncError (Outcome α)) :
    Except SyncError α × Session :=
  match op s.coordinator with
  | .error e => (.error e, s)
  | .ok outcome =>
      let (result, s) := { s with coordinator := outcome.next }.commit outcome.writes
      (result.map fun _ => outcome.answer, s)

def act {ε α : Type} (s : Session) (op : Coordinator → Except ε (α × Coordinator)) :
    Except ε α × Session :=
  match op s.coordinator with
  | .error e => (.error e, s)
  | .ok (a, c) => (.ok a, { s with coordinator := c })

def change {ε : Type} (s : Session) (op : Store → Except ε Store) : Except ε Unit × Session :=
  match op s.store with
  | .error e => (.error e, s)
  | .ok store => (.ok (), { s with coordinator := { s.coordinator with store := store } })

/-- Lets one timer act. Nobody waits for the writes of a timer, so their failure has no effect. -/
def fire (s : Session) (t : Timer) : Session :=
  let (c, w) := s.coordinator.fire t t.due
  ({ s with coordinator := c }.commit w).2

def dueTimers (c : Coordinator) (now : Int) : List Timer :=
  (c.timers.filter fun t => t.due ≤ now).mergeSort fun t u => t.due ≤ u.due

def wait (s : Session) (ms : Nat) : Session :=
  let now := s.now + ms
  { (dueTimers s.coordinator now).foldl fire s with now := now }

/-- Changes the behaviour of the repository; one that works again does what has waited. -/
def setService (s : Session) (service : Service) : Session :=
  match service with
  | .working =>
      { s with service := .working, repository := saveAll s.repository s.waiting, waiting := [] }
  | service => { s with service := service }

def restart (s : Session) (settings : SyncSettings) : Session :=
  { s with coordinator := .start settings s.store s.coordinator.nextConflict }

def loadGroups (s : Session) : Except SyncError Nat × Session :=
  match s.service with
  | .failing => (.error failure, s)
  | _ =>
      let (n, c) := s.coordinator.loadGroups s.repository.groups
      (.ok n, { s with coordinator := c })

def readFeed (s : Session) : Nat × List Change × Session :=
  let (missed, changes, feed) := s.feed.drain s.store
  (missed, changes, { s with feed := feed })

end Session

end LinkedControls
