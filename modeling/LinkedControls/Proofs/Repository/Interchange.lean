import Mathlib.Data.List.Permutation
import Mathlib.Data.String.Basic
import LinkedControls.Proofs.Files.Folder
import LinkedControls.Proofs.Outcome
import LinkedControls.Proofs.Repository.GroupText
import LinkedControls.Proofs.Repository.Storing

/-!
Calls to a repository. A repository in memory and one in a file answer them alike, and both as a map
from ids to groups would.
-/

namespace LinkedControls

inductive RepositoryRequest
  | save (g : Group)
  | get (id : String)
  | list
  | delete (id : String)
deriving DecidableEq

inductive RepositoryAnswer
  | saved
  | found (g : Option Group)
  | groups (gs : List Group)
  | deleted (existed : Bool)
deriving DecidableEq

def RepositoryRequest.Stamped (q : RepositoryRequest) : Prop := ∀ g, q = .save g → g.Stamped

namespace Repository

def respond (r : Repository) : RepositoryRequest → RepositoryAnswer × Repository
  | .save g => (.saved, r.save g)
  | .get id => (.found (r.get? id), r)
  | .list => (.groups r.groups, r)
  | .delete id => (.deleted (r.delete id).1, (r.delete id).2)

def answers (r : Repository) : List RepositoryRequest → List RepositoryAnswer
  | [] => []
  | q :: rest => (r.respond q).1 :: answers (r.respond q).2 rest

end Repository

namespace FileRepository

def respond (r : FileRepository) (t : FileTree) :
    RepositoryRequest → Except RepositoryError RepositoryAnswer × FileTree
  | .save g => ((r.save t g).1.map fun _ => .saved, (r.save t g).2)
  | .get id => ((r.get? t id).map .found, t)
  | .list => ((r.list t).map .groups, t)
  | .delete id => ((r.delete t id).1.map .deleted, (r.delete t id).2)

def answers (t : FileTree) :
    List (FileRepository × RepositoryRequest) → List (Except RepositoryError RepositoryAnswer)
  | [] => []
  | (r, q) :: rest => (r.respond t q).1 :: answers (r.respond t q).2 rest

end FileRepository

/-- The answers that a map from ids to groups gives to calls. It is listed by ascending ids. -/
inductive KeyedAnswers :
    (String → Option Group) → List RepositoryRequest → List RepositoryAnswer → Prop
  | nil (held : String → Option Group) : KeyedAnswers held [] []
  | save {held : String → Option Group} {requests : List RepositoryRequest}
      {answers : List RepositoryAnswer} (g : Group) :
      KeyedAnswers (Function.update held g.id (some g)) requests answers →
      KeyedAnswers held (.save g :: requests) (.saved :: answers)
  | get {held : String → Option Group} {requests : List RepositoryRequest}
      {answers : List RepositoryAnswer} (id : String) :
      KeyedAnswers held requests answers →
      KeyedAnswers held (.get id :: requests) (.found (held id) :: answers)
  | list {held : String → Option Group} {requests : List RepositoryRequest}
      {answers : List RepositoryAnswer} {gs : List Group} :
      gs.Pairwise (fun g h => g.id < h.id) → (∀ g, g ∈ gs ↔ held g.id = some g) →
      KeyedAnswers held requests answers →
      KeyedAnswers held (.list :: requests) (.groups gs :: answers)
  | delete {held : String → Option Group} {requests : List RepositoryRequest}
      {answers : List RepositoryAnswer} (id : String) :
      KeyedAnswers (Function.update held id none) requests answers →
      KeyedAnswers held (.delete id :: requests) (.deleted (held id).isSome :: answers)

namespace StoredGroups

variable {gs : List Group} {g : Group} {id : String}

def Ordered (gs : List Group) : Prop := gs.Pairwise fun g h => g.id < h.id

theorem Ordered.nodup (h : Ordered gs) : (gs.map (·.id)).Nodup :=
  List.pairwise_map.mpr (h.imp fun hlt => ne_of_lt hlt)

theorem sort_eq (h : Ordered gs) : sort gs = gs :=
  List.mergeSort_of_pairwise (h.imp fun hlt => decide_eq_true (le_of_lt hlt))

theorem ordered_sort (h : (gs.map (·.id)).Nodup) : Ordered (sort gs) := by
  have hle : (sort gs).Pairwise fun g h => decide (g.id ≤ h.id) = true :=
    List.pairwise_mergeSort (fun a b c => by simpa using le_trans) (fun a b => by simpa using le_total _ _) gs
  have hne : ((sort gs).map (·.id)).Nodup := ((sort_perm gs).map _).nodup_iff.mpr h
  refine (hle.and (List.pairwise_map.mp hne)).imp fun ⟨hle, hne⟩ => ?_
  exact lt_of_le_of_ne (of_decide_eq_true hle) hne

theorem Ordered.save (h : Ordered gs) (g : Group) : Ordered (save gs g) :=
  ordered_sort (nodup_ids_put h.nodup)

theorem Ordered.without (h : Ordered gs) (id : String) : Ordered (without gs id) :=
  h.sublist List.filter_sublist

theorem without_of_holds_eq_false (h : holds gs id = false) : without gs id = gs := by
  refine List.filter_eq_self.mpr fun g hg => ?_
  simpa using List.any_eq_false.mp h g hg

theorem mem_put {h : Group} (hmem : h ∈ put g gs) : h = g ∨ h ∈ gs := by
  induction gs with
  | nil => exact .inl (List.mem_singleton.mp hmem)
  | cons k rest ih =>
    unfold put at hmem
    split at hmem
    · exact (List.mem_cons.mp hmem).imp_right (List.mem_cons_of_mem _)
    · obtain rfl | hmem := List.mem_cons.mp hmem
      · exact .inr List.mem_cons_self
      · exact (ih hmem).imp_right (List.mem_cons_of_mem _)

theorem mem_save {h : Group} (hmem : h ∈ save gs g) : h = g ∨ h ∈ gs :=
  mem_put ((sort_perm _).mem_iff.mp hmem)

theorem holds_eq : holds gs id = (find? gs id).isSome := by
  rw [Bool.eq_iff_iff]
  simp [holds, find?]

end StoredGroups

namespace Repository

variable {r : Repository} {held : String → Option Group}

structure Keeps (r : Repository) (held : String → Option Group) : Prop where
  get? : ∀ id, r.get? id = held id
  ordered : StoredGroups.Ordered r.groups

theorem keeps_empty : Keeps .empty fun _ => none := ⟨fun _ => rfl, .nil⟩

theorem Keeps.save (h : r.Keeps held) (g : Group) :
    (r.save g).Keeps (Function.update held g.id (some g)) := by
  refine ⟨fun id => ?_, h.ordered.save g⟩
  rw [get?_save h.ordered.nodup, Function.update_apply, h.get?]

theorem Keeps.delete (h : r.Keeps held) (id : String) :
    (r.delete id).2.Keeps (Function.update held id none) := by
  refine ⟨fun i => ?_, h.ordered.without id⟩
  rw [get?_delete, Function.update_apply, h.get?]

theorem Keeps.mem_groups (h : r.Keeps held) (g : Group) : g ∈ r.groups ↔ held g.id = some g := by
  have hfind : r.get? g.id = some g ↔ g ∈ r.groups ∧ g.id = g.id :=
    find?_key_eq_some_iff h.ordered.nodup
  rw [← h.get?, hfind, and_iff_left rfl]

theorem Keeps.delete_fst (h : r.Keeps held) (id : String) : (r.delete id).1 = (held id).isSome := by
  rw [← h.get?]
  exact StoredGroups.holds_eq

theorem Keeps.answers (h : r.Keeps held) (requests : List RepositoryRequest) :
    KeyedAnswers held requests (r.answers requests) := by
  induction requests generalizing r held with
  | nil => exact .nil held
  | cons q rest ih =>
    cases q with
    | save g => exact .save g (ih (h.save g))
    | get id =>
      have hget := KeyedAnswers.get id (ih h)
      rwa [← h.get?] at hget
    | list => exact .list h.ordered h.mem_groups (ih h)
    | delete id =>
      have hdelete := KeyedAnswers.delete id (ih (h.delete id))
      rwa [← h.delete_fst] at hdelete

end Repository

namespace FileRepository

variable {file : FileRepository} {t u : FileTree} {r : Repository} {gs : List Group}
  {q : RepositoryRequest}

structure Mirrors (file : FileRepository) (t : FileTree) (r : Repository) : Prop where
  list : file.list t = .ok r.groups
  ordered : StoredGroups.Ordered r.groups
  stamped : ∀ g ∈ r.groups, g.Stamped

theorem mirrors_missing (h : t.read file.path = .error .notFound) : file.Mirrors t .empty := by
  refine ⟨?_, .nil, fun _ hg => absurd hg List.not_mem_nil⟩
  rw [list, h]
  rfl

theorem list_of_read (h : t.read file.path = .ok (StoredGroups.toText gs))
    (hgs : ∀ g ∈ gs, g.Stamped) : file.list t = .ok gs := by
  rw [list, h]
  simp only [StoredGroups.ofText?_toText hgs]

theorem store_cases (file : FileRepository) (t : FileTree) (hgs : ∀ g ∈ gs, g.Stamped) :
    ((file.store t gs).1 = .ok () ∧ file.list (file.store t gs).2 = .ok (StoredGroups.sort gs)) ∨
      ∃ m, (file.store t gs).1 = .error (.storage m) := by
  unfold store
  cases hparents : t.makeParents file.path with
  | error e => exact .inr ⟨_, rfl⟩
  | ok u =>
    cases hreplace : u.replace file.path (StoredGroups.toText (StoredGroups.sort gs)) with
    | mk result v =>
      simp only [hreplace]
      cases result with
      | error e => exact .inr ⟨_, rfl⟩
      | ok _ =>
        refine .inl ⟨rfl, list_of_read (FileTree.read_replace hreplace) fun g hg => ?_⟩
        exact hgs g ((StoredGroups.sort_perm gs).mem_iff.mp hg)

theorem Mirrors.respond (h : file.Mirrors t r) (hq : q.Stamped)
    (hworks : ∀ m, (file.respond t q).1 ≠ .error (.storage m)) :
    (file.respond t q).1 = .ok (r.respond q).1 ∧
      file.Mirrors (file.respond t q).2 (r.respond q).2 := by
  cases q with
  | save g =>
    have hstamped : ∀ k ∈ StoredGroups.save r.groups g, k.Stamped := fun k hk =>
      (StoredGroups.mem_save hk).elim (fun he => he ▸ hq g rfl) (h.stamped k)
    have hput : ∀ k ∈ StoredGroups.put g r.groups, k.Stamped := fun k hk =>
      (StoredGroups.mem_put hk).elim (fun he => he ▸ hq g rfl) (h.stamped k)
    have hsave : file.save t g = file.store t (StoredGroups.put g r.groups) := by
      rw [save, h.list]
    simp only [FileRepository.respond, hsave] at hworks ⊢
    obtain ⟨hok, hlist⟩ | ⟨m, hm⟩ := store_cases file t hput
    · rw [hok]
      exact ⟨rfl, hlist, h.ordered.save g, hstamped⟩
    · rw [hm] at hworks
      exact absurd rfl (hworks m)
  | get id =>
    refine ⟨?_, h⟩
    simp only [FileRepository.respond, get?, h.list]
    rfl
  | list =>
    refine ⟨?_, h⟩
    simp only [FileRepository.respond, h.list]
    rfl
  | delete id =>
    have hstamped : ∀ k ∈ StoredGroups.without r.groups id, k.Stamped := fun k hk =>
      h.stamped k (List.mem_filter.mp hk).1
    cases hholds : StoredGroups.holds r.groups id with
    | false =>
      have hdelete : file.delete t id = (.ok false, t) := by
        simp only [delete, h.list, hholds, Bool.false_eq_true, if_false]
      simp only [FileRepository.respond, Repository.respond, Repository.delete, hdelete, hholds,
        StoredGroups.without_of_holds_eq_false hholds]
      exact ⟨rfl, h⟩
    | true =>
      have hdelete : file.delete t id =
          ((file.store t (StoredGroups.without r.groups id)).1.map fun _ => true,
            (file.store t (StoredGroups.without r.groups id)).2) := by
        simp only [delete, h.list, hholds, if_true]
      simp only [FileRepository.respond, Repository.respond, Repository.delete, hdelete, hholds]
        at hworks ⊢
      obtain ⟨hok, hlist⟩ | ⟨m, hm⟩ := store_cases file t hstamped
      · rw [StoredGroups.sort_eq (h.ordered.without id)] at hlist
        rw [hok]
        exact ⟨rfl, hlist, h.ordered.without id, hstamped⟩
      · rw [hm] at hworks
        exact absurd rfl (hworks m)

theorem answers_of_mirrors {path : String} {calls : List (FileRepository × RepositoryRequest)}
    (h : Mirrors ⟨path⟩ t r) (hpath : ∀ c ∈ calls, c.1.path = path)
    (hstamped : ∀ c ∈ calls, c.2.Stamped)
    (hworks : ∀ a ∈ answers t calls, ∀ m, a ≠ .error (.storage m)) :
    answers t calls = (r.answers (calls.map (·.2))).map .ok := by
  induction calls generalizing t r with
  | nil => rfl
  | cons c rest ih =>
    obtain ⟨⟨_⟩, q⟩ := c
    obtain rfl := hpath _ List.mem_cons_self
    obtain ⟨hanswer, hnext⟩ := h.respond (hstamped _ List.mem_cons_self)
      (hworks _ List.mem_cons_self)
    have hrest := ih hnext (fun c hc => hpath c (List.mem_cons_of_mem _ hc))
      (fun c hc => hstamped c (List.mem_cons_of_mem _ hc))
      (fun a ha => hworks a (List.mem_cons_of_mem _ ha))
    rw [answers, hanswer, hrest]
    rfl

theorem list_ne_storage (h : t.Receives file.path) (hname : Path.IsName file.path) (m : String) :
    file.list t ≠ .error (.storage m) := by
  unfold list
  obtain hread | ⟨content, hread⟩ := h.read_cases hname
  · simp [hread]
  · simp only [hread]
    split
    all_goals simp

theorem store_receives (h : t.Receives file.path) (hname : Path.IsName file.path) (gs : List Group) :
    (file.store t gs).1 = .ok () ∧ (file.store t gs).2.Receives file.path := by
  have hreplace := h.replace_eq hname (StoredGroups.toText (StoredGroups.sort gs))
  simp only [store, FileTree.makeParents_of_isName hname, hreplace]
  exact ⟨rfl, h.replaced _⟩

theorem save_receives (h : t.Receives file.path) (hname : Path.IsName file.path) (g : Group) :
    (∀ m, (file.save t g).1 ≠ .error (.storage m)) ∧ (file.save t g).2.Receives file.path := by
  have hlist := list_ne_storage h hname
  unfold save
  cases hgroups : file.list t with
  | error e =>
    rw [hgroups] at hlist
    exact ⟨fun m he => hlist m (congrArg Except.error (Except.error.inj he)), h⟩
  | ok gs =>
    obtain ⟨hok, hreceives⟩ := store_receives h hname (StoredGroups.put g gs)
    exact ⟨fun m => by simp [hok], hreceives⟩

theorem delete_receives (h : t.Receives file.path) (hname : Path.IsName file.path) (id : String) :
    (∀ m, (file.delete t id).1 ≠ .error (.storage m)) ∧
      (file.delete t id).2.Receives file.path := by
  have hlist := list_ne_storage h hname
  unfold delete
  cases hgroups : file.list t with
  | error e =>
    rw [hgroups] at hlist
    exact ⟨fun m he => hlist m (congrArg Except.error (Except.error.inj he)), h⟩
  | ok gs =>
    simp only
    split
    · obtain ⟨hok, hreceives⟩ := store_receives h hname (StoredGroups.without gs id)
      refine ⟨fun m => map_ne_error ?_, hreceives⟩
      simp [hok]
    · exact ⟨fun m => by simp, h⟩

theorem respond_receives (h : t.Receives file.path) (hname : Path.IsName file.path)
    (q : RepositoryRequest) :
    (∀ m, (file.respond t q).1 ≠ .error (.storage m)) ∧ (file.respond t q).2.Receives file.path := by
  have hlist := list_ne_storage h hname
  cases q with
  | save g =>
    obtain ⟨hsave, hreceives⟩ := save_receives h hname g
    exact ⟨fun m => map_ne_error (hsave m), hreceives⟩
  | get id => exact ⟨fun m => map_ne_error (map_ne_error (hlist m)), h⟩
  | list => exact ⟨fun m => map_ne_error (hlist m), h⟩
  | delete id =>
    obtain ⟨hdelete, hreceives⟩ := delete_receives h hname id
    exact ⟨fun m => map_ne_error (hdelete m), hreceives⟩

theorem answers_ne_storage {path : String} {calls : List (FileRepository × RepositoryRequest)}
    (h : t.Receives path) (hname : Path.IsName path) (hpath : ∀ c ∈ calls, c.1.path = path) :
    ∀ a ∈ answers t calls, ∀ m, a ≠ .error (.storage m) := by
  induction calls generalizing t with
  | nil => exact fun _ ha => absurd ha List.not_mem_nil
  | cons c rest ih =>
    obtain rfl := hpath _ List.mem_cons_self
    obtain ⟨hanswer, hnext⟩ := respond_receives h hname c.2
    have hrest := ih hnext fun d hd => hpath d (List.mem_cons_of_mem _ hd)
    exact List.forall_mem_cons.mpr ⟨hanswer, hrest⟩

theorem answers_eq_memory {t : FileTree} {path : String}
    (hmissing : t.read path = .error .notFound) (calls : List (FileRepository × RepositoryRequest))
    (hpath : ∀ c ∈ calls, c.1.path = path) (hstamped : ∀ c ∈ calls, c.2.Stamped)
    (hworks : ∀ a ∈ answers t calls, ∀ m, a ≠ .error (.storage m)) :
    answers t calls = (Repository.empty.answers (calls.map (·.2))).map .ok ∧
      KeyedAnswers (fun _ => none) (calls.map (·.2))
        (Repository.empty.answers (calls.map (·.2))) :=
  ⟨answers_of_mirrors (mirrors_missing hmissing) hpath hstamped hworks,
    Repository.keeps_empty.answers _⟩

theorem answers_eq_memory_in_folder :
    let file : FileRepository := ⟨"groups.json"⟩
    let g : Group :=
      ⟨"g\"1", "dates\n", ["from", "to"], .masterSlave, some "from", .merge, true, none⟩
    let h : Group := ⟨"a", "regions", ["x", "y"], .broadcast, none, .manual, false, some (-5)⟩
    let requests : List RepositoryRequest :=
      [.save g, .save h, .list, .delete "a", .delete "a", .get "g\"1"]
    FileTree.empty.read "groups.json" = .error .notFound ∧
      answers .empty (requests.map (file, ·)) =
        [.ok .saved, .ok .saved, .ok (.groups [h, g]), .ok (.deleted true), .ok (.deleted false),
          .ok (.found (some g))] := by
  intro file g h requests
  have hname : Path.IsName "groups.json" := by
    constructor
    all_goals decide
  have hreceives : FileTree.empty.Receives "groups.json" := by
    constructor
    all_goals decide
  have hpath : ∀ c ∈ requests.map (file, ·), c.1.path = "groups.json" := by
    simp [file]
  have hstamped : ∀ c ∈ requests.map (file, ·), c.2.Stamped := by
    simp [RepositoryRequest.Stamped, Group.Stamped, requests, g, h]
  have hmissing : FileTree.empty.read "groups.json" = .error .notFound := by decide
  have hmemory : Repository.empty.answers requests =
      [.saved, .saved, .groups [h, g], .deleted true, .deleted false, .found (some g)] := by
    cbv
  refine ⟨hmissing, ?_⟩
  have hall := (answers_eq_memory hmissing (requests.map (file, ·)) hpath hstamped
    (answers_ne_storage hreceives hname hpath)).1
  have hsame : (requests.map (file, ·)).map (·.2) = requests := by
    simp [Function.comp_def]
  rw [hall, hsame, hmemory]
  rfl

end FileRepository

end LinkedControls
