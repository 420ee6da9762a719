import LinkedControls.Proofs.Files.Replacing
import LinkedControls.Proofs.Text.Split

/-!
Files of the folder that paths begin in. Their names lead to them, and the text of one is replaced
without fail.
-/

namespace LinkedControls

namespace Path

structure IsName (path : String) : Prop where
  ne_empty : path ≠ ""
  ne_dot : path ≠ "."
  ne_dots : path ≠ ".."
  no_slash : '/' ∉ path.toList

variable {path : String}

theorem pieces_of_no_slash (h : '/' ∉ path.toList) : pieces path = [path] := by
  rw [pieces, Text.splitOn_of_not_mem h, List.map_singleton, String.ofList_toList]

theorem isAbsolute_of_no_slash (h : '/' ∉ path.toList) : isAbsolute path = false := by
  rw [isAbsolute, beq_eq_false_iff_ne]
  exact fun hhead => h (List.mem_of_mem_head? hhead)

theorem IsName.names_eq (h : IsName path) : names path = [path] := by
  rw [names, pieces_of_no_slash h.no_slash]
  simp [h.ne_empty]

theorem IsName.parent?_eq (h : IsName path) : parent? path = some "" := by
  rw [parent?, h.names_eq, isAbsolute_of_no_slash h.no_slash]
  rfl

theorem mem_stem {c : Char} (h : c ∈ (stem path).toList) : c ∈ path.toList := by
  unfold stem at h
  simp only at h
  split at h
  next d e rest htail =>
    rw [String.toList_ofList, List.mem_reverse] at h
    have hmem : c ∈ path.toList.reverse.dropWhile (· != '.') := htail ▸ List.mem_cons_of_mem _ h
    exact List.mem_reverse.mp ((List.dropWhile_sublist _).subset hmem)
  next => exact h

theorem IsName.withEnding_eq (h : IsName path) (ending : String) :
    withEnding path ending = stem path ++ "." ++ ending := by
  have hfile : fileName? path = some path := by
    rw [fileName?, h.names_eq]
    simp [h.ne_dot, h.ne_dots]
  rw [withEnding, hfile]
  simp only [h.names_eq, isAbsolute_of_no_slash h.no_slash]
  simp [ofNames]

theorem IsName.withEnding (h : IsName path) {ending : String} (hlong : 2 ≤ ending.toList.length)
    (hslash : '/' ∉ ending.toList) : IsName (Path.withEnding path ending) := by
  rw [h.withEnding_eq]
  have hlength : 3 ≤ (stem path ++ "." ++ ending).toList.length := by
    have hpoint : ".".toList.length = 1 := rfl
    simp only [String.toList_append, List.length_append, hpoint]
    omega
  refine ⟨?_, ?_, ?_, ?_⟩
  · intro he
    simp [he] at hlength
  · intro he
    simp [he] at hlength
  · intro he
    simp [he] at hlength
  · simp only [String.toList_append, List.mem_append, not_or]
    exact ⟨⟨fun hc => h.no_slash (mem_stem hc), by simp⟩, hslash⟩

end Path

namespace FileTree

variable {t u : FileTree} {l m : Location} {path content : String}

theorem locate_of_isName (h : Path.IsName path) (hhere : t.node? here = some .folder) :
    t.locate path = .ok (here ++ [path]) := by
  rw [locate, if_neg h.ne_empty, Path.pieces_of_no_slash h.no_slash,
    Path.isAbsolute_of_no_slash h.no_slash]
  simp [follow, hhere, h.ne_empty, h.ne_dot, h.ne_dots]

theorem makeParents_of_isName (h : Path.IsName path) : t.makeParents path = .ok t := by
  rw [makeParents, h.parent?_eq]
  rfl

theorem not_folder_put (hm : t.node? m ≠ some .folder) :
    (t.put l (.file content)).node? m ≠ some .folder := by
  by_cases he : m = l
  · rw [he, node?_put_self (he ▸ ne_nil_of_not_folder hm)]
    simp
  · rwa [node?_put_of_ne he]

theorem not_folder_remove (hm : t.node? m ≠ some .folder) :
    (t.remove l).node? m ≠ some .folder := by
  by_cases he : m = l
  · rw [he, node?_remove_self (he ▸ ne_nil_of_not_folder hm)]
    simp
  · rwa [node?_remove_of_ne he]

theorem write_of_locate (hl : t.locate path = .ok l) (hn : t.node? l ≠ some .folder) :
    t.write path content = .ok (t.put l (.file content)) := by
  unfold write
  simp only [hl, bind, Except.bind]
  rfl

theorem rename_of_locate {source : String} {origin : Location} (hread : t.read source = .ok content)
    (horigin : t.locate source = .ok origin) (hl : t.locate path = .ok l)
    (hn : t.node? l ≠ some .folder) :
    t.rename source path = .ok ((t.remove origin).put l (.file content)) := by
  unfold rename
  simp only [hread, horigin, hl, bind, Except.bind]
  rfl

def draft (path : String) : Location := here ++ [Path.withEnding path "json.tmp"]

/-- Neither the file nor its neighbour that is written first can be a folder. -/
structure Receives (t : FileTree) (path : String) : Prop where
  here : t.node? here = some .folder
  target : t.node? (FileTree.here ++ [path]) ≠ some .folder
  draft : t.node? (draft path) ≠ some .folder

def replaced (t : FileTree) (path content : String) : FileTree :=
  ((t.put (draft path) (.file content)).remove (draft path)).put (here ++ [path]) (.file content)

theorem Receives.node?_here (h : t.Receives path) (content : String) :
    (t.put (FileTree.draft path) (.file content)).node? FileTree.here = some .folder := by
  rw [node?_put_of_ne (by simp [FileTree.draft]), h.here]

theorem Receives.replace_eq (h : t.Receives path) (hname : Path.IsName path) (content : String) :
    t.replace path content = (.ok (), t.replaced path content) := by
  have hdraft : Path.IsName (Path.withEnding path "json.tmp") :=
    hname.withEnding (by decide) (by decide)
  have hwrite : t.write (Path.withEnding path "json.tmp") content = _ :=
    write_of_locate (locate_of_isName hdraft h.here) h.draft
  have hrename := rename_of_locate (read_write hwrite)
    (locate_of_isName hdraft (h.node?_here content)) (locate_of_isName hname (h.node?_here content))
    (not_folder_put h.target)
  simp only [FileTree.replace, hwrite, hrename]
  rfl

theorem Receives.replaced (h : t.Receives path) (content : String) :
    (t.replaced path content).Receives path := by
  refine ⟨?_, ?_, ?_⟩
  · rw [FileTree.replaced, node?_put_of_ne (by simp), node?_remove_of_ne (by simp [FileTree.draft]),
      h.node?_here]
  · exact not_folder_put (not_folder_remove (not_folder_put h.target))
  · exact not_folder_put (not_folder_remove (not_folder_put h.draft))

theorem Receives.read_cases (h : t.Receives path) (hname : Path.IsName path) :
    t.read path = .error .notFound ∨ ∃ content, t.read path = .ok content := by
  unfold read at?
  rw [locate_of_isName hname h.here]
  simp only [bind, Except.bind]
  cases hn : t.node? (FileTree.here ++ [path]) with
  | none => exact .inl rfl
  | some n =>
    cases n with
    | folder => exact absurd hn h.target
    | file content => exact .inr ⟨content, rfl⟩

end FileTree

end LinkedControls
