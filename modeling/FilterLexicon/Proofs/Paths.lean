import Mathlib.Data.List.Basic
import FilterLexicon.FileTree

/-! Where paths lead. A path leads to a place name by name, each from a directory, and what is found at
the path is what is at that place: a file, of which the bytes are known or not, or a directory. Links
between places are not considered. -/

namespace FilterLexicon.FileTree

variable {tree : FileTree} {place target : List String} {names : List String} {bytes : ByteArray}

/-- No file stands at the place, and something is known to be there or below. -/
def IsDirectory (tree : FileTree) (place : List String) : Prop :=
  tree.files.lookup place = none ∧
    (place <+: tree.workingDirectory ∨ (∃ directory ∈ tree.directories, place <+: directory) ∨
      ∃ file ∈ tree.files, place <+: file.1)

/-- Names lead from one place to another. All places on the way but the last are directories. -/
inductive Leads (tree : FileTree) : List String → List String → List String → Prop where
  | here (place : List String) : Leads tree place [] place
  | stay {place target : List String} {name : String} {names : List String}
      (hdirectory : tree.IsDirectory place) (hname : name = "" ∨ name = ".")
      (h : Leads tree place names target) : Leads tree place (name :: names) target
  | up {place target names : List String} (hdirectory : tree.IsDirectory place)
      (h : Leads tree place.dropLast names target) : Leads tree place (".." :: names) target
  | down {place target : List String} {name : String} {names : List String}
      (hdirectory : tree.IsDirectory place) (hname : name ≠ "" ∧ name ≠ "." ∧ name ≠ "..")
      (h : Leads tree (place ++ [name]) names target) : Leads tree place (name :: names) target

/-- The path leads to a file with the bytes. -/
def Holds (tree : FileTree) (path : String) (bytes : ByteArray) : Prop :=
  path ≠ "" ∧ ∃ place, tree.Leads (tree.start path) (FileTree.names path) place ∧
    tree.files.lookup place = some (.ok bytes)

theorem node_eq_directory_iff : tree.node place = .directory ↔ tree.IsDirectory place := by
  have hnamed : tree.named.any place.isPrefixOf = true ↔
      place <+: tree.workingDirectory ∨ (∃ directory ∈ tree.directories, place <+: directory) ∨
        ∃ file ∈ tree.files, place <+: file.1 := by
    simp [named, List.isPrefixOf_iff_prefix]
  rw [IsDirectory, ← hnamed, node]
  cases hfile : tree.files.lookup place with
  | none => simp
  | some content => cases content <;> simp

theorem node_eq_file_iff :
    tree.node place = .file bytes ↔ tree.files.lookup place = some (.ok bytes) := by
  rw [node]
  cases hfile : tree.files.lookup place with
  | none => simp only [reduceCtorEq, iff_false]; split <;> exact nofun
  | some content => cases content <;> simp

theorem leads_nil_iff : tree.Leads place [] target ↔ target = place := by
  constructor
  · rintro ⟨⟩
    rfl
  · rintro rfl
    exact .here target

theorem leads_cons_iff {name : String} :
    tree.Leads place (name :: names) target ↔
      tree.IsDirectory place ∧ tree.Leads (step place name) names target := by
  constructor
  · intro h
    cases h with
    | stay hdirectory hname h => exact ⟨hdirectory, by rwa [step, if_pos hname]⟩
    | up hdirectory h => exact ⟨hdirectory, h⟩
    | down hdirectory hname h =>
        rw [step, if_neg (not_or.mpr ⟨hname.1, hname.2.1⟩), if_neg hname.2.2]
        exact ⟨hdirectory, h⟩
  · rintro ⟨hdirectory, h⟩
    rw [step] at h
    split at h
    · rename_i hname
      exact .stay hdirectory hname h
    · rename_i hproper
      split at h
      · rename_i hname
        subst hname
        exact .up hdirectory h
      · rename_i hup
        exact .down hdirectory ⟨fun h => hproper (.inl h), fun h => hproper (.inr h), hup⟩ h

theorem walk_eq_iff {found : Node} (hfound : found ≠ .missing) :
    tree.walk place names = found ↔
      ∃ target, tree.Leads place names target ∧ tree.node target = found := by
  induction names generalizing place with
  | nil => simp only [walk, leads_nil_iff, exists_eq_left]
  | cons name names ih =>
      simp only [leads_cons_iff, ← node_eq_directory_iff, and_assoc, exists_and_left]
      rw [walk]
      cases hnode : tree.node place with
      | directory => simpa using ih
      | missing => simpa using hfound.symm
      | unreadable reason => simpa using hfound.symm
      | file bytes => simpa using hfound.symm

/-- Anything is found at a path exactly if the path leads to it. -/
theorem find_eq_iff {path : String} {found : Node} (hfound : found ≠ .missing) :
    tree.find path = found ↔
      path ≠ "" ∧ ∃ target, tree.Leads (tree.start path) (FileTree.names path) target ∧
        tree.node target = found := by
  rw [find]
  split
  · rename_i hempty
    exact iff_of_false hfound.symm fun h => h.1 hempty
  · rename_i hpath
    rw [walk_eq_iff hfound, and_iff_right hpath]

/-- A file of certain bytes is found at a path exactly if the path holds it. -/
theorem find_eq_file_iff {path : String} : tree.find path = .file bytes ↔ tree.Holds path bytes := by
  have hfound : Node.file bytes ≠ .missing := nofun
  simp only [find_eq_iff hfound, node_eq_file_iff, Holds]

theorem Leads.eq_foldl (h : tree.Leads place names target) : target = names.foldl step place := by
  induction names generalizing place with
  | nil => exact leads_nil_iff.mp h
  | cons name names ih => exact ih (leads_cons_iff.mp h).2

/-- A file added at a path is there if the path can still be followed. -/
theorem holds_addFile {path : String} (hpath : path ≠ "")
    (h : ∃ target, (tree.addFile path bytes).Leads (tree.start path) (FileTree.names path) target) :
    (tree.addFile path bytes).Holds path bytes := by
  obtain ⟨target, h⟩ := h
  refine ⟨hpath, target, h, ?_⟩
  rw [h.eq_foldl]
  exact List.lookup_cons_self

end FilterLexicon.FileTree
