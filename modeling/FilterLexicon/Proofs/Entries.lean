import FilterLexicon.Entries
import Mathlib.Data.List.Perm.Subperm

/-! Tables in order of insertion, built from lists of entries. For each key the table keeps the
place of its first entry and the value of its last. A table whose keys are distinct is rebuilt
exactly from its own entries, which is what the readers of tables rest on. -/

namespace FilterLexicon

namespace Entries

variable {α : Type}

/-- The entries inserted one after the other. -/
def insertAll (d : Entries α) (entries : List (String × α)) : Entries α :=
  entries.foldl (fun d e => d.insert e.1 e.2) d

@[simp] theorem insertAll_nil (d : Entries α) : d.insertAll [] = d := rfl

@[simp] theorem insertAll_cons (d : Entries α) (e : String × α) (entries : List (String × α)) :
    d.insertAll (e :: entries) = (d.insert e.1 e.2).insertAll entries := rfl

theorem insertAll_append (d : Entries α) (first second : List (String × α)) :
    d.insertAll (first ++ second) = (d.insertAll first).insertAll second :=
  List.foldl_append

theorem ofList_eq_insertAll (entries : List (String × α)) :
    ofList entries = ({} : Entries α).insertAll entries := rfl

/-- The last entry of a key counts, and behind it what the table held before. -/
theorem get?_insertAll (d : Entries α) (entries : List (String × α)) (key : String) :
    (d.insertAll entries).get? key = (entries.reverse.lookup key).or (d.get? key) := by
  induction entries generalizing d with
  | nil => rfl
  | cons e entries ih =>
      obtain ⟨k, v⟩ := e
      rw [insertAll_cons, ih, get?_insert, List.reverse_cons, List.lookup_append, Option.or_assoc]
      by_cases h : key = k
      · simp [h]
      · simp [h, List.lookup_cons, beq_false_of_ne h]

theorem get?_ofList (entries : List (String × α)) (key : String) :
    (ofList entries).get? key = entries.reverse.lookup key := by
  rw [ofList_eq_insertAll, get?_insertAll]
  exact Option.or_none

/-- What a key holds is its last entry. -/
theorem get?_ofList_eq_some_iff {entries : List (String × α)} {key : String} {value : α} :
    (ofList entries).get? key = some value ↔
      ∃ earlier later, entries = earlier ++ (key, value) :: later ∧ key ∉ later.map Prod.fst := by
  rw [get?_ofList, List.lookup_eq_some_iff]
  constructor
  · rintro ⟨later, earlier, heq, hlater⟩
    refine ⟨earlier.reverse, later.reverse, ?_, ?_⟩
    · rw [← List.reverse_reverse entries, heq]
      simp
    · intro hmem
      obtain ⟨e, he, hkey⟩ := List.mem_map.mp hmem
      have hne := hlater e (List.mem_reverse.mp he)
      rw [hkey] at hne
      simp at hne
  · rintro ⟨earlier, later, rfl, hlater⟩
    refine ⟨later.reverse, earlier.reverse, by simp, ?_⟩
    intro e he
    rw [bne_iff_ne]
    rintro rfl
    exact hlater (List.mem_map_of_mem (List.mem_reverse.mp he))

theorem get?_ofList_eq_none_iff {entries : List (String × α)} {key : String} :
    (ofList entries).get? key = none ↔ key ∉ entries.map Prod.fst := by
  rw [get?_ofList, List.lookup_eq_none_iff]
  simp only [List.mem_reverse, bne_iff_ne, List.mem_map, not_exists, not_and]
  exact ⟨fun h e he heq => h e he heq.symm, fun h e he heq => h e he heq.symm⟩

theorem keys_insertAll (d : Entries α) (entries : List (String × α)) :
    (d.insertAll entries).keys =
      d.keys ++ ((entries.map Prod.fst).removeAll d.keys).eraseDups := by
  induction entries generalizing d with
  | nil => simp [List.removeAll]
  | cons e entries ih =>
      rw [insertAll_cons, ih, keys_insert, List.map_cons]
      by_cases h : e.1 ∈ d.keys
      · simp [h, List.removeAll]
      · simp [h, List.removeAll, List.eraseDups_cons, List.filter_filter, Bool.beq_eq_decide_eq,
          Bool.and_comm]

/-- The keys of a list of entries, each at its first occurrence. -/
theorem keys_ofList (entries : List (String × α)) :
    (ofList entries).keys = (entries.map Prod.fst).eraseDups := by
  rw [ofList_eq_insertAll, keys_insertAll, show ({} : Entries α).keys = [] from rfl,
    List.nil_append, List.removeAll_nil]

/-- The table that a list of entries, read in order, comes to: each key stands where it occurs first
and holds what it occurs with last. -/
structure IsTableOf (table : Entries α) (entries : List (String × α)) : Prop where
  keys : table.keys = (entries.map Prod.fst).eraseDups
  holds : ∀ key value, table.get? key = some value ↔
    ∃ earlier later, entries = earlier ++ (key, value) :: later ∧ key ∉ later.map Prod.fst

theorem isTableOf_ofList (entries : List (String × α)) : (ofList entries).IsTableOf entries :=
  ⟨keys_ofList entries, fun _ _ => get?_ofList_eq_some_iff⟩

theorem nodup_append_new {names : List String} {name : String} (h : names.Nodup)
    (hname : name ∉ names) : (names ++ [name]).Nodup := by
  rw [List.nodup_append]
  refine ⟨h, by simp, ?_⟩
  intro other hother last hlast heq
  rw [heq, List.mem_singleton.mp hlast] at hother
  exact hname hother

theorem size_insert (d : Entries α) (key : String) (value : α) :
    (d.insert key value).size = if key ∈ d.keys then d.size else d.size + 1 := by
  have hsize (e : Entries α) : e.size = e.keys.length := (List.length_map _).symm
  rw [hsize, hsize, keys_insert]
  split
  · rfl
  · exact List.length_append

theorem nodup_keys_insert (d : Entries α) (key : String) (value : α) (h : d.keys.Nodup) :
    (d.insert key value).keys.Nodup := by
  rw [keys_insert]
  split
  · exact h
  · rename_i hkey
    exact nodup_append_new h hkey

theorem nodup_keys_insertAll (d : Entries α) (entries : List (String × α)) (h : d.keys.Nodup) :
    (d.insertAll entries).keys.Nodup := by
  induction entries generalizing d with
  | nil => exact h
  | cons e entries ih => exact ih (d.insert e.1 e.2) (nodup_keys_insert d e.1 e.2 h)

theorem nodup_keys_ofList (entries : List (String × α)) : (ofList entries).keys.Nodup :=
  nodup_keys_insertAll {} entries List.nodup_nil

theorem insert_of_not_mem (d : Entries α) (key : String) (value : α) (h : key ∉ d.keys) :
    (d.insert key value).toList = d.toList ++ [(key, value)] := by
  obtain ⟨l⟩ := d
  simp only [keys, insert] at h ⊢
  induction l with
  | nil => rfl
  | cons e l ih =>
      obtain ⟨k, v⟩ := e
      rw [List.map_cons, List.mem_cons, not_or] at h
      rw [put, if_neg (fun hk => h.1 hk.symm), ih h.2, List.cons_append]

/-- Entries with new and distinct keys are appended as they are. -/
theorem toList_insertAll_of_nodup (d : Entries α) (entries : List (String × α))
    (h : (d.keys ++ entries.map Prod.fst).Nodup) :
    (d.insertAll entries).toList = d.toList ++ entries := by
  induction entries generalizing d with
  | nil => simp
  | cons e entries ih =>
      have hkey : e.1 ∉ d.keys := by
        intro hmem
        rw [List.nodup_append] at h
        exact h.2.2 e.1 hmem e.1 (by simp) rfl
      have hinsert := insert_of_not_mem d e.1 e.2 hkey
      have hkeys : (d.insert e.1 e.2).keys = d.keys ++ [e.1] := by
        rw [keys_insert, if_neg hkey]
      rw [insertAll_cons, ih, hinsert, List.append_assoc]
      · rfl
      · rw [hkeys, List.append_assoc]
        exact h

theorem toList_ofList_of_nodup (entries : List (String × α))
    (h : (entries.map Prod.fst).Nodup) : (ofList entries).toList = entries :=
  toList_insertAll_of_nodup {} entries h

/-- A table with distinct keys is the table of its own entries. -/
theorem ofList_toList (d : Entries α) (h : d.keys.Nodup) : ofList d.toList = d :=
  congrArg Entries.mk (toList_ofList_of_nodup d.toList h)

theorem mem_insert {d : Entries α} {key : String} {value : α} {e : String × α}
    (h : e ∈ (d.insert key value).toList) : e = (key, value) ∨ e ∈ d.toList := by
  obtain ⟨l⟩ := d
  simp only [insert] at h ⊢
  induction l with
  | nil => exact Or.inl (List.mem_singleton.mp h)
  | cons head l ih =>
      obtain ⟨k, v⟩ := head
      rw [put] at h
      split at h
      · rcases List.mem_cons.mp h with h | h
        · exact Or.inl h
        · exact Or.inr (List.mem_cons_of_mem _ h)
      · rcases List.mem_cons.mp h with h | h
        · exact Or.inr (h ▸ List.mem_cons_self)
        · rcases ih h with h | h
          · exact Or.inl h
          · exact Or.inr (List.mem_cons_of_mem _ h)

theorem mem_insertAll {d : Entries α} {entries : List (String × α)} {e : String × α}
    (h : e ∈ (d.insertAll entries).toList) : e ∈ d.toList ∨ e ∈ entries := by
  induction entries generalizing d with
  | nil => exact Or.inl h
  | cons head entries ih =>
      rcases ih h with h | h
      · rcases mem_insert h with h | h
        · exact Or.inr (h ▸ List.mem_cons_self)
        · exact Or.inl h
      · exact Or.inr (List.mem_cons_of_mem _ h)

theorem mem_ofList {entries : List (String × α)} {e : String × α}
    (h : e ∈ (ofList entries).toList) : e ∈ entries :=
  (mem_insertAll h).resolve_left List.not_mem_nil

theorem mem_of_lookup_eq_some {entries : List (String × α)} {key : String} {value : α}
    (h : entries.lookup key = some value) : (key, value) ∈ entries := by
  obtain ⟨earlier, later, rfl, _⟩ := List.lookup_eq_some_iff.mp h
  exact List.mem_append_right _ List.mem_cons_self

theorem lookup_isSome_iff {entries : List (String × α)} {key : String} :
    (entries.lookup key).isSome ↔ key ∈ entries.map Prod.fst := by
  simp only [List.lookup_isSome_iff, List.mem_map, beq_iff_eq]
  constructor
  · rintro ⟨e, he, rfl⟩
    exact ⟨e, he, rfl⟩
  · rintro ⟨e, he, rfl⟩
    exact ⟨e, he, rfl⟩

theorem get?_isSome_iff (d : Entries α) (key : String) : (d.get? key).isSome ↔ key ∈ d.keys :=
  lookup_isSome_iff

theorem get?_eq_none_iff {d : Entries α} {key : String} : d.get? key = none ↔ key ∉ d.keys := by
  rw [← Option.not_isSome_iff_eq_none, get?_isSome_iff]

/-- If no key occurs twice, a key has at most one value. -/
theorem eq_of_mem_of_nodup {entries : List (String × α)} (h : (entries.map Prod.fst).Nodup)
    {key : String} {a b : α} (ha : (key, a) ∈ entries) (hb : (key, b) ∈ entries) : a = b := by
  induction entries with
  | nil => exact absurd ha List.not_mem_nil
  | cons e entries ih =>
      rw [List.map_cons, List.nodup_cons] at h
      rcases List.mem_cons.mp ha with ha | ha <;> rcases List.mem_cons.mp hb with hb | hb
      · exact congrArg Prod.snd (ha.trans hb.symm)
      · exact absurd (List.mem_map_of_mem hb) (ha ▸ h.1)
      · exact absurd (List.mem_map_of_mem ha) (hb ▸ h.1)
      · exact ih h.2 ha hb

/-- If no key occurs twice, a table holds the entries of its list. -/
theorem get?_ofList_eq_some_iff_mem {entries : List (String × α)}
    (h : (entries.map Prod.fst).Nodup) {key : String} {value : α} :
    (ofList entries).get? key = some value ↔ (key, value) ∈ entries := by
  rw [get?_ofList_eq_some_iff]
  constructor
  · rintro ⟨earlier, later, rfl, _⟩
    exact List.mem_append_right _ List.mem_cons_self
  · intro hmem
    obtain ⟨earlier, later, rfl⟩ := List.append_of_mem hmem
    rw [List.map_append, List.map_cons, List.nodup_append, List.nodup_cons] at h
    exact ⟨earlier, later, rfl, h.2.1.1⟩

/-- Then the order of the list does not matter to what is found. -/
theorem get?_ofList_perm {entries other : List (String × α)} (hperm : entries.Perm other)
    (h : (entries.map Prod.fst).Nodup) (key : String) :
    (ofList entries).get? key = (ofList other).get? key := by
  have hother : (other.map Prod.fst).Nodup := (hperm.map Prod.fst).nodup_iff.mp h
  apply Option.ext
  intro value
  rw [get?_ofList_eq_some_iff_mem h, get?_ofList_eq_some_iff_mem hother, hperm.mem_iff]

theorem nodup_keys_erase (d : Entries α) (key : String) (h : d.keys.Nodup) :
    (d.erase key).keys.Nodup := by
  rw [keys_erase]
  exact h.filter _

/-- What is found under a key that is kept does not depend on the keys that are not. -/
theorem lookup_filter (keep : String → Bool) {key : String} (h : keep key = true)
    (entries : List (String × α)) :
    (entries.filter fun e => keep e.1).lookup key = entries.lookup key := by
  induction entries with
  | nil => rfl
  | cons e entries ih =>
      obtain ⟨k, v⟩ := e
      by_cases hkey : key = k
      · subst hkey
        simp only [List.filter_cons, h, if_true, List.lookup_cons_self]
      · have hskip (l : List (String × α)) : ((k, v) :: l).lookup key = l.lookup key := by
          rw [List.lookup_cons, beq_false_of_ne hkey]
        rw [List.filter_cons, hskip, ← ih]
        split
        · exact hskip _
        · rfl

/-- Removing a key changes what is found under that key and nothing else. -/
theorem get?_erase (d : Entries α) (key other : String) :
    (d.erase key).get? other = if other = key then none else d.get? other := by
  by_cases hother : other = key
  · rw [if_pos hother, get?_eq_none_iff, keys_erase, hother]
    simp
  · rw [if_neg hother]
    exact lookup_filter (· ≠ key) (decide_eq_true hother) d.toList

/-- If no key occurs twice, a table holds its own entries. -/
theorem get?_eq_some_iff_mem {d : Entries α} (h : d.keys.Nodup) {key : String} {value : α} :
    d.get? key = some value ↔ (key, value) ∈ d.toList := by
  rw [← get?_ofList_eq_some_iff_mem h, ofList_toList d h]

/-- Tables that agree have the same entries in some order. -/
theorem perm_of_sameAs [BEq α] [LawfulBEq α] {d e : Entries α} (hd : d.keys.Nodup)
    (h : d.sameAs e = true) : d.toList.Perm e.toList := by
  simp only [sameAs, Bool.and_eq_true, beq_iff_eq, List.all_eq_true, size] at h
  obtain ⟨hsize, hall⟩ := h
  have hsubset : d.toList ⊆ e.toList := fun entry hentry => mem_of_lookup_eq_some (hall entry hentry)
  have hnodup : d.toList.Nodup :=
    List.Pairwise.of_map Prod.fst (fun _ _ hne => ne_of_apply_ne Prod.fst hne) hd
  exact (hnodup.subperm hsubset).perm_of_length_le (Nat.le_of_eq hsize.symm)

/-- Tables without repeated keys agree exactly when they hold the same under every key. -/
theorem sameAs_iff [BEq α] [LawfulBEq α] {d e : Entries α} (hd : d.keys.Nodup)
    (he : e.keys.Nodup) : d.sameAs e = true ↔ ∀ key, d.get? key = e.get? key := by
  constructor
  · intro h key
    have hperm := perm_of_sameAs hd h
    apply Option.ext
    intro value
    rw [get?_eq_some_iff_mem hd, get?_eq_some_iff_mem he, hperm.mem_iff]
  · intro h
    have hkeys : d.keys.Perm e.keys := by
      rw [List.perm_ext_iff_of_nodup hd he]
      intro key
      rw [← get?_isSome_iff, ← get?_isSome_iff, h]
    have hsize : d.size = e.size := by simpa [keys, size] using hkeys.length_eq
    simp only [sameAs, hsize, beq_self_eq_true, Bool.true_and, List.all_eq_true, beq_iff_eq]
    intro entry hentry
    rw [← h, get?_eq_some_iff_mem hd]
    exact hentry

end Entries

end FilterLexicon
