import FilterLexicon.Index
import FilterLexicon.Proofs.Entries

/-! Sorted tables, built from lists of entries. Whatever the list, the table is sorted, and a sorted
table is rebuilt exactly from its own entries. The first entry with some property of keys is then the
one with the least such key. -/

namespace FilterLexicon

namespace Text

theorem utf8_injective {a b : String} (h : utf8 a = utf8 b) : a = b := by
  rw [← String.toByteArray_inj]
  exact ByteArray.ext (Array.toList_inj.mp h)

theorem before_irrefl (a : String) : before a a = false := by
  simp [before, List.lt_irrefl]

theorem before_trans {a b c : String} (hab : before a b) (hbc : before b c) : before a c := by
  simp only [before, decide_eq_true_eq] at hab hbc ⊢
  exact List.lt_trans hab hbc

theorem before_trichotomy (a b : String) : before a b ∨ a = b ∨ before b a := by
  simp only [before, decide_eq_true_eq]
  rcases Std.Trichotomous.rel_or_eq_or_rel_swap (r := (· < · : List UInt8 → List UInt8 → Prop))
    (a := utf8 a) (b := utf8 b) with h | h | h
  · exact Or.inl h
  · exact Or.inr (Or.inl (utf8_injective h))
  · exact Or.inr (Or.inr h)

end Text

namespace Index

open Text (before before_irrefl before_trans before_trichotomy)

variable {α : Type}

/-- Every key stands before all later ones, so that the keys are distinct too. -/
def Sorted (d : Index α) : Prop := d.toList.Pairwise fun a b => before a.1 b.1

/-- The entries inserted one after the other. -/
def insertAll (d : Index α) (entries : List (String × α)) : Index α :=
  entries.foldl (fun d e => d.insert e.1 e.2) d

theorem mem_insert {d : Index α} {key : String} {value : α} {e : String × α}
    (h : e ∈ (d.insert key value).toList) : e = (key, value) ∨ e ∈ d.toList := by
  obtain ⟨l⟩ := d
  simp only [insert] at h ⊢
  induction l with
  | nil => exact Or.inl (List.mem_singleton.mp h)
  | cons head l ih =>
      obtain ⟨k, v⟩ := head
      rw [put] at h
      split at h
      · rcases List.mem_cons.mp h with h | h
        · exact Or.inl h
        · exact Or.inr (List.mem_cons_of_mem _ h)
      split at h
      · exact List.mem_cons.mp h
      · rcases List.mem_cons.mp h with h | h
        · exact Or.inr (h ▸ List.mem_cons_self)
        · rcases ih h with h | h
          · exact Or.inl h
          · exact Or.inr (List.mem_cons_of_mem _ h)

theorem sorted_insert (d : Index α) (key : String) (value : α) (h : d.Sorted) :
    (d.insert key value).Sorted := by
  obtain ⟨l⟩ := d
  simp only [Sorted, insert] at h ⊢
  induction l with
  | nil => exact List.pairwise_singleton _ _
  | cons head l ih =>
      obtain ⟨k, v⟩ := head
      obtain ⟨hhead, htail⟩ := List.pairwise_cons.mp h
      rw [put]
      split
      · rename_i hk
        exact List.pairwise_cons.mpr ⟨fun e he => hk ▸ hhead e he, htail⟩
      split
      · rename_i hbefore
        refine List.pairwise_cons.mpr ⟨?_, h⟩
        intro e he
        rcases List.mem_cons.mp he with rfl | he
        · exact hbefore
        · exact before_trans hbefore (hhead e he)
      · rename_i hne hbefore
        refine List.pairwise_cons.mpr ⟨?_, ih htail⟩
        intro e he
        rcases mem_insert (d := ⟨l⟩) he with rfl | he
        · rcases before_trichotomy key k with hlt | heq | hgt
          · exact absurd hlt hbefore
          · exact absurd heq.symm hne
          · exact hgt
        · exact hhead e he

theorem sorted_insertAll (d : Index α) (entries : List (String × α)) (h : d.Sorted) :
    (d.insertAll entries).Sorted := by
  induction entries generalizing d with
  | nil => exact h
  | cons e entries ih => exact ih (d.insert e.1 e.2) (sorted_insert d e.1 e.2 h)

theorem sorted_ofList (entries : List (String × α)) : (ofList entries).Sorted :=
  sorted_insertAll {} entries List.Pairwise.nil

theorem mem_insertAll {d : Index α} {entries : List (String × α)} {e : String × α}
    (h : e ∈ (d.insertAll entries).toList) : e ∈ d.toList ∨ e ∈ entries := by
  induction entries generalizing d with
  | nil => exact Or.inl h
  | cons head entries ih =>
      rcases ih h with h | h
      · rcases mem_insert h with h | h
        · exact Or.inr (h ▸ List.mem_cons_self)
        · exact Or.inl h
      · exact Or.inr (List.mem_cons_of_mem _ h)

theorem mem_ofList {entries : List (String × α)} {e : String × α}
    (h : e ∈ (ofList entries).toList) : e ∈ entries :=
  (mem_insertAll h).resolve_left List.not_mem_nil

/-- A key behind all others is put at the end. -/
theorem insert_of_behind (d : Index α) (key : String) (value : α)
    (h : ∀ e ∈ d.toList, before e.1 key) :
    d.insert key value = ⟨d.toList ++ [(key, value)]⟩ := by
  obtain ⟨l⟩ := d
  simp only [insert, mk.injEq] at h ⊢
  induction l with
  | nil => rfl
  | cons head l ih =>
      obtain ⟨k, v⟩ := head
      have hk : before k key := h (k, v) List.mem_cons_self
      have hne : k ≠ key := by
        rintro rfl
        rw [before_irrefl] at hk
        exact Bool.false_ne_true hk
      have hnot : ¬before key k := by
        intro hlt
        have := before_trans hk hlt
        rw [before_irrefl] at this
        exact Bool.false_ne_true this
      rw [put, if_neg hne, if_neg hnot, ih fun e he => h e (List.mem_cons_of_mem _ he),
        List.cons_append]

/-- Entries behind all others, and in order, are appended as they are. -/
theorem toList_insertAll_of_sorted (d : Index α) (entries : List (String × α))
    (h : (d.toList ++ entries).Pairwise fun a b => before a.1 b.1) :
    (d.insertAll entries).toList = d.toList ++ entries := by
  induction entries generalizing d with
  | nil => exact (List.append_nil _).symm
  | cons e entries ih =>
      have hbehind : ∀ other ∈ d.toList, before other.1 e.1 := by
        intro other hother
        exact (List.pairwise_append.mp h).2.2 other hother e List.mem_cons_self
      have hinsert := insert_of_behind d e.1 e.2 hbehind
      have hsame : (d.insert e.1 e.2).toList ++ entries = d.toList ++ e :: entries := by
        rw [hinsert, List.append_assoc]
        rfl
      show ((d.insert e.1 e.2).insertAll entries).toList = _
      rw [ih (d.insert e.1 e.2) (by rwa [hsame]), hsame]

/-- A sorted table is the table of its own entries. -/
theorem ofList_toList (d : Index α) (h : d.Sorted) : ofList d.toList = d :=
  congrArg Index.mk (toList_insertAll_of_sorted {} d.toList h)

theorem get?_isSome_iff (d : Index α) (key : String) : (d.get? key).isSome ↔ key ∈ d.keys :=
  Entries.lookup_isSome_iff

/-- The order of the table does not show in what is found in it. -/
theorem get?_insertAll {d : Index α} {table : Entries α} (h : ∀ key, d.get? key = table.get? key)
    (entries : List (String × α)) (key : String) :
    (d.insertAll entries).get? key = (table.insertAll entries).get? key := by
  induction entries generalizing d table with
  | nil => exact h key
  | cons e entries ih =>
      apply ih
      intro other
      rw [get?_insert, Entries.get?_insert, h]

theorem get?_ofList (entries : List (String × α)) (key : String) :
    (ofList entries).get? key = (Entries.ofList entries).get? key :=
  get?_insertAll (fun _ => rfl) entries key

theorem mem_keys_ofList {entries : List (String × α)} {key : String} :
    key ∈ (ofList entries).keys ↔ key ∈ entries.map Prod.fst := by
  rw [← get?_isSome_iff, get?_ofList, Entries.get?_isSome_iff, Entries.keys_ofList,
    List.mem_eraseDups]

theorem Sorted.nodup_keys {d : Index α} (h : d.Sorted) : d.keys.Nodup := by
  refine List.pairwise_map.mpr (List.Pairwise.imp ?_ h)
  intro a b hbefore heq
  rw [heq, before_irrefl] at hbefore
  exact Bool.false_ne_true hbefore

/-- The first entry with some property of keys is the one with the least such key. -/
theorem find?_eq_some_iff {d : Index α} (h : d.Sorted) (p : String → Bool) (key : String)
    (value : α) :
    d.toList.find? (fun e => p e.1) = some (key, value) ↔
      (key, value) ∈ d.toList ∧ p key ∧
        ∀ other ∈ d.keys, p other → other = key ∨ before key other := by
  have hleast : ∀ {key value}, d.toList.find? (fun e => p e.1) = some (key, value) →
      ∀ other ∈ d.keys, p other → other = key ∨ before key other := by
    intro key value hfind other hother hp
    obtain ⟨_, earlier, later, heq, hearlier⟩ := List.find?_eq_some_iff_append.mp hfind
    obtain ⟨e, he, rfl⟩ := List.mem_map.mp hother
    have hsorted := h
    rw [Sorted, heq, List.pairwise_append, List.pairwise_cons] at hsorted
    rw [heq, List.mem_append, List.mem_cons] at he
    rcases he with he | rfl | he
    · have hnot := hearlier e he
      rw [hp] at hnot
      cases hnot
    · exact Or.inl rfl
    · exact Or.inr (hsorted.2.1.1 e he)
  constructor
  · intro hfind
    have hp := List.find?_some hfind
    exact ⟨List.mem_of_find?_eq_some hfind, hp, hleast hfind⟩
  · rintro ⟨hmem, hp, hkey⟩
    have hsome : (d.toList.find? (fun e => p e.1)).isSome :=
      List.find?_isSome.mpr ⟨(key, value), hmem, hp⟩
    obtain ⟨⟨found, other⟩, hfind⟩ := Option.isSome_iff_exists.mp hsome
    have hfound := List.mem_of_find?_eq_some hfind
    have hpfound := List.find?_some hfind
    have heq : found = key := by
      rcases hkey found (List.mem_map_of_mem hfound) hpfound with heq | hlt
      · exact heq
      rcases hleast hfind key (List.mem_map_of_mem hmem) hp with heq | hgt
      · exact heq.symm
      have hself := before_trans hlt hgt
      rw [before_irrefl] at hself
      exact absurd hself Bool.false_ne_true
    subst heq
    rw [hfind, Entries.eq_of_mem_of_nodup h.nodup_keys hfound hmem]

/-- Sorted tables that agree hold agreeing values under every key. -/
theorem rel_of_sameBy {same : α → α → Bool} {d e : Index α} (h : d.sameBy same e = true)
    (key : String) :
    Option.Rel (fun a b => same a b = true) (d.get? key) (e.get? key) := by
  obtain ⟨l⟩ := d
  obtain ⟨m⟩ := e
  simp only [sameBy, Bool.and_eq_true, beq_iff_eq, List.all_eq_true, get?] at h ⊢
  obtain ⟨hlength, hall⟩ := h
  induction l generalizing m with
  | nil =>
      cases m with
      | nil => exact .none
      | cons entry m => cases hlength
  | cons entry l ih =>
      cases m with
      | nil => cases hlength
      | cons other m =>
          obtain ⟨k, a⟩ := entry
          obtain ⟨k', b⟩ := other
          obtain ⟨rfl, hsame⟩ : k = k' ∧ same a b = true :=
            hall ((k, a), (k', b)) List.mem_cons_self
          have hrest := ih m (Nat.succ.inj hlength) fun p hp => hall p (List.mem_cons_of_mem _ hp)
          rw [List.lookup_cons, List.lookup_cons]
          cases key == k with
          | true => exact .some hsame
          | false => exact hrest

end Index
end FilterLexicon
