/-!
Tables in order of insertion. A key keeps the place of its first insertion and the value of its
last, and removing a key leaves the others in order. Two tables hold the same entries when they
agree as maps, whatever their order.
-/

namespace FilterLexicon

/-- Keys with their values, oldest key first. -/
structure Entries (α : Type) where
  toList : List (String × α) := []
  deriving DecidableEq

namespace Entries

variable {α : Type}

/-- The keys in order. -/
def keys (d : Entries α) : List String := d.toList.map Prod.fst

def size (d : Entries α) : Nat := d.toList.length

def get? (d : Entries α) (key : String) : Option α := d.toList.lookup key

/-- The entries with one key set: in its old place if it is there, else at the end. -/
def put (key : String) (value : α) : List (String × α) → List (String × α)
  | [] => [(key, value)]
  | (k, v) :: rest => if k = key then (key, value) :: rest else (k, v) :: put key value rest

def insert (d : Entries α) (key : String) (value : α) : Entries α := ⟨put key value d.toList⟩

def erase (d : Entries α) (key : String) : Entries α := ⟨d.toList.filter (·.1 ≠ key)⟩

/-- The table of a list of entries in which keys may repeat. -/
def ofList (entries : List (String × α)) : Entries α :=
  entries.foldl (fun d e => d.insert e.1 e.2) {}

/-- Whether two tables have equally many entries and every entry of the first is in the second. -/
def sameAs [BEq α] (d e : Entries α) : Bool :=
  d.size == e.size && d.toList.all fun entry => e.get? entry.1 == some entry.2

/-- Setting a key changes what is found under that key and nothing else. -/
theorem get?_insert (d : Entries α) (key other : String) (value : α) :
    (d.insert key value).get? other = if other = key then some value else d.get? other := by
  obtain ⟨l⟩ := d
  simp only [get?, insert]
  induction l with
  | nil => grind [put]
  | cons entry rest ih =>
    obtain ⟨k, v⟩ := entry
    grind [put]

theorem keys_insert (d : Entries α) (key : String) (value : α) :
    (d.insert key value).keys = if key ∈ d.keys then d.keys else d.keys ++ [key] := by
  obtain ⟨l⟩ := d
  simp only [keys, insert]
  induction l with
  | nil => simp [put]
  | cons entry rest ih =>
    obtain ⟨k, v⟩ := entry
    by_cases hk : k = key
    · simp [put, hk]
    · have : key ≠ k := fun h => hk h.symm
      by_cases h : key ∈ rest.map Prod.fst <;> simp_all [put]

theorem keys_erase (d : Entries α) (key : String) :
    (d.erase key).keys = d.keys.filter (· ≠ key) := by
  simp [keys, erase, List.filter_map, Function.comp_def]

end Entries
end FilterLexicon
