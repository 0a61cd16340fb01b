import FilterLexicon.Text.Utf8

/-!
Tables sorted by key, in the order of the keys' UTF-8 bytes. Setting a key replaces its value.
-/

namespace FilterLexicon

open Text (before)

/-- Keys with their values, least key first. -/
structure Index (α : Type) where
  toList : List (String × α) := []
  deriving DecidableEq

namespace Index

variable {α : Type}

/-- The keys in order. -/
def keys (d : Index α) : List String := d.toList.map Prod.fst

def get? (d : Index α) (key : String) : Option α := d.toList.lookup key

/-- The entries with one key set, at the place that its bytes give it. -/
def put (key : String) (value : α) : List (String × α) → List (String × α)
  | [] => [(key, value)]
  | (k, v) :: rest =>
    if k = key then (key, value) :: rest
    else if before key k then (key, value) :: (k, v) :: rest
    else (k, v) :: put key value rest

def insert (d : Index α) (key : String) (value : α) : Index α := ⟨put key value d.toList⟩

/-- The table of a list of entries in which a key's last value counts. -/
def ofList (entries : List (String × α)) : Index α :=
  entries.foldl (fun d e => d.insert e.1 e.2) {}

/-- Whether two tables have the same keys with values that `same` accepts. -/
def sameBy (same : α → α → Bool) (d e : Index α) : Bool :=
  d.toList.length == e.toList.length &&
    (d.toList.zip e.toList).all fun p => p.1.1 == p.2.1 && same p.1.2 p.2.2

/-- Setting a key changes what is found under that key and nothing else. -/
theorem get?_insert (d : Index α) (key other : String) (value : α) :
    (d.insert key value).get? other = if other = key then some value else d.get? other := by
  obtain ⟨l⟩ := d
  simp only [get?, insert]
  induction l with
  | nil => grind [put]
  | cons entry rest ih =>
    obtain ⟨k, v⟩ := entry
    grind [put]

theorem mem_keys_insert (d : Index α) (key other : String) (value : α) :
    other ∈ (d.insert key value).keys ↔ other = key ∨ other ∈ d.keys := by
  obtain ⟨l⟩ := d
  simp only [keys, insert]
  induction l with
  | nil => simp [put]
  | cons entry rest ih =>
    obtain ⟨k, v⟩ := entry
    by_cases hk : k = key
    · simp [put, hk]
    · by_cases hb : before key k <;> simp_all [put]
      grind

end Index
end FilterLexicon
