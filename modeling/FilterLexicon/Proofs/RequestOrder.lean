import FilterLexicon.Catalog
import FilterLexicon.Proofs.LetterCase
import FilterLexicon.Proofs.Stages
import FilterLexicon.Script

/-! The order of the requests. A request is given operators for its name in upper case alone, so which
requests went before it and how often it is repeated do not matter to what it is given. They matter
only to the order of the attributes, which is that of the first requests. -/

namespace FilterLexicon

open Text (upperAscii)

/-- The same names are requested: in any order, in any spelling and any number of times. -/
def SameNames (requests other : List String) : Prop :=
  ∀ name, name ∈ requests.map upperAscii ↔ name ∈ other.map upperAscii

/-- A table has the requested names once each, in the order in which they are requested first. -/
structure Entries.InOrderOf {α : Type} (table : Entries α) (requests : List String) : Prop where
  distinct : table.keys.Nodup
  keys : table.keys = (requests.map upperAscii).eraseDups

namespace Handlers

variable {handlers : Handlers} {columns : List (String × Column)} {requests other : List String}

theorem supplied?_upperAscii (request : String) :
    handlers.supplied? columns (upperAscii request) = handlers.supplied? columns request := by
  rw [supplied?, supplied?, query?, query?, Text.upperAscii_upperAscii]

theorem supplied_iff_names :
    handlers.Supplied columns requests ↔
      ∀ name ∈ requests.map upperAscii, (handlers.supplied? columns name).isSome := by
  simp only [List.forall_mem_map, supplied?_upperAscii]
  rfl

theorem supplied_of_same_names (h : SameNames requests other) :
    handlers.Supplied columns requests ↔ handlers.Supplied columns other := by
  rw [supplied_iff_names, supplied_iff_names]
  exact forall_congr' fun name => imp_congr_left (h name)

theorem get?_draft_name (h : handlers.Supplied columns requests) (name : String) :
    (handlers.draft columns requests).attributes.get? name =
      if name ∈ requests.map upperAscii then handlers.supplied? columns name else none := by
  by_cases hname : name ∈ requests.map upperAscii
  · rw [if_pos hname]
    obtain ⟨request, hrequest, rfl⟩ := List.mem_map.mp hname
    rw [get?_draft h hrequest, supplied?_upperAscii]
  · rw [if_neg hname, Entries.get?_eq_none_iff, keys_draft h, List.mem_eraseDups]
    exact hname

/-- Drafts for the same names hold the same operators. -/
theorem get?_draft_of_same_names (hsame : SameNames requests other)
    (h : handlers.Supplied columns requests) (name : String) :
    (handlers.draft columns requests).attributes.get? name =
      (handlers.draft columns other).attributes.get? name := by
  rw [get?_draft_name h, get?_draft_name ((supplied_of_same_names hsame).mp h)]
  simp only [hsame name]

theorem draft_inOrderOf (h : handlers.Supplied columns requests) :
    (handlers.draft columns requests).attributes.InOrderOf requests :=
  ⟨Entries.nodup_keys_ofList _, keys_draft h⟩

end Handlers

namespace Plan

/-- If the same names are requested of the same sources, the requests are all answered or not all
answered in both cases. If they are, the attributes have the same operators, and in each case they
stand in the order of the first requests. -/
theorem attributes_of_same_names (lookup : Lookup) (handlers : Handlers) (sources : List Source)
    (collisions : Collisions) {requests other : List String} (h : SameNames requests other) :
    ((∃ a, (attributes ⟨sources, requests, collisions⟩ lookup handlers).outcome = .ok a) ↔
      ∃ b, (attributes ⟨sources, other, collisions⟩ lookup handlers).outcome = .ok b) ∧
    ∀ a b, (attributes ⟨sources, requests, collisions⟩ lookup handlers).outcome = .ok a →
      (attributes ⟨sources, other, collisions⟩ lookup handlers).outcome = .ok b →
      (∀ name, a.get? name = b.get? name) ∧ a.InOrderOf requests ∧ b.InOrderOf other := by
  constructor
  · simp only [attributes_eq_ok_iff, exists_and_left, exists_eq, and_true]
    exact and_congr_right fun _ => Handlers.supplied_of_same_names h
  · intro a b ha hb
    obtain ⟨_, hrequests, rfl⟩ := attributes_eq_ok_iff.mp ha
    obtain ⟨_, hother, rfl⟩ := attributes_eq_ok_iff.mp hb
    refine ⟨?_, Handlers.draft_inOrderOf hrequests, Handlers.draft_inOrderOf hother⟩
    exact Handlers.get?_draft_of_same_names h hrequests

/-- Two columns of one name, and a type that two resolvers share. -/
def shared : Lookup :=
  (Catalog.ofTable [("a", [("x", "integer"), ("y", "money")]), ("b", [("X", "MONEY")])]).lookup

def sharing : Handlers :=
  { resolvers := [.scripted "r" none (.forSubject "P.Y" ["<"]),
      .scripted "s" (some (Channel.ofType "Money")) .echo] }

def sharedSources : List Source := [⟨"a", "p"⟩, ⟨"b", "P"⟩]

theorem attributes_of_same_names_shuffled :
    SameNames ["p.y", "P.x", "p.Y", "p.x"] ["p.X", "P.y"] ∧
      ∃ b, (attributes ⟨sharedSources, ["p.X", "P.y"], .lastWins⟩ shared sharing).outcome = .ok b ∧
        b.get? "P.X" = some ["P.X", "MONEY", "Grammar_Attributes_Type_Money", "b", "P", "X"] ∧
        b.keys = ["P.X", "P.Y"] := by
  have hsame : SameNames ["p.y", "P.x", "p.Y", "p.x"] ["p.X", "P.y"] := by
    have hnames : ["p.y", "P.x", "p.Y", "p.x"].map upperAscii = ["P.Y", "P.X", "P.Y", "P.X"] := by
      decide
    have hother : ["p.X", "P.y"].map upperAscii = ["P.X", "P.Y"] := by decide
    intro name
    rw [hnames, hother]
    simp only [List.mem_cons, List.not_mem_nil, or_false]
    tauto
  have ha : (attributes ⟨sharedSources, ["p.y", "P.x", "p.Y", "p.x"], .lastWins⟩ shared
      sharing).outcome = .ok ⟨[("P.Y", ["<"]),
        ("P.X", ["P.X", "MONEY", "Grammar_Attributes_Type_Money", "b", "P", "X"])]⟩ :=
    eq_ok_of_toOption (by decide +kernel)
  obtain ⟨hiff, hagree⟩ := attributes_of_same_names shared sharing sharedSources .lastWins hsame
  obtain ⟨b, hb⟩ := hiff.mp ⟨_, ha⟩
  obtain ⟨hget, _, hkeys⟩ := hagree _ b ha hb
  refine ⟨hsame, b, hb, ?_, ?_⟩
  · rw [← hget]
    decide
  · rw [hkeys.keys]
    decide

end Plan
end FilterLexicon
