import FilterLexicon.Catalog
import FilterLexicon.Proofs.Stages
import FilterLexicon.Script

/-! The order of the sources. Sources with distinct names stay merged in any order, and under a name
that only one column has, every order of the columns finds the same column. So the order matters only
where a later column replaces an earlier one. -/

namespace FilterLexicon

namespace Columns

variable {lookup : Lookup} {collisions : Collisions} {sources other : List Source}

theorem reached_perm (h : ∀ source ∈ sources, ∃ fields, lookup source.entity = .ok fields)
    (hperm : sources.Perm other) : (reached lookup sources).Perm (reached lookup other) := by
  rw [reached_eq_flatMap h, reached_eq_flatMap fun s hs => h s (hperm.mem_iff.mpr hs)]
  exact hperm.flatMap_right _

theorem Merged.perm (h : Merged lookup collisions sources) (hperm : sources.Perm other) :
    Merged lookup collisions other where
  found source hsource := h.found source (hperm.mem_iff.mpr hsource)
  distinct hstrict :=
    ((reached_perm h.found hperm).map Prod.fst).nodup_iff.mp (h.distinct hstrict)

/-- Sources with distinct names are merged whatever happens to shared ones. -/
theorem Merged.of_strict (h : Merged lookup .strict sources) : Merged lookup collisions sources :=
  ⟨h.found, fun _ => h.distinct rfl⟩

theorem query?_perm (h : Merged lookup .strict sources) (hperm : sources.Perm other)
    (request : String) :
    query? (reached lookup sources) request = query? (reached lookup other) request := by
  unfold query?
  rw [← Entries.get?_ofList, ← Entries.get?_ofList,
    Entries.get?_ofList_perm (reached_perm h.found hperm) (h.distinct rfl)]

end Columns

namespace Plan

variable {lookup : Lookup} {handlers : Handlers} {requests : List String}
  {sources other : List Source}

/-- A lexicon assembled from columns with distinct names is assembled in any order of the sources. -/
theorem assemble_of_perm (hperm : sources.Perm other) {g : Lexicon}
    (hg : (assemble ⟨sources, requests, .strict⟩ lookup handlers).outcome = .ok g)
    (collisions : Collisions) :
    (assemble ⟨other, requests, collisions⟩ lookup handlers).outcome = .ok g := by
  obtain ⟨hmerged, hsupplied, hchain⟩ := assemble_eq_ok_iff.mp hg
  have hsame (request : String) (_ : request ∈ requests) :
      handlers.supplied? (columns ⟨sources, requests, .strict⟩ lookup) request =
        handlers.supplied? (columns ⟨other, requests, collisions⟩ lookup) request :=
    congrArg (Option.bind · handlers.supply?) (Columns.query?_perm hmerged hperm request)
  rw [assemble_eq_ok_iff]
  refine ⟨(hmerged.perm hperm).of_strict, ?_, ?_⟩
  · rwa [← Handlers.supplied_congr hsame]
  · rwa [← Handlers.draft_congr hsame]

/-- If no two columns may share a name, the order of the sources does not matter: every order gives
the same lexicon, also when later columns may replace earlier ones, or every order fails. -/
theorem assemble_sources_perm (lookup : Lookup) (handlers : Handlers) (requests : List String)
    {sources other : List Source} (hperm : sources.Perm other) :
    (∀ g, (assemble ⟨sources, requests, .strict⟩ lookup handlers).outcome = .ok g →
      (assemble ⟨other, requests, .strict⟩ lookup handlers).outcome = .ok g ∧
        (assemble ⟨other, requests, .lastWins⟩ lookup handlers).outcome = .ok g) ∧
    (∀ f, (assemble ⟨sources, requests, .strict⟩ lookup handlers).outcome = .error f →
      ∃ f', (assemble ⟨other, requests, .strict⟩ lookup handlers).outcome = .error f') ∧
    ∀ g g', (assemble ⟨sources, requests, .strict⟩ lookup handlers).outcome = .ok g →
      (assemble ⟨sources, requests, .lastWins⟩ lookup handlers).outcome = .ok g' → g = g' := by
  refine ⟨?_, ?_, ?_⟩
  · intro g hg
    exact ⟨assemble_of_perm hperm hg .strict, assemble_of_perm hperm hg .lastWins⟩
  · intro f hf
    cases hother : (assemble ⟨other, requests, .strict⟩ lookup handlers).outcome with
    | error f' => exact ⟨f', rfl⟩
    | ok g =>
        rw [assemble_of_perm hperm.symm hother .strict] at hf
        cases hf
  · intro g g' hg hg'
    rw [assemble_of_perm (List.Perm.refl sources) hg .lastWins] at hg'
    exact Except.ok.inj hg'

/-- Two entities, a custom type that is put to a resolver, and a filter. -/
def separate : Lookup :=
  (Catalog.ofTable [("a", [("x", "currency"), ("y", "date")]), ("b", [("x", "text")])]).lookup

def extending : Handlers :=
  { resolvers := [.scripted "r" (some (Channel.ofType "CURRENCY")) (.operators ["=", ">"])]
    filters := [.scripted "f" [.removeAttribute "Q.X", .pushConnective "XOR"]] }

def extended : Lexicon :=
  { Lexicon.structural with
    connectives := Lexicon.structural.connectives ++ ["XOR"]
    attributes := ⟨[("P.X", ["=", ">"])]⟩ }

theorem assemble_sources_perm_separate :
    [Source.mk "a" "p", ⟨"b", "q"⟩].Perm [⟨"b", "q"⟩, ⟨"a", "p"⟩] ∧
      (assemble ⟨[⟨"a", "p"⟩, ⟨"b", "q"⟩], ["q.x", "p.x"], .strict⟩ separate extending).outcome =
        .ok extended ∧
      (assemble ⟨[⟨"b", "q"⟩, ⟨"a", "p"⟩], ["q.x", "p.x"], .lastWins⟩ separate extending).outcome =
        .ok extended := by
  have hperm : [Source.mk "a" "p", ⟨"b", "q"⟩].Perm [⟨"b", "q"⟩, ⟨"a", "p"⟩] := List.Perm.swap _ _ _
  have hstrict : (assemble ⟨[⟨"a", "p"⟩, ⟨"b", "q"⟩], ["q.x", "p.x"], .strict⟩ separate
      extending).outcome = .ok extended := eq_ok_of_toOption (by decide +kernel)
  have hany := (assemble_sources_perm separate extending ["q.x", "p.x"] hperm).1 extended hstrict
  exact ⟨hperm, hstrict, hany.2⟩

end Plan

end FilterLexicon
