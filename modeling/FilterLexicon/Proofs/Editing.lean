import FilterLexicon.Script
import FilterLexicon.Proofs.Handling
import FilterLexicon.Proofs.LexiconJson
import FilterLexicon.Proofs.Stages

/-! Edits of a lexicon give no table a key twice: an insertion keeps the place of a key that is there,
and a lexicon that is read from JSON has distinct keys. So do lists of edits, filters that follow them,
and an assembly with such filters. -/

namespace FilterLexicon

namespace Lexicon

theorem Distinct.apply {l l' : Lexicon} (h : l.Distinct) {edit : Edit}
    (hedit : edit.apply l = .ok l') : l'.Distinct := by
  cases edit with
  | insertNullary k v =>
      cases hedit
      exact { h with nullary := Entries.nodup_keys_insert _ k v h.nullary }
  | insertUnary k v =>
      cases hedit
      exact { h with unary := Entries.nodup_keys_insert _ k v h.unary }
  | insertBinary k v =>
      cases hedit
      exact { h with binary := Entries.nodup_keys_insert _ k v h.binary }
  | insertAttribute k v =>
      cases hedit
      exact { h with attributes := Entries.nodup_keys_insert _ k v h.attributes }
  | removeNullary k =>
      cases hedit
      exact { h with nullary := Entries.nodup_keys_erase _ k h.nullary }
  | removeUnary k =>
      cases hedit
      exact { h with unary := Entries.nodup_keys_erase _ k h.unary }
  | removeBinary k =>
      cases hedit
      exact { h with binary := Entries.nodup_keys_erase _ k h.binary }
  | removeAttribute k =>
      cases hedit
      exact { h with attributes := Entries.nodup_keys_erase _ k h.attributes }
  | clearAttributes =>
      cases hedit
      exact { h with attributes := List.nodup_nil }
  | pushGrouping | pushConnective | pushValue | dropGrouping | dropConnective | dropValue =>
      cases hedit
      exact { h with }
  | replace text => exact distinct_of_ofJson (Json.mapError_eq_ok_iff.mp hedit)
  | refuse message => cases hedit

theorem Distinct.applyAll {l l' : Lexicon} (h : l.Distinct) {edits : List Edit}
    (hedits : Edit.applyAll edits l = .ok l') : l'.Distinct := by
  induction edits generalizing l with
  | nil =>
      cases hedits
      exact h
  | cons edit rest ih =>
      rw [Edit.applyAll] at hedits
      split at hedits
      · rename_i hedit
        exact ih (h.apply hedit) hedits
      · cases hedits

end Lexicon

/-- The filter gives no table a key twice. -/
def Filter.KeepsDistinct (filter : Filter) : Prop :=
  ∀ l l' : Lexicon, l.Distinct → filter.apply l = .ok l' → l'.Distinct

theorem Filter.keepsDistinct_scripted (label : String) (edits : List Lexicon.Edit) :
    (Filter.scripted label edits).KeepsDistinct := fun _ _ h hedits => h.applyAll hedits

theorem Handlers.distinct_of_filter {handlers : Handlers}
    (hfilters : ∀ filter ∈ handlers.filters, filter.KeepsDistinct) {l g : Lexicon}
    (hl : l.Distinct) (h : (handlers.filter l).outcome = .ok g) : g.Distinct := by
  rw [Handlers.filter, applyFilters_outcome, Json.mapError_eq_ok_iff] at h
  exact chain_keeps hfilters hl h

/-- An assembled lexicon has distinct keys before its filters are applied, and they keep them so. -/
theorem Plan.distinct_of_assemble {plan : Plan} {lookup : Lookup} {handlers : Handlers}
    (hfilters : ∀ filter ∈ handlers.filters, filter.KeepsDistinct) {g : Lexicon}
    (h : (plan.assemble lookup handlers).outcome = .ok g) : g.Distinct := by
  obtain ⟨_, _, hchain⟩ := assemble_eq_ok_iff.mp h
  have hdraft : (handlers.draft (plan.columns lookup) plan.requests).Distinct :=
    Lexicon.distinct_structural (Entries.nodup_keys_ofList _)
  exact Handlers.chain_keeps hfilters hdraft hchain

end FilterLexicon
