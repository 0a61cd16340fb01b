import FilterLexicon.Proofs.Editing
import FilterLexicon.Proofs.Handling
import FilterLexicon.Proofs.PatternCheck

/-! Lexicons that agree. Their tables are compared without regard to the order of entries, which
nothing that is asked of a lexicon depends on. For tables without repeated keys the comparison comes
down to what is found under each key, and in that form edits carry it along, one by one, through a
script and through any number of filters. -/

namespace FilterLexicon

/-- Outcomes that are the same error, or two values in a relation. -/
inductive SameOutcome {ε α : Type} (R : α → α → Prop) : Except ε α → Except ε α → Prop where
  | error (e : ε) : SameOutcome R (.error e) (.error e)
  | ok {a b : α} (h : R a b) : SameOutcome R (.ok a) (.ok b)

namespace SameOutcome

variable {ε ε' α : Type} {R S : α → α → Prop} {x y : Except ε α}

theorem error_or_ok (h : SameOutcome R x y) :
    (∃ e, x = .error e ∧ y = .error e) ∨ ∃ a b, x = .ok a ∧ y = .ok b ∧ R a b := by
  cases h with
  | error e => exact Or.inl ⟨e, rfl, rfl⟩
  | ok h => exact Or.inr ⟨_, _, rfl, rfl, h⟩

theorem bind (h : SameOutcome R x y) {f g : α → Except ε α}
    (hnext : ∀ a b, R a b → SameOutcome S (f a) (g b)) : SameOutcome S (x >>= f) (y >>= g) := by
  cases h with
  | error e => exact .error e
  | ok h => exact hnext _ _ h

theorem mapError (h : SameOutcome R x y) (f : ε → ε') :
    SameOutcome R (x.mapError f) (y.mapError f) := by
  cases h with
  | error e => exact .error (f e)
  | ok h => exact .ok h

theorem of_eq (hrefl : ∀ a, R a a) (h : x = y) : SameOutcome R x y := by
  subst h
  cases x with
  | error e => exact .error e
  | ok a => exact .ok (hrefl a)

/-- What is known of each value alone may be used to relate the two. -/
theorem imp (h : SameOutcome R x y) (himp : ∀ a b, x = .ok a → y = .ok b → R a b → S a b) :
    SameOutcome S x y := by
  cases h with
  | error e => exact .error e
  | ok h => exact .ok (himp _ _ rfl rfl h)

end SameOutcome

namespace Lexicon

/-- The tables hold the same under every key, and the lists are equal. -/
structure Agree (a b : Lexicon) : Prop where
  nullary : ∀ key, a.nullary.get? key = b.nullary.get? key
  unary : ∀ key, a.unary.get? key = b.unary.get? key
  binary : ∀ key, a.binary.get? key = b.binary.get? key
  grouping : a.grouping = b.grouping
  connectives : a.connectives = b.connectives
  values : a.values = b.values
  attributes : ∀ key, a.attributes.get? key = b.attributes.get? key

theorem Agree.refl (l : Lexicon) : Agree l l :=
  ⟨fun _ => rfl, fun _ => rfl, fun _ => rfl, rfl, rfl, rfl, fun _ => rfl⟩

theorem Agree.symm {a b : Lexicon} (h : Agree a b) : Agree b a :=
  ⟨fun k => (h.nullary k).symm, fun k => (h.unary k).symm, fun k => (h.binary k).symm,
    h.grouping.symm, h.connectives.symm, h.values.symm, fun k => (h.attributes k).symm⟩

theorem Agree.trans {a b c : Lexicon} (hab : Agree a b) (hbc : Agree b c) : Agree a c :=
  ⟨fun k => (hab.nullary k).trans (hbc.nullary k), fun k => (hab.unary k).trans (hbc.unary k),
    fun k => (hab.binary k).trans (hbc.binary k), hab.grouping.trans hbc.grouping,
    hab.connectives.trans hbc.connectives, hab.values.trans hbc.values,
    fun k => (hab.attributes k).trans (hbc.attributes k)⟩

theorem sameAs_iff {a b : Lexicon} (ha : a.Distinct) (hb : b.Distinct) :
    a.sameAs b = true ↔ Agree a b := by
  simp only [sameAs, Bool.and_eq_true, beq_iff_eq, Entries.sameAs_iff ha.nullary hb.nullary,
    Entries.sameAs_iff ha.unary hb.unary, Entries.sameAs_iff ha.binary hb.binary,
    Entries.sameAs_iff ha.attributes hb.attributes]
  constructor
  · rintro ⟨⟨⟨⟨⟨⟨hnullary, hunary⟩, hbinary⟩, hgrouping⟩, hconnectives⟩, hvalues⟩, hattributes⟩
    exact ⟨hnullary, hunary, hbinary, hgrouping, hconnectives, hvalues, hattributes⟩
  · intro h
    exact ⟨⟨⟨⟨⟨⟨h.nullary, h.unary⟩, h.binary⟩, h.grouping⟩, h.connectives⟩, h.values⟩,
      h.attributes⟩

/-! ### The pattern check -/

theorem mem_literals_iff {l : Lexicon} (h : l.Distinct) {token : String} :
    token ∈ l.literals ↔
      (∃ key operands, l.binary.get? key = some operands ∧ token ∈ operands) ∨
        token ∈ l.values := by
  simp only [literals, List.mem_append, List.mem_flatMap, Prod.exists,
    Entries.get?_eq_some_iff_mem h.binary]

theorem Agree.checkPatternsWith_iff {a b : Lexicon} (h : Agree a b) (ha : a.Distinct)
    (hb : b.Distinct) (accepts : String → Bool) :
    a.checkPatternsWith accepts = .ok () ↔ b.checkPatternsWith accepts = .ok () := by
  have hmem (token : String) : token ∈ a.literals ↔ token ∈ b.literals := by
    simp only [mem_literals_iff ha, mem_literals_iff hb, h.binary, h.values]
  simp only [checkPatternsWith_eq_ok_iff, hmem]

/-! ### Edits -/

theorem agree_insert {α : Type} {d e : Entries α} (h : ∀ key, d.get? key = e.get? key)
    (k : String) (v : α) (key : String) : (d.insert k v).get? key = (e.insert k v).get? key := by
  rw [Entries.get?_insert, Entries.get?_insert, h]

theorem agree_erase {α : Type} {d e : Entries α} (h : ∀ key, d.get? key = e.get? key)
    (k key : String) : (d.erase k).get? key = (e.erase k).get? key := by
  rw [Entries.get?_erase, Entries.get?_erase, h]

theorem Agree.apply {a b : Lexicon} (h : Agree a b) (edit : Edit) :
    SameOutcome Agree (edit.apply a) (edit.apply b) := by
  cases edit with
  | insertNullary k v => exact .ok { h with nullary := agree_insert h.nullary k v }
  | insertUnary k v => exact .ok { h with unary := agree_insert h.unary k v }
  | insertBinary k v => exact .ok { h with binary := agree_insert h.binary k v }
  | insertAttribute k v => exact .ok { h with attributes := agree_insert h.attributes k v }
  | removeNullary k => exact .ok { h with nullary := agree_erase h.nullary k }
  | removeUnary k => exact .ok { h with unary := agree_erase h.unary k }
  | removeBinary k => exact .ok { h with binary := agree_erase h.binary k }
  | removeAttribute k => exact .ok { h with attributes := agree_erase h.attributes k }
  | clearAttributes => exact .ok { h with attributes := fun _ => rfl }
  | pushGrouping t => exact .ok { h with grouping := congrArg (· ++ [t]) h.grouping }
  | pushConnective t => exact .ok { h with connectives := congrArg (· ++ [t]) h.connectives }
  | pushValue t => exact .ok { h with values := congrArg (· ++ [t]) h.values }
  | dropGrouping t => exact .ok { h with grouping := congrArg (List.filter _) h.grouping }
  | dropConnective t => exact .ok { h with connectives := congrArg (List.filter _) h.connectives }
  | dropValue t => exact .ok { h with values := congrArg (List.filter _) h.values }
  | replace text => exact .of_eq Agree.refl rfl
  | refuse message => exact .error message

theorem applyAll_cons (edit : Edit) (rest : List Edit) (l : Lexicon) :
    Edit.applyAll (edit :: rest) l = edit.apply l >>= Edit.applyAll rest := by
  rw [Edit.applyAll]
  cases edit.apply l <;> rfl

theorem Agree.applyAll {a b : Lexicon} (h : Agree a b) (edits : List Edit) :
    SameOutcome Agree (Edit.applyAll edits a) (Edit.applyAll edits b) := by
  induction edits generalizing a b with
  | nil => exact .ok h
  | cons edit rest ih =>
      rw [applyAll_cons, applyAll_cons]
      exact (h.apply edit).bind fun _ _ h => ih h

end Lexicon

/-! ### Filters -/

/-- The filter follows a script. -/
def Filter.Scripted (filter : Filter) : Prop :=
  ∃ label edits, filter = Filter.scripted label edits

theorem Filter.Scripted.keepsDistinct {filter : Filter} (h : filter.Scripted) :
    filter.KeepsDistinct := by
  obtain ⟨label, edits, rfl⟩ := h
  exact keepsDistinct_scripted label edits

namespace Handlers

open Lexicon (Agree)

theorem agree_chain {filters : List Filter} (hscripted : ∀ filter ∈ filters, filter.Scripted)
    {a b : Lexicon} (h : Agree a b) : SameOutcome Agree (chain filters a) (chain filters b) := by
  induction filters generalizing a b with
  | nil => exact .ok h
  | cons filter rest ih =>
      obtain ⟨⟨label, edits, rfl⟩, hrest⟩ := List.forall_mem_cons.mp hscripted
      rw [chain, chain, List.foldlM_cons, List.foldlM_cons]
      exact SameOutcome.bind (h.applyAll edits) fun _ _ h => ih hrest h

theorem agree_filter {handlers : Handlers}
    (hscripted : ∀ filter ∈ handlers.filters, filter.Scripted) {a b : Lexicon} (h : Agree a b) :
    SameOutcome Agree (handlers.filter a).outcome (handlers.filter b).outcome := by
  rw [filter, filter, applyFilters_outcome, applyFilters_outcome]
  exact (agree_chain hscripted h).mapError _

end Handlers

namespace Lexicon

/-- Lexicons that agree give the same operators, pass the pattern check together whatever bodies are
accepted, and come out of scripted filters with one failure or as lexicons that agree again.
Agreement is an equivalence. -/
theorem sameAs_respected :
    (∀ a b : Lexicon, a.Distinct → b.Distinct → a.sameAs b = true →
      (∀ name, a.operatorsFor name = b.operatorsFor name) ∧
      (∀ accepts : String → Bool,
        a.checkPatternsWith accepts = .ok () ↔ b.checkPatternsWith accepts = .ok ()) ∧
      ∀ handlers : Handlers, (∀ filter ∈ handlers.filters, filter.Scripted) →
        SameOutcome (fun g g' => g.sameAs g' = true) (handlers.filter a).outcome
          (handlers.filter b).outcome) ∧
    (∀ a : Lexicon, a.Distinct → a.sameAs a = true) ∧
    (∀ a b : Lexicon, a.Distinct → b.Distinct → a.sameAs b = true → b.sameAs a = true) ∧
    ∀ a b c : Lexicon, a.Distinct → b.Distinct → c.Distinct → a.sameAs b = true →
      b.sameAs c = true → a.sameAs c = true := by
  refine ⟨?_, ?_, ?_, ?_⟩
  · intro a b ha hb hsame
    have h : Agree a b := (sameAs_iff ha hb).mp hsame
    refine ⟨fun name => h.attributes _, h.checkPatternsWith_iff ha hb, ?_⟩
    intro handlers hscripted
    have hkeeps (filter : Filter) (hfilter : filter ∈ handlers.filters) : filter.KeepsDistinct :=
      (hscripted filter hfilter).keepsDistinct
    refine (Handlers.agree_filter hscripted h).imp fun g g' hg hg' hagree => ?_
    have hdistinct : g.Distinct := Handlers.distinct_of_filter hkeeps ha hg
    have hdistinct' : g'.Distinct := Handlers.distinct_of_filter hkeeps hb hg'
    exact (sameAs_iff hdistinct hdistinct').mpr hagree
  · intro a ha
    exact (sameAs_iff ha ha).mpr (Agree.refl a)
  · intro a b ha hb h
    exact (sameAs_iff hb ha).mpr ((sameAs_iff ha hb).mp h).symm
  · intro a b c ha hb hc hab hbc
    exact (sameAs_iff ha hc).mpr (((sameAs_iff ha hb).mp hab).trans ((sameAs_iff hb hc).mp hbc))

/-- Two lexicons with the same entries in a different order. -/
def ordered : Lexicon :=
  { nullary := ⟨[("A", ""), ("B", "x")]⟩
    binary := ⟨[("=", ["/a/"]), ("~", ["(", "/b+/"])]⟩
    attributes := ⟨[("P.X", ["="]), ("P.Y", [])]⟩ }

def reordered : Lexicon :=
  { nullary := ⟨[("B", "x"), ("A", "")]⟩
    binary := ⟨[("~", ["(", "/b+/"]), ("=", ["/a/"])]⟩
    attributes := ⟨[("P.Y", []), ("P.X", ["="])]⟩ }

/-- A filter that sets a key, and one that refuses behind a removal. -/
def setAndRefuse : Handlers :=
  { filters := [.scripted "set" [.insertAttribute "P.X" ["~"]],
      .scripted "refuse" [.removeNullary "A", .refuse "no"]] }

theorem sameAs_respected_reordered :
    ordered.Distinct ∧ reordered.Distinct ∧ ordered.sameAs reordered = true ∧
      ordered.operatorsFor "p.y" = reordered.operatorsFor "p.y" ∧
      (ordered.checkPatterns = .ok () ↔ reordered.checkPatterns = .ok ()) ∧
      (∀ filter ∈ setAndRefuse.filters, filter.Scripted) ∧
      SameOutcome (fun g g' => g.sameAs g' = true) (setAndRefuse.filter ordered).outcome
        (setAndRefuse.filter reordered).outcome ∧
      reordered.sameAs ordered = true ∧ ordered.sameAs ordered = true := by
  have hordered : ordered.Distinct := ⟨by decide, by decide, by decide, by decide⟩
  have hreordered : reordered.Distinct := ⟨by decide, by decide, by decide, by decide⟩
  have hsame : ordered.sameAs reordered = true := by decide
  have hscripted : ∀ filter ∈ setAndRefuse.filters, filter.Scripted := by
    intro filter hfilter
    simp only [setAndRefuse, List.mem_cons, List.not_mem_nil, or_false] at hfilter
    rcases hfilter with rfl | rfl <;> exact ⟨_, _, rfl⟩
  obtain ⟨hrespected, _, hsymm, htrans⟩ := sameAs_respected
  obtain ⟨hoperators, hpatterns, hfilters⟩ := hrespected _ _ hordered hreordered hsame
  have hback := hsymm _ _ hordered hreordered hsame
  exact ⟨hordered, hreordered, hsame, hoperators "p.y", hpatterns Pattern.accepts, hscripted,
    hfilters setAndRefuse hscripted, hback,
    htrans _ _ _ hordered hreordered hordered hsame hback⟩

end Lexicon
end FilterLexicon
