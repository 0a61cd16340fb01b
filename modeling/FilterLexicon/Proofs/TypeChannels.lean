import FilterLexicon.Proofs.LetterCase
import FilterLexicon.Proofs.Listening

/-! The channel of a type and the letter case of its name. Only letters a to z differ between a name
and its upper case, and a letter a to z is as cased, and as little passed over, in the one case as in
the other. So every character of a name is lowered alike in the name and in its upper case, a sigma
that looks at its neighbours included, and the name has the channel of its upper case. From the channel
of an ASCII name its upper case can be read back, so that no other ASCII name has this channel. -/

namespace FilterLexicon

namespace Text

/-! ### Characters -/

theorem isLower_iff {c : Char} : c.isLower = true ↔ 97 ≤ c.toNat ∧ c.toNat ≤ 122 := by
  simp [Char.isLower, UInt32.le_iff_toNat_le, ← Char.toNat_val]

theorem toUpper_of_not_isAscii {c : Char} (h : isAscii c = false) : c.toUpper = c := by
  apply Char.toUpper_eq_of_not_isLower
  rw [isLower_iff]
  rw [isAscii, decide_eq_false_iff_not] at h
  omega

theorem toNat_toUpper {c : Char} (h : c.isLower = true) : c.toUpper.toNat = c.toNat - 32 := by
  obtain ⟨hfirst, hlast⟩ := isLower_iff.mp h
  have hvalid : (c.toNat - 32).isValidChar := Or.inl (by omega)
  rw [Char.toUpper_eq_of_isLower h, Char.toNat_ofNat, if_pos hvalid]

theorem isAscii_toUpper (c : Char) : isAscii c.toUpper = isAscii c := by
  by_cases h : c.isLower = true
  · obtain ⟨hfirst, hlast⟩ := isLower_iff.mp h
    rw [isAscii, isAscii, toNat_toUpper h, decide_eq_decide]
    omega
  · rw [Char.toUpper_eq_of_not_isLower h]

theorem isCased_toUpper (c : Char) : isCased c.toUpper = isCased c := by
  rw [isCased, isCased, isAscii_toUpper]
  cases h : isAscii c with
  | true => exact Char.isAlpha_toUpper_eq_isAlpha c
  | false => rw [toUpper_of_not_isAscii h]

theorem isCaseIgnorable_toUpper (c : Char) : isCaseIgnorable c.toUpper = isCaseIgnorable c := by
  by_cases h : c.isLower = true
  · obtain ⟨hfirst, hlast⟩ := isLower_iff.mp h
    have hascii : isAscii c = true := decide_eq_true (by omega)
    rw [isCaseIgnorable, isCaseIgnorable, isAscii_toUpper, hascii, toNat_toUpper h]
    simp only [if_true, List.contains_eq_mem, List.mem_cons, List.not_mem_nil, or_false,
      decide_eq_decide]
    omega
  · rw [Char.toUpper_eq_of_not_isLower h]

theorem lowerChar_toUpper (c : Char) : lowerChar c.toUpper = lowerChar c := by
  rw [lowerChar, lowerChar, isAscii_toUpper]
  cases h : isAscii c with
  | true => simp only [if_true, Char.toLower_toUpper_eq_toLower]
  | false => rw [toUpper_of_not_isAscii h]

/-! ### Texts -/

theorem startsCased_toUpper (s : List Char) : startsCased (s.map Char.toUpper) = startsCased s := by
  have hignorable : isCaseIgnorable ∘ Char.toUpper = isCaseIgnorable :=
    funext isCaseIgnorable_toUpper
  have hcased : isCased ∘ Char.toUpper = isCased := funext isCased_toUpper
  rw [startsCased, startsCased, List.dropWhile_map, hignorable, List.head?_map, Option.map_map,
    hcased]

theorem lowerAfter_toUpper (passed s : List Char) :
    lowerAfter (passed.map Char.toUpper) (s.map Char.toUpper) = lowerAfter passed s := by
  induction s generalizing passed with
  | nil => rfl
  | cons c s ih =>
      have hsigma : lowerSigma (passed.map Char.toUpper) (s.map Char.toUpper) =
          lowerSigma passed s := by
        rw [lowerSigma, lowerSigma, startsCased_toUpper, startsCased_toUpper]
      have hcapital : c.toUpper = 'Σ' ↔ c = 'Σ' := toUpper_eq_iff_eq rfl
      rw [List.map_cons, lowerAfter, lowerAfter, ← List.map_cons, ih, hsigma, lowerChar_toUpper]
      simp only [hcapital]

theorem lower_upperAscii (s : String) : lower (upperAscii s) = lower s := by
  rw [lower, lower, toList_upperAscii]
  exact congrArg String.ofList (lowerAfter_toUpper [] s.toList)

/-- All characters are ASCII. -/
def IsAscii (s : String) : Prop := ∀ c ∈ s.toList, isAscii c = true

-- By the text's own characters: the general instance would go through all characters there are.
instance (s : String) : Decidable (IsAscii s) :=
  List.decidableBAll (isAscii · = true) s.toList

theorem lowerAfter_of_isAscii {s : List Char} (h : ∀ c ∈ s, isAscii c = true)
    (passed : List Char) : lowerAfter passed s = s.map Char.toLower := by
  induction s generalizing passed with
  | nil => rfl
  | cons c s ih =>
      obtain ⟨hc, hs⟩ := List.forall_mem_cons.mp h
      have hsigma : c ≠ 'Σ' := by
        rintro rfl
        cases hc
      rw [lowerAfter, if_neg hsigma, lowerChar, if_pos hc, ih hs]
      rfl

/-- An ASCII text keeps its upper case when it is lowered and capitalized. -/
theorem upperAscii_capitalize_lower {s : String} (h : IsAscii s) :
    upperAscii (capitalize (lower s)) = upperAscii s := by
  have hlower : (lower s).toList = s.toList.map Char.toLower := by
    rw [lower, lowerAfter_of_isAscii h, String.toList_ofList]
  have hupper (rest : List Char) : (rest.map Char.toLower).map Char.toUpper =
      rest.map Char.toUpper := by
    rw [List.map_map]
    exact List.map_congr_left fun c _ => Char.toUpper_toLower_eq_toUpper c
  rw [← String.toList_inj, toList_upperAscii, toList_upperAscii, capitalize, hlower]
  cases hs : s.toList with
  | nil => rfl
  | cons c rest =>
      have hc : isAscii c.toLower = true := by
        rw [← isAscii_toUpper, Char.toUpper_toLower_eq_toUpper, isAscii_toUpper]
        exact h c (hs ▸ List.mem_cons_self)
      simp only [List.map_cons, upperChar, hc, if_true, String.toList_ofList, List.cons_append,
        List.nil_append, Char.toUpper_toUpper_eq_toUpper, Char.toUpper_toLower_eq_toUpper, hupper]

end Text

open Text (IsAscii SameLetters upperAscii)

namespace Channel

theorem ofType_upperAscii (name : String) : ofType (upperAscii name) = ofType name := by
  unfold ofType
  rw [Text.lower_upperAscii]

theorem ofType_of_sameLetters {name other : String} (h : SameLetters name other) :
    ofType name = ofType other := by
  rw [← ofType_upperAscii name, Text.upperAscii_eq_iff.mpr h, ofType_upperAscii]

theorem sameLetters_of_ofType {name other : String} (hname : IsAscii name) (hother : IsAscii other)
    (h : ofType name = ofType other) : SameLetters name other := by
  unfold ofType at h
  rw [String.append_right_inj] at h
  rw [← Text.upperAscii_eq_iff, ← Text.upperAscii_capitalize_lower hname, h,
    Text.upperAscii_capitalize_lower hother]

end Channel

namespace Handlers

/-- A query is put to a resolver behind others: it listens, and if none of the others that listen says
anything, its call follows theirs, and what it says, if anything, is what the answering comes to. -/
structure Asked (handlers : Handlers) (earlier : List Resolver) (resolver : Resolver)
    (query : TypeQuery) : Prop where
  listens : resolver.listens query.channel = true
  called : Silent query (earlier.filter (·.listens query.channel)) →
    ∃ rest, (handlers.operatorsOf query.subject query.column).calls =
      (earlier.filter (·.listens query.channel) ++ resolver :: rest).flatMap Resolver.recorded
  heard : Silent query (earlier.filter (·.listens query.channel)) →
    ∀ reply, resolver.reply? query = some reply →
      (handlers.operatorsOf query.subject query.column).outcome =
        reply.mapError (.handler query.channel)

/-- A query passes a resolver between others by: it does not listen, and without it the answering is
the same. -/
structure PassedBy (handlers : Handlers) (earlier : List Resolver) (resolver : Resolver)
    (later : List Resolver) (query : TypeQuery) : Prop where
  deaf : resolver.listens query.channel = false
  without : handlers.operatorsOf query.subject query.column =
    operatorsOf { handlers with resolvers := earlier ++ later } query.subject query.column

variable {handlers : Handlers} {earlier later : List Resolver} {resolver : Resolver}
  {query : TypeQuery}

theorem listens_iff {channel : String} (h : resolver.channel = some channel) {other : String} :
    resolver.listens other = true ↔ channel = other := by
  rw [Resolver.listens, h, decide_eq_true_iff]

/-- Behind resolvers that say nothing, the next one is asked. -/
theorem upTo_silent {before silent : List Resolver} (h : Silent query (before ++ silent))
    (resolver : Resolver) (later : List Resolver) :
    ∃ rest, upTo (Silent query) before (silent ++ resolver :: later) =
      silent ++ resolver :: rest := by
  induction silent generalizing before with
  | nil =>
      rw [List.nil_append, upTo]
      split
      · exact ⟨_, rfl⟩
      · exact ⟨[], rfl⟩
  | cons first silent ih =>
      rw [List.append_cons] at h
      have hfirst : Silent query (before ++ [first]) := fun r hr => h r (List.mem_append_left _ hr)
      obtain ⟨rest, hrest⟩ := ih h
      refine ⟨rest, ?_⟩
      rw [List.cons_append, upTo, if_pos hfirst, hrest, List.cons_append]

theorem asked_of_listens (hresolvers : handlers.resolvers = earlier ++ resolver :: later)
    (hlistens : resolver.listens query.channel = true)
    (hcustom : query.column.type.isCustom = true) : handlers.Asked earlier resolver query := by
  have hlistening : handlers.listening query.channel =
      earlier.filter (·.listens query.channel) ++
        resolver :: later.filter (·.listens query.channel) := by
    rw [listening, hresolvers, List.filter_append, List.filter_cons, if_pos hlistens]
  refine ⟨hlistens, fun hsilent => ?_, fun hsilent reply hreply => ?_⟩
  · have hfirst : Silent query ([] ++ earlier.filter (·.listens query.channel)) := hsilent
    obtain ⟨rest, hrest⟩ :=
      upTo_silent hfirst resolver (later.filter (·.listens query.channel))
    have hconsulted : handlers.consulted query =
        earlier.filter (·.listens query.channel) ++ resolver :: rest := by
      rw [consulted, if_pos hcustom, hlistening, hrest]
    refine ⟨rest, ?_⟩
    rw [← hconsulted]
    exact operatorsOf_calls handlers query.subject query.column
  · have hnone : (earlier.filter (·.listens query.channel)).findSome? (·.reply? query) = none :=
      List.findSome?_eq_none_iff.mpr hsilent
    have hfirst : firstReply? query (handlers.listening query.channel) = some reply := by
      rw [firstReply?, hlistening, List.findSome?_append, hnone, List.findSome?_cons, hreply]
      rfl
    rw [operatorsOf_of_custom handlers query (StorageType.isCustom_iff.mp hcustom), hfirst]

theorem passedBy_of_deaf (hresolvers : handlers.resolvers = earlier ++ resolver :: later)
    (hdeaf : resolver.listens query.channel = false) :
    handlers.PassedBy earlier resolver later query := by
  have hlistening : handlers.listening query.channel =
      listening { handlers with resolvers := earlier ++ later } query.channel := by
    rw [listening, listening, hresolvers, List.filter_append, List.filter_append,
      List.filter_cons, if_neg (Bool.eq_false_iff.mp hdeaf)]
  refine ⟨hdeaf, operatorsOf_of_audience ?_ query.subject⟩
  intro _
  exact congrArg (List.map Resolver.unbound) hlistening

end Handlers

namespace Channel

/-- Names that differ only in the case of ASCII letters have the same channel, and ASCII names have
the same channel only then. So a resolver that is registered for a name is asked about every custom
type of that name, however its ASCII letters are written, and of ASCII names about no other. -/
theorem ofType_by_letters :
    (∀ name other, SameLetters name other → ofType name = ofType other) ∧
    (∀ name other, IsAscii name → IsAscii other → ofType name = ofType other →
      SameLetters name other) ∧
    ∀ (handlers : Handlers) (earlier : List Resolver) (resolver : Resolver) (later : List Resolver)
      (name : String) (query : TypeQuery), handlers.resolvers = earlier ++ resolver :: later →
      resolver.channel = some (ofType name) → query.column.type.isCustom = true →
      (SameLetters name query.typeName → handlers.Asked earlier resolver query) ∧
      (IsAscii name → IsAscii query.typeName → ¬SameLetters name query.typeName →
        handlers.PassedBy earlier resolver later query) := by
  refine ⟨fun _ _ => ofType_of_sameLetters, fun _ _ => sameLetters_of_ofType, ?_⟩
  intro handlers earlier resolver later name query hresolvers hchannel hcustom
  have hlistens : resolver.listens query.channel = true ↔ ofType name = query.channel :=
    Handlers.listens_iff hchannel
  constructor
  · intro hletters
    have hsame : ofType name = query.channel := ofType_of_sameLetters hletters
    exact Handlers.asked_of_listens hresolvers (hlistens.mpr hsame) hcustom
  · intro hname htype hletters
    apply Handlers.passedBy_of_deaf hresolvers
    rw [← Bool.not_eq_true, hlistens]
    exact fun hsame => hletters (sameLetters_of_ofType hname htype hsame)

/-- A resolver for all types that is silent, one for an ASCII name, and one for a name whose first
letter has two letters as its upper case, and whose sigma is followed by an apostrophe and a letter. -/
def mixed : Handlers :=
  { resolvers := [.scripted "any" none .silence,
      .scripted "cash" (some (ofType "Cash")) (.operators ["~"]),
      .scripted "own" (some (ofType "ßxΣ'y")) (.operators ["="])] }

/-- A query about a column of a custom type. -/
def queryOf (type : String) : TypeQuery :=
  { subject := "P.X", column := ⟨"a", "p", "x", .custom type⟩ }

theorem ofType_by_letters_sigma :
    SameLetters "ßxΣ'y" "ßXΣ'Y" ∧ ofType "ßxΣ'y" = ofType "ßXΣ'Y" ∧
      IsAscii "Cash" ∧ IsAscii "cASH" ∧ ofType "Cash" = ofType "cASH" ∧ SameLetters "Cash" "cASH" ∧
      (mixed.operatorsOf "P.X" (queryOf "ßXΣ'Y").column).outcome = .ok ["="] ∧
      IsAscii "cast" ∧ ¬SameLetters "Cash" "cast" ∧
      mixed.PassedBy (mixed.resolvers.take 1)
        (.scripted "cash" (some (ofType "Cash")) (.operators ["~"])) (mixed.resolvers.drop 2)
        (queryOf "cast") := by
  obtain ⟨hsame, honly, hresolvers⟩ := ofType_by_letters
  have hsigma : SameLetters "ßxΣ'y" "ßXΣ'Y" := by decide
  have hcash : IsAscii "Cash" := by decide
  have hraised : IsAscii "cASH" := by decide
  have hchannel : ofType "Cash" = ofType "cASH" := by decide +kernel
  have hcast : IsAscii "cast" := by decide
  have hdiffer : ¬SameLetters "Cash" "cast" := by decide
  have hasked := (hresolvers mixed (mixed.resolvers.take 2) _ [] "ßxΣ'y" (queryOf "ßXΣ'Y") rfl rfl
    rfl).1 hsigma
  have hpassed := (hresolvers mixed (mixed.resolvers.take 1) _ (mixed.resolvers.drop 2) "Cash"
    (queryOf "cast") rfl rfl rfl).2 hcash hcast hdiffer
  have hsilent : Handlers.Silent (queryOf "ßXΣ'Y")
      ((mixed.resolvers.take 2).filter (·.listens (queryOf "ßXΣ'Y").channel)) := by decide +kernel
  exact ⟨hsigma, hsame _ _ hsigma, hcash, hraised, hchannel, honly _ _ hcash hraised hchannel,
    hasked.heard hsilent _ rfl, hcast, hdiffer, hpassed⟩

end Channel

end FilterLexicon
