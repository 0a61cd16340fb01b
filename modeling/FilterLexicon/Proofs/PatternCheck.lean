import FilterLexicon.Lexicon.Patterns

/-! The check of patterns, given which bodies are accepted. A token is a pattern exactly if it consists
of a body between two slashes, and whether it does can be told from the bytes: taking the slashes off
takes two bytes away, and a token that lacks a slash is left as it is. So the check fails with the
first token of this form whose body is not accepted, and passes over all others, a lone slash among
them. -/

namespace FilterLexicon

namespace Token

/-- The token is a body between two slashes. -/
def Encloses (token body : String) : Prop := token = "/" ++ body ++ "/"

theorem body?_eq_some_iff {token : String} {inner : List Char} :
    body? token = some inner ↔ token.toList = '/' :: (inner ++ ['/']) := by
  unfold body?
  split
  · rename_i rest heq
    rw [heq, List.cons.injEq, and_iff_right rfl]
    constructor
    · intro h
      split at h
      · rename_i hlast
        obtain ⟨front, rfl⟩ := List.getLast?_eq_some_iff.mp hlast
        rw [List.dropLast_concat] at h
        cases h
        rfl
      · cases h
    · rintro rfl
      simp
  · rename_i hfirst
    simp only [reduceCtorEq, false_iff]
    exact hfirst _

theorem encloses_iff {token inner : String} :
    Encloses token inner ↔ body? token = some inner.toList := by
  rw [body?_eq_some_iff, Encloses, ← String.toList_inj]
  simp

theorem body_of_encloses {token inner : String} (h : Encloses token inner) : body token = inner := by
  rw [body, encloses_iff.mp h, Option.map_some, String.ofList_toList, Option.getD_some]

/-- Fewer bytes show that the slashes were there. -/
theorem isPattern_iff {token : String} : isPattern token = true ↔ ∃ inner, Encloses token inner := by
  rw [isPattern, bne_iff_ne]
  constructor
  · intro h
    cases hbody : body? token with
    | none =>
        rw [body, hbody] at h
        exact absurd rfl h
    | some inner => exact ⟨String.ofList inner, encloses_iff.mpr (by simpa using hbody)⟩
  · rintro ⟨inner, h⟩
    have hbytes : token.utf8ByteSize = inner.utf8ByteSize + 2 := by
      rw [h, String.utf8ByteSize_append, String.utf8ByteSize_append]
      have hslash : "/".utf8ByteSize = 1 := rfl
      omega
    rw [body_of_encloses h, hbytes]
    omega

end Token

namespace Lexicon

variable {accepts : String → Bool} {lexicon : Lexicon}

/-- The body of the token is accepted, if it has one. -/
def Accepted (accepts : String → Bool) (token : String) : Prop :=
  ∀ body, Token.Encloses token body → accepts body = true

theorem isRejected_iff {token : String} :
    isRejected accepts token = true ↔ ∃ body, Token.Encloses token body ∧ accepts body = false := by
  rw [isRejected, Bool.and_eq_true, Token.isPattern_iff, Bool.not_eq_true']
  constructor
  · rintro ⟨⟨body, hbody⟩, haccepts⟩
    rw [Token.body_of_encloses hbody] at haccepts
    exact ⟨body, hbody, haccepts⟩
  · rintro ⟨body, hbody, haccepts⟩
    rw [Token.body_of_encloses hbody]
    exact ⟨⟨body, hbody⟩, haccepts⟩

theorem isRejected_eq_false_iff {token : String} :
    isRejected accepts token = false ↔ Accepted accepts token := by
  rw [← Bool.not_eq_true, isRejected_iff, Accepted]
  simp

theorem checkPatternsWith_eq_ok_iff :
    lexicon.checkPatternsWith accepts = .ok () ↔
      ∀ token ∈ lexicon.literals, isRejected accepts token = false := by
  have hnone : lexicon.literals.find? (isRejected accepts) = none ↔
      ∀ token ∈ lexicon.literals, isRejected accepts token = false := by simp
  rw [← hnone, checkPatternsWith]
  cases lexicon.literals.find? (isRejected accepts) <;> simp

/-- The failure of the first token that is a pattern without an accepted body. -/
inductive FirstRejected (accepts : String → Bool) (tokens : List String) : Failure → Prop where
  | first {earlier : List String} {token body : String} {later : List String}
      (hsplit : tokens = earlier ++ token :: later)
      (hearlier : ∀ t ∈ earlier, Accepted accepts t)
      (hform : Token.Encloses token body) (hbody : accepts body = false) :
      FirstRejected accepts tokens (.invalidPattern token)

theorem checkPatternsWith_eq_error_iff {f : Failure} :
    lexicon.checkPatternsWith accepts = .error f ↔ FirstRejected accepts lexicon.literals f := by
  have hfirst (token : String) : lexicon.literals.find? (isRejected accepts) = some token ↔
      isRejected accepts token = true ∧ ∃ earlier later,
        lexicon.literals = earlier ++ token :: later ∧
          ∀ t ∈ earlier, isRejected accepts t = false := by
    rw [List.find?_eq_some_iff_append]
    simp only [Bool.not_eq_true']
  unfold checkPatternsWith
  constructor
  · intro h
    split at h
    · rename_i token hfind
      cases h
      obtain ⟨hrejected, earlier, later, hsplit, hearlier⟩ := (hfirst token).mp hfind
      obtain ⟨body, hform, hbody⟩ := isRejected_iff.mp hrejected
      exact .first hsplit (fun t ht => isRejected_eq_false_iff.mp (hearlier t ht)) hform hbody
    · cases h
  · rintro @⟨earlier, token, body, later, hsplit, hearlier, hform, hbody⟩
    rw [(hfirst token).mpr]
    exact ⟨isRejected_iff.mpr ⟨body, hform, hbody⟩, earlier, later, hsplit,
      fun t ht => isRejected_eq_false_iff.mpr (hearlier t ht)⟩

/-- The check passes exactly if every operand and every value that is a body between slashes has an
accepted body, and it fails with the first that has not. A token of any other form is never at fault,
nothing but the operands and values matters, and bytes tell the two kinds of tokens apart. -/
theorem checkPatterns_exact (accepts : String → Bool) (lexicon : Lexicon) :
    (lexicon.checkPatternsWith accepts = .ok () ↔
      (∀ entry ∈ lexicon.binary.toList, ∀ token ∈ entry.2, Accepted accepts token) ∧
        ∀ token ∈ lexicon.values, Accepted accepts token) ∧
    (∀ f, lexicon.checkPatternsWith accepts = .error f ↔
      FirstRejected accepts (lexicon.binary.toList.flatMap Prod.snd ++ lexicon.values) f) ∧
    (∀ token, (∀ body, ¬Token.Encloses token body) →
      lexicon.checkPatternsWith accepts ≠ .error (.invalidPattern token)) ∧
    (∀ other : Lexicon, other.binary.toList.map Prod.snd = lexicon.binary.toList.map Prod.snd →
      other.values = lexicon.values →
        other.checkPatternsWith accepts = lexicon.checkPatternsWith accepts) ∧
    ∀ token, (Token.body token).utf8ByteSize ≠ token.utf8ByteSize ↔
      ∃ body, Token.Encloses token body := by
  refine ⟨?_, ?_, ?_, ?_, ?_⟩
  · rw [checkPatternsWith_eq_ok_iff]
    simp only [isRejected_eq_false_iff, literals, List.forall_mem_append, List.forall_mem_flatMap]
  · intro f
    exact checkPatternsWith_eq_error_iff
  · intro token hform h
    obtain @⟨_, _, body, _, _, _, hbody, _⟩ := checkPatternsWith_eq_error_iff.mp h
    exact hform body hbody
  · intro other hbinary hvalues
    have hliterals : other.literals = lexicon.literals := by
      rw [literals, literals, hvalues, List.flatMap_def, List.flatMap_def, hbinary]
    rw [checkPatternsWith, checkPatternsWith, hliterals]
  · intro token
    rw [← Token.isPattern_iff, Token.isPattern, bne_iff_ne]

/-- Tokens that lack a slash, a pattern without a body, and two patterns that are no regular
expressions. -/
def halves : Lexicon :=
  { nullary := ⟨[("[", "/[/")]⟩
    binary := ⟨[("/(/", ["/", "(", "//"]), ("=", ["[é/", "/é[/"])]⟩
    values := ["/(/"] }

/-- The same operands and values under other operators. -/
def renamed : Lexicon :=
  { binary := ⟨[("=", ["/", "(", "//"]), ("~", ["[é/", "/é[/"])]⟩
    values := ["/(/"]
    attributes := ⟨[("P.X", ["/(/"])]⟩ }

theorem checkPatterns_exact_halves :
    halves.checkPatterns = .error (.invalidPattern "/é[/") ∧
      renamed.checkPatterns = halves.checkPatterns ∧
      halves.checkPatterns ≠ .error (.invalidPattern "/") ∧
      (Token.body "/é[/").utf8ByteSize ≠ "/é[/".utf8ByteSize := by
  obtain ⟨_, herror, hform, hother, hbytes⟩ := checkPatterns_exact Pattern.accepts halves
  have hearlier : ∀ token ∈ ["/", "(", "//", "[é/"], Accepted Pattern.accepts token := by
    simp only [← isRejected_eq_false_iff]
    decide +kernel
  have hslash : ∀ body, ¬Token.Encloses "/" body := by
    have hlone : Token.isPattern "/" = false := by decide +kernel
    rw [← Bool.not_eq_true, Token.isPattern_iff] at hlone
    exact fun body h => hlone ⟨body, h⟩
  have hopen : Token.Encloses "/é[/" "é[" := rfl
  exact ⟨(herror _).mpr (.first rfl hearlier hopen (by decide +kernel)), hother renamed rfl rfl,
    hform "/" hslash, (hbytes _).mpr ⟨"é[", hopen⟩⟩

end Lexicon
end FilterLexicon
