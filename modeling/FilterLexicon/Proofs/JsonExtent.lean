import FilterLexicon.Proofs.JsonRecords
import Mathlib.Data.List.DropRight

/-! Where a value ends does not depend on what is made of it. Whatever a reader accepts, passing over
the value would have led to the same place: a string that is decoded ends at the same quote as one
that is not, and a list or an object that is read ends at the same bracket. So behind the member of a
record the text goes on at the same place, whether the member has been read or passed over. -/

namespace FilterLexicon.Json

/-! ### Strings -/

theorem skipString_code {s rest : List Char} {n : Nat} (h : hex4 s = .ok (n, rest)) :
    skipString ('\\' :: 'u' :: s) = skipString rest :=
  skipString_escape (congrArg (Except.map Prod.snd) h)

theorem skipString_of_trailing {n : Nat} {s rest : List Char} {c : Char}
    (h : trailingSurrogate n s = .ok (c, rest)) : skipString s = skipString rest := by
  unfold trailingSurrogate at h
  split at h
  case h_3 =>
    split at h
    · cases h
    · rename_i hcode
      split at h
      · obtain rfl := (Prod.mk.inj (Except.ok.inj h)).2
        exact skipString_code hcode
      · cases h
  all_goals cases h

/-- Two codes of one character are one escape when they are read, and two when they are passed
over. -/
theorem skipString_of_escape {s rest : List Char} {c : Char} (h : escape s = .ok (c, rest)) :
    skipString ('\\' :: s) = skipString rest := by
  unfold escape at h
  split at h
  · cases h
  · unfold codeCharacter at h
    split at h
    · cases h
    · rename_i hcode
      rw [skipString_code hcode]
      split at h
      · cases h
      split at h
      · exact skipString_of_trailing h
      · cases h
        rfl
  · rename_i hu
    split at h
    · rename_i hletter
      cases h
      refine skipString_escape ?_
      rw [skipEscape]
      · simp [hletter]
      · exact hu
    · cases h

theorem skipString_of_stringTail {s cs rest : List Char} (h : stringTail s = .ok (cs, rest)) :
    skipString s = .ok rest := by
  fun_induction stringTail s generalizing cs with
  | case1 => cases h
  | case2 rest' =>
      cases h
      rw [skipString, if_pos rfl]
  | case3 => cases h
  | case4 rest' x rest'' hescape shorter _ ih =>
      obtain ⟨tail, h⟩ := consRead_ok h
      rw [skipString_of_escape hescape, ih h]
  | case5 => cases h
  | case6 c rest' hquote hslash hcontrol ih =>
      obtain ⟨tail, h⟩ := consRead_ok h
      rw [skipString_plain hquote hslash (by simpa [isControl] using hcontrol), ih h]

/-! ### More open containers -/

section Append

variable (below : List Bracket)

/-- What the loop goes on with, if there are more open containers below. -/
def onTop (p : Due × List Bracket × List Char) : Due × List Bracket × List Char :=
  (p.1, p.2.1 ++ below, p.2.2)

theorem skipOpened_append (k : Bracket) (open? : List Bracket) (s : List Char) :
    skipOpened k (open? ++ below) s = (skipOpened k open? s).map (onTop below) := by
  unfold skipOpened
  split <;> first | rfl | (cases skipKey _ <;> rfl)

theorem skipEnding_append (k : Bracket) (open? : List Bracket) (s : List Char) :
    skipEnding k (open? ++ below) s = (skipEnding k open? s).map (onTop below) := by
  unfold skipEnding
  split <;> first | rfl | (cases skipKey _ <;> rfl)

theorem skipValue_append (open? : List Bracket) (s : List Char) :
    skipValue (open? ++ below) s = (skipValue open? s).map (onTop below) := by
  have hended (x : Except Fault (List Char)) :
      x.map (fun r => (Due.ending, open? ++ below, r)) =
        (x.map fun r => (Due.ending, open?, r)).map (onTop below) := by
    cases x <;> rfl
  unfold skipValue
  split
  case h_1 => rfl
  case h_7 => exact skipOpened_append below .square open? _
  case h_8 => exact skipOpened_append below .curly open? _
  case h_9 =>
    split
    · exact hended _
    · rfl
  all_goals exact hended _

/-- Containers that stay open below do not matter for where those above end. -/
theorem skipFrom_append {due : Due} {open? : List Bracket} {s rest : List Char}
    (h : skipFrom due open? s = .ok rest) :
    skipFrom due (open? ++ below) s = skipFrom .ending below rest := by
  fun_induction skipFrom due open? s with
  | case1 => cases h; rfl
  | case2 => cases h
  | case3 s k open? due' open' s' hending _ ih =>
      rw [← ih h]
      refine skipFrom_ending ((skipEnding_append below k open? s).trans ?_)
      rw [hending]
      rfl
  | case4 => cases h
  | case5 s open? due' open' s' hvalue _ ih =>
      rw [← ih h]
      refine skipFrom_value ((skipValue_append below open? s).trans ?_)
      rw [hvalue]
      rfl

end Append

/-- A value that was passed over for itself is passed over wherever it stands. -/
theorem skipFrom_of_skip {s rest : List Char} (h : skip s = .ok rest) (open? : List Bracket) :
    skipFrom .value open? s = skipFrom .ending open? rest := skipFrom_append open? h

/-! ### Inside a container -/

theorem skipBlanks_skipBlanks (s : List Char) : skipBlanks (skipBlanks s) = skipBlanks s :=
  List.dropWhile_idempotent isBlank s

theorem skipFrom_skipBlanks (open? : List Bracket) (s : List Char) :
    skipFrom .value open? (skipBlanks s) = skipFrom .value open? s := by
  have hblanks : Blanks (s.takeWhile isBlank) := fun _ => List.mem_takeWhile_imp
  rw [← skipFrom_blanks hblanks, skipBlanks, List.takeWhile_append_dropWhile]

section Inside

variable {first : Bool} {s r : List Char}

theorem closeList_eq_ok (h : closeList s = .ok r) : skipBlanks s = ']' :: r := by
  unfold closeList at h
  split at h
  · cases h
  · rename_i hs
    cases h
    exact hs
  · split at h <;> cases h
  · cases h

theorem closeObject_eq_ok (h : closeObject s = .ok r) : skipBlanks s = '\x7d' :: r := by
  unfold closeObject at h
  split at h
  · cases h
  · rename_i hs
    cases h
    exact hs
  · cases h
  · cases h

theorem nextElement_no (h : nextElement first s = .ok (.no, r)) : skipBlanks s = r := by
  unfold nextElement at h
  split at h
  · cases h
  · rename_i hs
    cases h
    exact hs
  · split at h
    · cases h
    split at h
    · split at h <;> cases h
    · cases h

theorem nextKey_no (h : nextKey first s = .ok (.no, r)) : skipBlanks s = r := by
  unfold nextKey at h
  split at h
  · cases h
  · rename_i hs
    cases h
    exact hs
  · split at h
    · split at h <;> cases h
    split at h
    · split at h <;> cases h
    · cases h

/-- The element that a list goes on with is passed over as its next value. -/
theorem nextElement_yes (h : nextElement first s = .ok (.yes, r)) (open? : List Bracket) :
    skipInside .square first open? s = skipFrom .value (.square :: open?) r := by
  unfold nextElement at h
  split at h
  · cases h
  · cases h
  · rename_i hclosing hs
    split at h
    · rename_i hfirst
      cases h
      subst hfirst
      exact skipInside_first (skipOpened_square hs hclosing)
    rename_i hfirst
    split at h
    · rename_i hcomma
      subst hcomma
      rw [Bool.not_eq_true] at hfirst
      subst hfirst
      rw [skipInside_later (skipEnding_square hs), ← skipFrom_skipBlanks]
      split at h
      · cases h
      · cases h
      · cases h
        rfl
    · cases h

theorem colon_eq_ok (h : colon s = .ok r) : skipBlanks s = ':' :: r := by
  unfold colon at h
  split at h
  · cases h
  · rename_i hs
    cases h
    exact hs
  · cases h

theorem key_eq_ok {k : String} (h : key s = .ok (k, r)) :
    ∃ t, s = '"' :: t ∧ skipString t = .ok r := by
  unfold key at h
  split at h
  · obtain ⟨p, hp, he⟩ := map_ok h
    cases he
    exact ⟨_, rfl, skipString_of_stringTail hp⟩
  · cases h

/-- The key that an object goes on with is passed over with its colon. -/
theorem nextKey_yes {k : String} {r' r'' : List Char} (h : nextKey first s = .ok (.yes, r))
    (hk : key r = .ok (k, r')) (hc : colon r' = .ok r'') (open? : List Bracket) :
    skipInside .curly first open? s = skipFrom .value (.curly :: open?) r'' := by
  obtain ⟨t, rfl, hstring⟩ := key_eq_ok hk
  have hcolon := colon_eq_ok hc
  unfold nextKey at h
  split at h
  · cases h
  · cases h
  · rename_i hs
    split at h
    · rename_i hfirst
      split at h
      · cases h
        subst hfirst
        exact skipInside_first (skipOpened_curly hs (skipKey_of_string hs hstring hcolon))
      · cases h
    rename_i hfirst
    split at h
    · rename_i hcomma
      subst hcomma
      rw [Bool.not_eq_true] at hfirst
      subst hfirst
      split at h
      · cases h
      · rename_i hr
        cases h
        exact skipInside_later (skipEnding_curly hs (skipKey_of_string hr hstring hcolon))
      · cases h
      · cases h
    · cases h

end Inside

/-! ### Readers -/

namespace Reader

variable {α β : Type}

/-- Behind a value that the reader accepts the text goes on where it does behind a value that is
passed over. -/
def Skips (reader : Reader α) : Prop :=
  ∀ (s : List Char) (a : α) (rest : List Char), reader.run s = .ok (a, rest) →
    ∀ open? : List Bracket, skipFrom .value open? s = skipFrom .ending open? rest

theorem skips_string : string.Skips := by
  intro s a rest h open?
  simp only [string, runString] at h
  split at h
  · rename_i hs
    obtain ⟨p, hp, he⟩ := map_ok h
    cases he
    refine skipFrom_value ?_
    simp only [skipValue, hs, skipString_of_stringTail hp]
    rfl
  · cases h

theorem skips_boolean : boolean.Skips := by
  intro s a rest h open?
  simp only [boolean, runBoolean] at h
  split at h
  case h_3 => cases h
  all_goals
    rename_i hs
    obtain ⟨p, hp, he⟩ := map_ok h
    cases he
    refine skipFrom_value ?_
    simp only [skipValue, hs, hp]
    rfl

theorem Skips.map {reader : Reader α} (h : reader.Skips) (f : α → β) : (reader.map f).Skips := by
  intro s b rest hrun open?
  obtain ⟨p, hp, he⟩ := map_ok hrun
  cases he
  exact h _ _ _ hp open?

theorem Skips.elements {reader : Reader α} (h : reader.Skips) {first : Bool}
    {s rest : List Char} {as : List α} (hrun : elements reader first s = .ok (as, rest))
    {r : List Char} (hclose : closeList rest = .ok r) (open? : List Bracket) :
    skipInside .square first open? s = skipFrom .ending open? r := by
  fun_induction Reader.elements reader first s generalizing as with
  | case1 => cases hrun
  | case2 first s rest' hn =>
      cases hrun
      have hs := closeList_eq_ok hclose
      rw [← nextElement_no hn, skipBlanks_skipBlanks] at hs
      exact skipInside_closing hs first open?
  | case3 => cases hrun
  | case4 first s rest' hn a rest'' hr _ _ ih =>
      obtain ⟨p, hp, he⟩ := map_ok hrun
      cases he
      rw [nextElement_yes hn, h _ _ _ hr, ← ih hp]
      rfl

theorem Skips.list {reader : Reader α} (h : reader.Skips) : (list reader).Skips := by
  intro s as rest hrun open?
  simp only [Reader.list, runList] at hrun
  split at hrun
  · rename_i hs
    split at hrun
    · cases hrun
    · rename_i helements
      obtain ⟨r, hclose, he⟩ := map_ok hrun
      cases he
      have hinside := h.elements helements hclose open?
      rw [← skipFrom_skipBlanks, hs]
      exact hinside
  · cases hrun

theorem Skips.members {reader : Reader α} (h : reader.Skips) {first : Bool}
    {s rest : List Char} {entries : List (String × α)}
    (hrun : members reader first s = .ok (entries, rest)) {r : List Char}
    (hclose : closeObject rest = .ok r) (open? : List Bracket) :
    skipInside .curly first open? s = skipFrom .ending open? r := by
  fun_induction Reader.members reader first s generalizing entries with
  | case2 first s rest' hn =>
      cases hrun
      have hs := closeObject_eq_ok hclose
      rw [← nextKey_no hn, skipBlanks_skipBlanks] at hs
      exact skipInside_closing hs first open?
  | case6 first s _ hn k _ hk _ hc a _ hr _ _ _ _ ih =>
      obtain ⟨p, hp, he⟩ := map_ok hrun
      cases he
      rw [nextKey_yes hn hk hc, h _ _ _ hr, ← ih hp]
      rfl
  | _ => cases hrun

theorem Skips.object {reader : Reader α} (h : reader.Skips) : (object reader).Skips := by
  intro s entries rest hrun open?
  simp only [Reader.object, runObject] at hrun
  split at hrun
  · rename_i hs
    split at hrun
    · cases hrun
    · rename_i hmembers
      obtain ⟨r, hclose, he⟩ := map_ok hrun
      cases he
      have hinside := h.members hmembers hclose open?
      rw [← skipFrom_skipBlanks, hs]
      exact hinside
  · cases hrun

end Reader

/-! ### Records -/

/-- The field is read from one value, no more and no less. -/
def Field.Skips {δ : Type} (field : Field δ) : Prop := field.read.Skips

theorem Field.skips_set {δ β : Type} {reader : Reader β} {put : β → δ → δ} {name : String}
    {given : δ → Bool} (h : reader.Skips) : Field.Skips ⟨name, given, reader.map put⟩ := h.map put

namespace Format

variable {δ α : Type} {format : Format δ α}

def Skips (format : Format δ α) : Prop := ∀ field ∈ format.fields, field.Skips

/-- A member that has been read, or passed over because it is no field. -/
theorem Skips.member (h : format.Skips) {d d' : δ} {k : String} {s rest : List Char}
    (hrun : format.member d k s = .ok (d', rest)) :
    ∃ s', colon s = .ok s' ∧
      ∀ open? : List Bracket, skipFrom .value open? s' = skipFrom .ending open? rest := by
  obtain ⟨s', hcolon, ⟨field, hfield, _, _, _, hread, rfl⟩ | ⟨_, hskip, rfl⟩⟩ := member_eq_ok hrun
  · exact ⟨s', hcolon, h field hfield _ _ _ hread⟩
  · exact ⟨s', hcolon, skipFrom_of_skip hskip⟩

theorem Skips.members (h : format.Skips) {first : Bool} {d d' : δ} {s rest r : List Char}
    (hrun : format.members first d s = .ok (d', rest)) (hclose : closeObject rest = .ok r)
    (open? : List Bracket) : skipInside .curly first open? s = skipFrom .ending open? r := by
  fun_induction Format.members format first d s with
  | case2 first d s rest' hn =>
      cases hrun
      have hs := closeObject_eq_ok hclose
      rw [← nextKey_no hn, skipBlanks_skipBlanks] at hs
      exact skipInside_closing hs first open?
  | case5 first d s _ hn k _ hk e _ hm _ _ _ ih =>
      obtain ⟨s', hc, hmember⟩ := h.member hm
      rw [nextKey_yes hn hk hc, hmember, ← ih hrun]
      rfl
  | _ => cases hrun

theorem Skips.inOrder (h : format.Skips) {first : Bool} {fields : List (Field δ)}
    (hfields : ∀ field ∈ fields, field ∈ format.fields) {d d' : δ} {s rest r : List Char}
    (hrun : inOrder first fields d s = .ok (d', rest)) (hclose : closeList rest = .ok r)
    (open? : List Bracket) : skipInside .square first open? s = skipFrom .ending open? r := by
  induction fields generalizing first d s with
  | nil =>
      cases hrun
      exact skipInside_closing (closeList_eq_ok hclose) first open?
  | cons field fields ih =>
      obtain ⟨hfield, hrest⟩ := List.forall_mem_cons.mp hfields
      unfold Format.inOrder at hrun
      split at hrun
      · cases hrun
      · rename_i hn
        cases hrun
        have hs := closeList_eq_ok hclose
        rw [← nextElement_no hn, skipBlanks_skipBlanks] at hs
        exact skipInside_closing hs first open?
      · rename_i hn
        split at hrun
        · cases hrun
        · rename_i hread
          rw [nextElement_yes hn, h field hfield _ _ _ hread, ← ih hrest hrun]
          rfl

/-- A record takes one value too, in both of its forms. -/
theorem Skips.reader (h : format.Skips) : format.reader.Skips := by
  intro s a rest hrun open?
  simp only [Format.reader, run] at hrun
  rw [← skipFrom_skipBlanks]
  split at hrun
  · rename_i hs
    rw [hs]
    unfold ofList at hrun
    split at hrun
    · cases hrun
    rename_i hmembers
    split at hrun
    · cases hrun
    rename_i hclose
    split at hrun
    · cases hrun
      exact h.inOrder (fun _ hf => hf) hmembers hclose open?
    · cases hrun
  · rename_i hs
    rw [hs]
    unfold ofObject at hrun
    split at hrun
    · cases hrun
    · cases hrun
    rename_i hmembers
    split at hrun
    · cases hrun
    rename_i hclose
    split at hrun
    · cases hrun
      exact h.members hmembers hclose open?
    · cases hrun
  · cases hrun

end Format
end FilterLexicon.Json
