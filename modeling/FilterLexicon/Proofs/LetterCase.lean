import FilterLexicon.Text.Ascii
import Mathlib

/-! Names up to letter case. Two texts have the same upper case exactly when they agree letter by
letter, where only the letters a to z may differ in case. So the upper case of a name stands for all
of its spellings, and it is one of them. -/

namespace FilterLexicon.Text

/-- The same character, or the same ASCII letter in the other case. -/
inductive SameLetter (c : Char) : Char → Prop where
  | same : SameLetter c c
  | lowered : SameLetter c c.toLower
  | raised : SameLetter c c.toUpper

/-- The same text but for the case of ASCII letters. -/
def SameLetters (s t : String) : Prop := List.Forall₂ SameLetter s.toList t.toList

theorem toUpper_eq_iff {c d : Char} : c.toUpper = d.toUpper ↔ SameLetter c d := by
  constructor
  · intro h
    by_cases hlower : d.isLower
    · have hlowered : c.toLower = d := by
        calc c.toLower = c.toUpper.toLower := (Char.toLower_toUpper_eq_toLower c).symm
          _ = d.toUpper.toLower := by rw [h]
          _ = d.toLower := Char.toLower_toUpper_eq_toLower d
          _ = d := Char.toLower_eq_of_not_isUpper (Char.not_isUpper_of_isLower hlower)
      exact hlowered ▸ .lowered
    · rw [Char.toUpper_eq_of_not_isLower hlower] at h
      exact h ▸ .raised
  · intro h
    cases h with
    | same => rfl
    | lowered => exact (Char.toUpper_toLower_eq_toUpper c).symm
    | raised => exact (Char.toUpper_toUpper_eq_toUpper c).symm

theorem toUpper_of_not_isAlpha {c : Char} (h : c.isAlpha = false) : c.toUpper = c := by
  apply Char.toUpper_eq_of_not_isLower
  intro hlower
  rw [Char.isAlpha, hlower, Bool.or_true] at h
  cases h

/-- A character that is no ASCII letter is the upper case of itself only. -/
theorem toUpper_eq_iff_eq {c d : Char} (hd : d.isAlpha = false) : c.toUpper = d ↔ c = d := by
  constructor
  · intro h
    have hc : c.isAlpha = false := by rw [← Char.isAlpha_toUpper_eq_isAlpha, h, hd]
    rwa [toUpper_of_not_isAlpha hc] at h
  · rintro rfl
    exact toUpper_of_not_isAlpha hd

theorem map_eq_map_iff_forall₂ {α β : Type} {f : α → β} {as bs : List α} :
    as.map f = bs.map f ↔ List.Forall₂ (fun a b => f a = f b) as bs := by
  rw [← List.forall₂_eq_eq_eq, List.forall₂_map_left_iff, List.forall₂_map_right_iff]

/-- The upper case is the same exactly if the letters are. -/
theorem upperAscii_eq_iff {s t : String} : upperAscii s = upperAscii t ↔ SameLetters s t := by
  calc upperAscii s = upperAscii t
      ↔ s.toList.map Char.toUpper = t.toList.map Char.toUpper := String.ofList_inj
    _ ↔ List.Forall₂ (fun c d => c.toUpper = d.toUpper) s.toList t.toList := map_eq_map_iff_forall₂
    _ ↔ SameLetters s t := by simp only [toUpper_eq_iff, SameLetters]

theorem map_upperAscii_eq_iff {names other : List String} :
    names.map upperAscii = other.map upperAscii ↔ List.Forall₂ SameLetters names other := by
  simp only [map_eq_map_iff_forall₂, upperAscii_eq_iff]

/-- A name in upper case is its own upper case. -/
@[simp] theorem upperAscii_upperAscii (s : String) : upperAscii (upperAscii s) = upperAscii s := by
  rw [upperAscii, toList_upperAscii, List.map_map]
  exact congrArg String.ofList (List.map_congr_left fun c _ => Char.toUpper_toUpper_eq_toUpper c)

instance (s t : String) : Decidable (SameLetters s t) := decidable_of_iff _ upperAscii_eq_iff

end FilterLexicon.Text
