import ClientGen.Format
import ClientGen.Text.Digits
import Mathlib.Logic.Function.Defs

/-!
# Plain numbering

Without a numbering of its own a format numbers the identifiers of each prefix from zero on. Two
such identifiers differ if their numbers do, or if their prefixes start differently.
-/

namespace ClientGen

variable {format : Format}

/-- A plainly numbered identifier ends with the number of those before it. -/
theorem Format.nextId_of_plain (hplain : format.numbering = none) (ids : Identifiers)
    (stem : String) : format.nextId ids stem =
      (stem ++ toString (ids.numbering.issued.count stem),
        { ids with numbering := ⟨stem :: ids.numbering.issued⟩ }) := by
  rw [Format.nextId, hplain]
  rfl

/-- Different numbers are written differently. -/
theorem toString_injective : Function.Injective (toString : Nat → String) := by
  intro n m h
  have hdigits : Nat.toDigits 10 n = Nat.toDigits 10 m := by
    rw [Nat.toString_eq_ofList_toDigits, Nat.toString_eq_ofList_toDigits] at h
    exact String.ofList_injective h
  calc n = Text.decimal (Nat.toDigits 10 n) := (Text.decimal_toDigits n).symm
    _ = Text.decimal (Nat.toDigits 10 m) := by rw [hdigits]
    _ = m := Text.decimal_toDigits m

/-- Identifiers with one prefix and different numbers are different. -/
theorem numbered_injective (stem : String) :
    Function.Injective fun n : Nat => stem ++ toString n := by
  intro n m h
  rw [String.append_right_inj] at h
  exact toString_injective h

/-- Identifiers whose prefixes start with different characters are different. -/
theorem numbered_ne {stem other : String} {c d : Char} {cs ds : List Char}
    (hstem : stem.toList = c :: cs) (hother : other.toList = d :: ds) (hne : c ≠ d) (n m : Nat) :
    stem ++ toString n ≠ other ++ toString m := by
  intro h
  have hchars := congrArg String.toList h
  rw [String.toList_append, String.toList_append, hstem, hother] at hchars
  exact hne (List.cons.inj hchars).1

end ClientGen
