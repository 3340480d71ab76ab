import ClientGen.Http
import ClientGen.Text.LetterCase
import Mathlib.Data.List.Nodup

/-!
# Verbs of HTTP

A verb names a method of HTTP whatever the case of its letters. In capital letters it is the name of
the method on the wire, so that a client may write the verb of a description in capitals.
-/

namespace ClientGen.HttpMethod

variable {text : String} {m : HttpMethod}

/-- Every method is listed. -/
theorem mem_all (m : HttpMethod) : m ∈ all := by
  cases m <;> decide

/-- Different methods have different verbs. -/
theorem nodup_verbs : (all.map fun m => m.verb.toList).Nodup := by decide

/-- A text names the method whose verb it is in small letters, and no other. -/
theorem ofVerb?_eq_some_iff :
    ofVerb? text = some m ↔ text.toList.map Char.toLower = m.verb.toList := by
  constructor
  · intro h
    have hfound := List.find?_some h
    exact (eq_of_beq hfound).symm
  · intro h
    obtain ⟨found, hfound⟩ : ∃ found, ofVerb? text = some found := by
      rw [← Option.isSome_iff_exists, ofVerb?, List.find?_isSome]
      exact ⟨m, mem_all m, by simp [h]⟩
    have hname := List.find?_some hfound
    have hverb : found.verb.toList = m.verb.toList := (eq_of_beq hname).trans h
    rw [hfound, List.inj_on_of_nodup_map nodup_verbs (mem_all found) (mem_all m) hverb]

/-- The letters of verbs are ASCII. -/
theorem toNat_lt_of_mem_verb {c : Char} (hc : c ∈ m.verb.toList) : c.toNat < 0x80 := by
  have hall : m.verb.toList.all (fun c => c.toNat < 0x80) = true := by
    cases m <;> decide
  exact of_decide_eq_true (List.all_eq_true.mp hall c hc)

/-- The name on the wire is the verb in capital letters. -/
theorem map_toUpper_verb (m : HttpMethod) : m.verb.toList.map Char.toUpper = m.wireName.toList := by
  cases m <;> decide

/-- An ASCII letter and its small letter have the same capital. -/
theorem toUpper_toLower {c : Char} (hc : c.toNat < 0x80) : c.toLower.toUpper = c.toUpper :=
  Text.forall_ascii (p := fun c => c.toLower.toUpper = c.toUpper) (by decide) hc

/-- A text that names a method is in capital letters its name on the wire. -/
theorem upper_of_ofVerb? (h : ofVerb? text = some m) : Text.upper text = m.wireName := by
  have hverb := ofVerb?_eq_some_iff.mp h
  have hupper : ∀ c ∈ text.toList, Text.upperChar c = [c.toLower.toUpper] := by
    intro c hc
    have hsmall : c.toLower ∈ m.verb.toList := hverb ▸ List.mem_map_of_mem hc
    have hascii : c.toNat < 0x80 := by
      by_contra hlarge
      rw [Text.toLower_of_not_ascii hlarge] at hsmall
      exact hlarge (toNat_lt_of_mem_verb hsmall)
    rw [Text.upperChar_of_ascii hascii, toUpper_toLower hascii]
  have hchars : text.toList.flatMap Text.upperChar = m.wireName.toList := by
    calc text.toList.flatMap Text.upperChar
        = text.toList.flatMap fun c => [c.toLower.toUpper] := List.flatMap_congr hupper
      _ = (text.toList.map Char.toLower).map Char.toUpper := by
          rw [List.map_map, List.map_eq_flatMap]
          rfl
      _ = m.wireName.toList := by rw [hverb, map_toUpper_verb]
  rw [Text.upper, hchars, String.ofList_toList]

end ClientGen.HttpMethod
