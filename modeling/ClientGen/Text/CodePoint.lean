/-!
# Code points

The characters that numbers name: a code point names one unless it is a surrogate or too large, and
two surrogates of the right kinds name one together.
-/

namespace ClientGen.Text

/-- The character with a code point. -/
def charOfCode? (n : Nat) : Option Char :=
  if h : n.isValidChar then some (Char.ofNatAux n h) else none

/-- The character that a leading and a trailing surrogate name. -/
def charOfPair? (lead trail : Nat) : Option Char :=
  if 0xD800 ≤ lead ∧ lead < 0xDC00 ∧ 0xDC00 ≤ trail ∧ trail < 0xE000 then
    charOfCode? (0x10000 + (lead - 0xD800) * 0x400 + (trail - 0xDC00))
  else none

end ClientGen.Text
