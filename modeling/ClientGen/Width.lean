/-!
# Widths of integers

Which integers a word of some number of bits holds, with a sign and without one.
-/

namespace ClientGen

/-- Whether a word of some bits without a sign holds an integer. -/
def fitsUnsigned (bits : Nat) (n : Int) : Bool :=
  0 ≤ n && n < Nat.pow 2 bits

/-- Whether a word of some bits, one of which is the sign, holds an integer. -/
def fitsSigned (bits : Nat) (n : Int) : Bool :=
  -(Nat.pow 2 (bits - 1) : Int) ≤ n && n < Nat.pow 2 (bits - 1)

end ClientGen
