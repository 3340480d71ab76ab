/-!
# Runs of code points

A set of characters is given as an array of runs: the code points from a first one to a last one,
in steps of one or two. Steps of two occur where capital and small letters alternate.
-/

namespace ClientGen.Text

/-- The code points `first`, `first + step`, and so on up to `last`. -/
structure CodeRun where
  first : Nat
  last : Nat
  step : Nat

/-- Whether a run contains a code point. -/
def CodeRun.contains (run : CodeRun) (code : Nat) : Bool :=
  run.first ≤ code && code ≤ run.last && (code - run.first) % run.step == 0

/-- Whether some run of the array contains the character. -/
def inRuns (runs : Array CodeRun) (c : Char) : Bool :=
  runs.any fun run => run.contains c.toNat

end ClientGen.Text
