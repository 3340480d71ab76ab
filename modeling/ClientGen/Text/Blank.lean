/-!
# White space

The characters with the Unicode property White_Space, and the removal of such characters from the
ends of a text.
-/

namespace ClientGen.Text

/-- Whether a character has the property White_Space. -/
def isBlank (c : Char) : Bool :=
  let n := c.toNat
  (0x9 ≤ n && n ≤ 0xD) || n == 0x20 || n == 0x85 || n == 0xA0 || n == 0x1680 ||
    (0x2000 ≤ n && n ≤ 0x200A) || n == 0x2028 || n == 0x2029 || n == 0x202F || n == 0x205F ||
    n == 0x3000

/-- The characters without the last ones that satisfy a test. -/
def dropEndWhile (test : Char → Bool) (cs : List Char) : List Char :=
  (cs.reverse.dropWhile test).reverse

/-- A character at the start is dropped only if all that follows is. -/
theorem dropEndWhile_cons (test : Char → Bool) (c : Char) (cs : List Char) :
    dropEndWhile test (c :: cs) =
      if dropEndWhile test cs = [] then if test c then [] else [c]
      else c :: dropEndWhile test cs := by
  simp only [dropEndWhile, List.reverse_cons, List.dropWhile_append, List.isEmpty_iff,
    List.reverse_eq_nil_iff]
  split
  next => cases htest : test c <;> simp [htest]
  next => simp

/-- Characters that fail the test stay, and so do those before them. -/
theorem dropEndWhile_append {test : Char → Bool} {cs : List Char} (h : ∀ c ∈ cs, test c = false)
    (ds : List Char) : dropEndWhile test (cs ++ ds) = cs ++ dropEndWhile test ds := by
  induction cs with
  | nil => rfl
  | cons c cs ih =>
    obtain ⟨hc, hcs⟩ := List.forall_mem_cons.mp h
    rw [List.cons_append, dropEndWhile_cons, ih hcs, hc, List.cons_append]
    split
    next hempty => simp [hempty]
    next => rfl

/-- The text without white space at its two ends. -/
def trim (s : String) : String :=
  String.ofList (dropEndWhile isBlank (s.toList.dropWhile isBlank))

end ClientGen.Text
