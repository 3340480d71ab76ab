import ClientGen.Json.Printer
import ClientGen.Json.Reader
import Mathlib.Data.List.TakeWhile

/-!
# Scanning printed lexemes

A scanner that passes over a whole numeral finds the same in front of anything that does not go on
with it. What is printed for a text is scanned as the text, and what is printed for an integer of at
most 64 bits is read as the integer. Of a double this can be checked, but it does not hold of all.
-/

namespace ClientGen.Json

variable {cs rest left digits : List Char} {c : Char} {fault : Fault}

/-! ## Steps that succeed -/

section Steps

variable {ε α β : Type} {b : β}

/-- Two steps succeed if the second does so with what the first has returned. -/
theorem bind_eq_ok_iff {x : Except ε α} {f : α → Except ε β} :
    x >>= f = .ok b ↔ ∃ a, x = .ok a ∧ f a = .ok b := by
  cases x with
  | error e => simp [bind, Except.bind]
  | ok a => simp [bind, Except.bind]

/-- A step whose result is changed succeeds if the step does. -/
theorem map_eq_ok_iff {x : Except ε α} {f : α → β} :
    x.map f = .ok b ↔ ∃ a, x = .ok a ∧ f a = b := by
  cases x with
  | error e => simp [Except.map]
  | ok a => simp [Except.map]

end Steps

/-! ## Blanks -/

/-- Characters that may stand between lexemes. -/
def Blanks (cs : List Char) : Prop := ∀ c ∈ cs, isBlank c = true

instance : Decidable (Blanks cs) := List.decidableBAll _ cs

/-- No characters are blanks. -/
theorem blanks_nil : Blanks [] := List.forall_mem_nil _

/-- Blanks are skipped. -/
theorem Blanks.skip (h : Blanks cs) (rest : List Char) :
    skipBlanks (cs ++ rest) = skipBlanks rest :=
  List.dropWhile_append_of_pos h

/-- A character that is no blank is not skipped. -/
theorem skipBlanks_cons (h : isBlank c = false) (cs : List Char) :
    skipBlanks (c :: cs) = c :: cs :=
  List.dropWhile_cons_of_neg (by simp [h])

/-! ## Numerals -/

/-- Whether a numeral may go on with a character. -/
def continuesNumeral (c : Char) : Bool :=
  c.isDigit || c == '.' || c == 'e' || c == 'E'

/-- Characters that do not go on with a numeral before them. -/
def EndsNumeral (rest : List Char) : Prop := ∀ c ∈ rest.head?, continuesNumeral c = false

/-- A numeral ends where the text does. -/
theorem endsNumeral_nil : EndsNumeral [] := by simp [EndsNumeral]

/-- A numeral ends before a character that does not continue it. -/
theorem endsNumeral_cons (h : continuesNumeral c = false) : EndsNumeral (c :: rest) := by
  simpa [EndsNumeral] using h

/-- What ends a numeral is neither a digit nor a point nor the sign of an exponent. -/
theorem EndsNumeral.head (h : EndsNumeral (c :: rest)) :
    c.isDigit = false ∧ c ≠ '.' ∧ c ≠ 'e' ∧ c ≠ 'E' := by
  simpa [EndsNumeral, continuesNumeral, and_assoc] using h

/-- The digits before the end of a numeral are those before what follows it. -/
theorem EndsNumeral.takeWhile_append (h : EndsNumeral rest) :
    (cs ++ rest).takeWhile Char.isDigit = cs.takeWhile Char.isDigit := by
  have hrest : rest.takeWhile Char.isDigit = [] := by
    cases rest with
    | nil => rfl
    | cons c rest => simp [h.head.1]
  induction cs with
  | nil => exact hrest
  | cons c cs ih => simp only [List.cons_append, List.takeWhile_cons, ih]

/-- What follows a numeral is left after its digits. -/
theorem EndsNumeral.dropWhile_append (h : EndsNumeral rest) :
    (cs ++ rest).dropWhile Char.isDigit = cs.dropWhile Char.isDigit ++ rest := by
  have hrest : rest.dropWhile Char.isDigit = rest := by
    cases rest with
    | nil => rfl
    | cons c rest => simp [h.head.1]
  induction cs with
  | nil => exact hrest
  | cons c cs ih =>
    simp only [List.cons_append, List.dropWhile_cons, ih]
    split <;> rfl

/-- The whole part of a numeral is scanned whatever follows the numeral. -/
theorem scanWhole_append (h : scanWhole fault cs = .ok (digits, left)) (hrest : EndsNumeral rest) :
    scanWhole fault (cs ++ rest) = .ok (digits, left ++ rest) := by
  cases cs with
  | nil => simp [scanWhole] at h
  | cons c cs =>
    rw [List.cons_append]
    simp only [scanWhole] at h ⊢
    by_cases hzero : c = '0'
    · rw [if_pos hzero] at h ⊢
      cases cs with
      | nil =>
        obtain ⟨rfl, rfl⟩ : ['0'] = digits ∧ [] = left := by simpa using h
        cases rest with
        | nil => rfl
        | cons d rest => simp [hrest.head.1]
      | cons d cs =>
        cases hd : d.isDigit with
        | true => simp [hd] at h
        | false =>
          obtain ⟨rfl, rfl⟩ : ['0'] = digits ∧ d :: cs = left := by simpa [hd] using h
          simp [hd]
    · rw [if_neg hzero] at h ⊢
      cases hc : c.isDigit with
      | false => simp [hc] at h
      | true =>
        rw [hc, if_pos rfl, Except.ok.injEq, Prod.mk.injEq] at h
        rw [if_pos rfl, ← List.cons_append, hrest.takeWhile_append, hrest.dropWhile_append, h.1,
          h.2]

/-- Digits are scanned whatever follows the numeral. -/
theorem scanDigits_append (h : scanDigits fault cs = .ok (digits, left))
    (hrest : EndsNumeral rest) : scanDigits fault (cs ++ rest) = .ok (digits, left ++ rest) := by
  cases cs with
  | nil => simp [scanDigits] at h
  | cons c cs =>
    rw [List.cons_append]
    simp only [scanDigits] at h ⊢
    cases hc : c.isDigit with
    | false => simp [hc] at h
    | true =>
      rw [hc, if_pos rfl, Except.ok.injEq, Prod.mk.injEq] at h
      rw [if_pos rfl, ← List.cons_append, hrest.takeWhile_append, hrest.dropWhile_append, h.1, h.2]

/-- Without a point there is no fraction. -/
theorem scanFraction_of_ne (h : ∀ c ∈ cs.head?, c ≠ '.') :
    scanFraction fault cs = .ok ([], cs) := by
  unfold scanFraction
  split
  · simp at h
  · rfl

/-- A fraction is scanned whatever follows the numeral. -/
theorem scanFraction_append (h : scanFraction fault cs = .ok (digits, left))
    (hrest : EndsNumeral rest) : scanFraction fault (cs ++ rest) = .ok (digits, left ++ rest) := by
  by_cases hpoint : ∀ c ∈ cs.head?, c ≠ '.'
  · have hpoint' : ∀ c ∈ (cs ++ rest).head?, c ≠ '.' := by
      cases cs with
      | nil =>
        cases rest with
        | nil => simp
        | cons c rest => simpa using hrest.head.2.1
      | cons c cs => exact hpoint
    rw [scanFraction_of_ne hpoint, Except.ok.injEq, Prod.mk.injEq] at h
    rw [scanFraction_of_ne hpoint', h.1, h.2]
  · obtain ⟨cs, rfl⟩ : ∃ tail, cs = '.' :: tail := by
      cases cs with
      | nil => simp at hpoint
      | cons c cs => exact ⟨cs, by simpa using hpoint⟩
    exact scanDigits_append h hrest

/-- Without its sign there is no exponent. -/
theorem scanExponent_of_ne (h : ∀ c ∈ cs.head?, c ≠ 'e' ∧ c ≠ 'E') :
    scanExponent fault cs = .ok ((false, []), cs) := by
  cases cs with
  | nil => rfl
  | cons c cs =>
    have hc : ¬(c = 'e' ∨ c = 'E') := by simpa [not_or] using h
    exact if_neg hc

/-- The digits of an exponent end where the text goes on with something else. -/
theorem map_scanDigits_append {negative : Bool} {exponent : Bool × List Char}
    (h : (scanDigits fault cs).map (fun (ds, rest) => ((negative, ds), rest)) =
      .ok (exponent, left)) (hrest : EndsNumeral rest) :
    (scanDigits fault (cs ++ rest)).map (fun (ds, rest) => ((negative, ds), rest)) =
      .ok (exponent, left ++ rest) := by
  obtain ⟨⟨ds, after⟩, hscan, heq⟩ := map_eq_ok_iff.mp h
  obtain ⟨rfl, rfl⟩ : (negative, ds) = exponent ∧ after = left := by simpa using heq
  rw [scanDigits_append hscan hrest]
  rfl

/-- An exponent is scanned whatever follows the numeral. -/
theorem scanExponent_append {exponent : Bool × List Char}
    (h : scanExponent fault cs = .ok (exponent, left)) (hrest : EndsNumeral rest) :
    scanExponent fault (cs ++ rest) = .ok (exponent, left ++ rest) := by
  have hnone : ∀ c ∈ rest.head?, c ≠ 'e' ∧ c ≠ 'E' := by
    cases rest with
    | nil => simp
    | cons c rest => simpa using hrest.head.2.2
  cases cs with
  | nil =>
    obtain ⟨rfl, rfl⟩ : (false, []) = exponent ∧ [] = left := by simpa [scanExponent] using h
    exact scanExponent_of_ne hnone
  | cons c cs =>
    by_cases hc : c = 'e' ∨ c = 'E'
    · unfold scanExponent at h ⊢
      simp only [List.cons_append, if_pos hc] at h ⊢
      split at h
      · exact map_scanDigits_append h hrest
      · exact map_scanDigits_append h hrest
      · rename_i hminus hplus
        cases cs with
        | nil => simp [scanDigits, Except.map] at h
        | cons d cs =>
          split
          · simp_all
          · simp_all
          · exact map_scanDigits_append h hrest
    · have hplain : ∀ d ∈ (c :: cs).head?, d ≠ 'e' ∧ d ≠ 'E' := by simpa [not_or] using hc
      rw [scanExponent_of_ne hplain, Except.ok.injEq, Prod.mk.injEq] at h
      rw [List.cons_append, scanExponent_of_ne (by simpa using hplain), ← h.1, ← h.2,
        List.cons_append]

/-- Scans a numeral whose sign is known. -/
def scanUnsigned (fault : Fault) (negative : Bool) (cs : List Char) :
    Except Fault (Found Numeral) := do
  let (whole, cs) ← scanWhole fault cs
  let (fraction, cs) ← scanFraction fault cs
  let ((exponentNegative, exponent), cs) ← scanExponent fault cs
  .ok ({ negative, whole, fraction, exponentNegative, exponent }, cs)

/-- A numeral after a minus is negative. -/
theorem scanNumeral_minus (fault : Fault) (cs : List Char) :
    scanNumeral fault ('-' :: cs) = scanUnsigned fault true cs := rfl

/-- A numeral without a minus is not negative. -/
theorem scanNumeral_of_ne (h : c ≠ '-') :
    scanNumeral fault (c :: cs) = scanUnsigned fault false (c :: cs) := by
  unfold scanNumeral
  split
  next heq =>
    split at heq
    next hcons => exact absurd (List.cons.inj hcons).1 h
    next =>
      obtain ⟨rfl, rfl⟩ := Prod.mk.inj heq
      rfl

/-- A numeral without its minus is scanned whatever follows it. -/
theorem scanUnsigned_append {negative : Bool} {numeral : Numeral}
    (h : scanUnsigned fault negative cs = .ok (numeral, left)) (hrest : EndsNumeral rest) :
    scanUnsigned fault negative (cs ++ rest) = .ok (numeral, left ++ rest) := by
  obtain ⟨⟨whole, cs₁⟩, hwhole, h⟩ := bind_eq_ok_iff.mp h
  obtain ⟨⟨fraction, cs₂⟩, hfraction, h⟩ := bind_eq_ok_iff.mp h
  obtain ⟨⟨⟨exponentNegative, exponent⟩, cs₃⟩, hexponent, h⟩ := bind_eq_ok_iff.mp h
  obtain ⟨rfl, rfl⟩ := Prod.mk.inj (Except.ok.inj h)
  refine bind_eq_ok_iff.mpr ⟨_, scanWhole_append hwhole hrest, ?_⟩
  refine bind_eq_ok_iff.mpr ⟨_, scanFraction_append hfraction hrest, ?_⟩
  exact bind_eq_ok_iff.mpr ⟨_, scanExponent_append hexponent hrest, rfl⟩

/-- A numeral that ends with a text ends there also before anything that does not go on with it. -/
theorem scanNumeral_append {numeral : Numeral} (h : scanNumeral fault cs = .ok (numeral, left))
    (hrest : EndsNumeral rest) : scanNumeral fault (cs ++ rest) = .ok (numeral, left ++ rest) := by
  cases cs with
  | nil => exact absurd h (by simp [scanNumeral, scanWhole, bind, Except.bind])
  | cons c cs =>
    by_cases hminus : c = '-'
    · subst hminus
      exact scanUnsigned_append h hrest
    · rw [scanNumeral_of_ne hminus] at h
      rw [List.cons_append, scanNumeral_of_ne hminus, ← List.cons_append]
      exact scanUnsigned_append h hrest

/-- A numeral starts with a digit or a minus sign. -/
theorem exists_of_scanNumeral {numeral : Numeral}
    (h : scanNumeral fault cs = .ok (numeral, left)) :
    ∃ c tail, cs = c :: tail ∧ startsNumeral c = true := by
  cases cs with
  | nil => exact absurd h (by simp [scanNumeral, scanWhole, bind, Except.bind])
  | cons c cs =>
    refine ⟨c, cs, rfl, ?_⟩
    by_cases hminus : c = '-'
    · simp [startsNumeral, hminus]
    · rw [scanNumeral_of_ne hminus] at h
      obtain ⟨found, hwhole, -⟩ := bind_eq_ok_iff.mp h
      by_cases hzero : c = '0'
      · simp [startsNumeral, hzero]
      · cases hc : c.isDigit with
        | true => simp [startsNumeral, hc]
        | false => simp [scanWhole, hzero, hc] at hwhole

/-! ## Numbers -/

/-- A number that is read ends where its numeral does. -/
theorem readNumber_append {n : JsonNumber} (h : readNumber cs = .ok (n, left))
    (hrest : EndsNumeral rest) : readNumber (cs ++ rest) = .ok (n, left ++ rest) := by
  obtain ⟨⟨numeral, after⟩, hscan, h⟩ := bind_eq_ok_iff.mp h
  refine bind_eq_ok_iff.mpr ⟨_, scanNumeral_append hscan hrest, ?_⟩
  simp only at h ⊢
  split at h
  next found hfound =>
    obtain ⟨rfl, rfl⟩ := Prod.mk.inj (Except.ok.inj h)
    rfl
  next => cases h

/-- What is read as a number starts as a numeral does. -/
theorem exists_of_readNumber {n : JsonNumber} (h : readNumber cs = .ok (n, left)) :
    ∃ c tail, cs = c :: tail ∧ startsNumeral c = true := by
  obtain ⟨⟨numeral, after⟩, hscan, -⟩ := bind_eq_ok_iff.mp h
  exact exists_of_scanNumeral hscan

/-- Whether a number is one that is read as it is printed. -/
def ReadsBack (n : JsonNumber) : Prop := readNumber (numberText n) = .ok (n, [])

instance (n : JsonNumber) : Decidable (ReadsBack n) :=
  match h : readNumber (numberText n) with
  | .ok found => decidable_of_iff (found = (n, [])) (by rw [ReadsBack, h, Except.ok.injEq])
  | .error fault => .isFalse (by simp [ReadsBack, h])

/-- Whether a number is a double or an integer of at most 64 bits. -/
def IsMachine : JsonNumber → Prop
  | .int n => fitsSigned 64 n = true ∨ fitsUnsigned 64 n = true
  | .real _ => True

/-- The number of a numeral is a double or an integer of at most 64 bits. -/
theorem isMachine_of_toNumber? {numeral : Numeral} {n : JsonNumber}
    (h : numeral.toNumber? = some n) : IsMachine n := by
  have hreal {x : Option Float} (h : x.map JsonNumber.real = some n) : IsMachine n := by
    obtain ⟨y, -, rfl⟩ := Option.map_eq_some_iff.mp h
    trivial
  unfold Numeral.toNumber? at h
  split at h
  · exact hreal h
  dsimp only at h
  split at h
  next hword =>
    obtain rfl := Option.some.inj h
    exact Or.inl hword.2.2
  split at h
  next hword =>
    obtain rfl := Option.some.inj h
    exact Or.inr hword.2
  · exact hreal h

/-- A number that is read is a double or an integer of at most 64 bits. -/
theorem isMachine_of_readNumber {n : JsonNumber} (h : readNumber cs = .ok (n, left)) :
    IsMachine n := by
  obtain ⟨⟨numeral, after⟩, -, h⟩ := bind_eq_ok_iff.mp h
  simp only at h
  split at h
  next found hfound =>
    obtain ⟨rfl, -⟩ := Prod.mk.inj (Except.ok.inj h)
    exact isMachine_of_toNumber? hfound
  next => cases h

/-- The digits of a positive number do not start with a zero. -/
theorem head_toDigits_ne_zero {n : Nat} (hn : 0 < n) :
    ∀ c ∈ (Nat.toDigits 10 n).head?, c ≠ '0' := by
  induction n using Nat.strongRecOn with
  | ind n ih =>
    rw [Nat.toDigits_eq_if (by decide)]
    split
    next hsmall =>
      have hdigit : ∀ n < 10, 0 < n → Nat.digitChar n ≠ '0' := by decide
      simpa using hdigit n hsmall hn
    next hlarge =>
      have hhead : (Nat.toDigits 10 (n / 10) ++ [Nat.digitChar (n % 10)]).head? =
          (Nat.toDigits 10 (n / 10)).head? := by
        rw [List.head?_append, Option.or_of_isSome]
        exact List.isSome_head?.mpr Nat.toDigits_ne_nil
      rw [hhead]
      exact ih (n / 10) (by omega) (by omega)

/-- The digits of a number are a whole part. -/
theorem scanWhole_toDigits (n : Nat) :
    scanWhole fault (Nat.toDigits 10 n) = .ok (Nat.toDigits 10 n, []) := by
  obtain rfl | hn := Nat.eq_zero_or_pos n
  · rfl
  have hall : ∀ c ∈ Nat.toDigits 10 n, c.isDigit = true :=
    fun c hc => Nat.isDigit_of_mem_toDigits (by decide) (by decide) hc
  have hhead := head_toDigits_ne_zero hn
  cases hdigits : Nat.toDigits 10 n with
  | nil => exact absurd hdigits Nat.toDigits_ne_nil
  | cons c cs =>
    rw [hdigits] at hall hhead
    have hzero : c ≠ '0' := by simpa using hhead
    have htake : (c :: cs).takeWhile Char.isDigit = c :: cs :=
      List.takeWhile_eq_self_iff.mpr hall
    have hdrop : (c :: cs).dropWhile Char.isDigit = [] := List.dropWhile_eq_nil_iff.mpr hall
    simp only [scanWhole, if_neg hzero, if_pos (hall c List.mem_cons_self), htake, hdrop]

/-- The numeral of an integer. -/
def integral (negative : Bool) (n : Nat) : Numeral where
  negative
  whole := Nat.toDigits 10 n
  fraction := []
  exponentNegative := false
  exponent := []

/-- The digits of a number are scanned as its numeral. -/
theorem scanUnsigned_toDigits (negative : Bool) (n : Nat) :
    scanUnsigned fault negative (Nat.toDigits 10 n) = .ok (integral negative n, []) := by
  rw [scanUnsigned, scanWhole_toDigits]
  rfl

/-- A numeral without a minus stands for its integer, if that is of at most 64 bits. -/
theorem toNumber?_integral {n : Nat} (h : fitsUnsigned 64 n = true) :
    (integral false n).toNumber? = some (.int n) := by
  simp [Numeral.toNumber?, integral, Text.decimal_toDigits, h]

/-- A numeral with a minus stands for its integer, if that is of at most 64 bits. -/
theorem toNumber?_integral_neg {n : Nat} (hpos : 0 < n) (h : fitsSigned 64 (-(n : Int)) = true) :
    (integral true n).toNumber? = some (.int (-(n : Int))) := by
  have hne : n ≠ 0 := by omega
  simp [Numeral.toNumber?, integral, Text.decimal_toDigits, h, hne]

/-- The number of the numeral that is scanned is read. -/
theorem readNumber_of_scan {numeral : Numeral} {n : JsonNumber}
    (hscan : scanNumeral .truncated cs = .ok (numeral, left))
    (hnumber : numeral.toNumber? = some n) : readNumber cs = .ok (n, left) := by
  refine bind_eq_ok_iff.mpr ⟨_, hscan, ?_⟩
  simp only [hnumber]

/-- An integer of at most 64 bits is read as it is printed. -/
theorem readsBack_int {n : Int} (h : IsMachine (.int n)) : ReadsBack (.int n) := by
  cases n with
  | ofNat n =>
    have hscan : scanNumeral .truncated (Nat.toDigits 10 n) = .ok (integral false n, []) := by
      rw [← scanUnsigned_toDigits]
      cases hdigits : Nat.toDigits 10 n with
      | nil => exact absurd hdigits Nat.toDigits_ne_nil
      | cons c cs =>
        have hc : c.isDigit = true :=
          Nat.isDigit_of_mem_toDigits (by decide) (by decide) (hdigits ▸ List.mem_cons_self)
        exact scanNumeral_of_ne fun heq => absurd (heq ▸ hc) (by decide)
    refine readNumber_of_scan hscan (toNumber?_integral ?_)
    simp only [IsMachine, fitsSigned, fitsUnsigned, Int.ofNat_eq_natCast, Bool.and_eq_true,
      decide_eq_true_eq, Nat.pow_eq] at h ⊢
    omega
  | negSucc n =>
    have hscan : scanNumeral .truncated (numberText (.int (.negSucc n))) =
        .ok (integral true (n + 1), []) := by
      rw [numberText, scanNumeral_minus, scanUnsigned_toDigits]
    refine readNumber_of_scan hscan (toNumber?_integral_neg (Nat.succ_pos n) ?_)
    simp only [IsMachine, fitsSigned, fitsUnsigned, Bool.and_eq_true, decide_eq_true_eq,
      Nat.pow_eq] at h ⊢
    omega

/-! ## Texts -/

/-- The code of a control character is scanned from its four digits. -/
theorem scanHex_control {n : Nat} (h : n < 0x20) (rest : List Char) :
    scanHex ('0' :: '0' :: Nat.digitChar (n / 16) :: Nat.digitChar (n % 16) :: rest) =
      .ok (n, rest) := by
  have hdigits : ∀ n < 0x20,
      let digits := ['0', '0', Nat.digitChar (n / 16), Nat.digitChar (n % 16)]
      (String.ofList digits).utf8ByteSize = 4 ∧ Text.number? 16 digits = some n := by decide
  obtain ⟨hsize, hnumber⟩ := hdigits n h
  have hlong : ¬('0' :: '0' :: Nat.digitChar (n / 16) :: Nat.digitChar (n % 16) ::
      rest).length < 4 := by simp
  unfold scanHex
  simp only [List.take_succ_cons, List.take_zero, hsize, hnumber, Nat.lt_irrefl, if_false, hlong]
  rfl

/-- A control character is scanned from its escape. -/
theorem scanEscape_control {c : Char} (h : c.toNat < 0x20) (rest : List Char) :
    scanEscape ('u' :: '0' :: '0' :: Nat.digitChar (c.toNat / 16) ::
      Nat.digitChar (c.toNat % 16) :: rest) = .ok (c, rest) := by
  have htrail : ¬(0xDC00 ≤ c.toNat ∧ c.toNat ≤ 0xDFFF) := by omega
  have hlead : ¬(0xD800 ≤ c.toNat ∧ c.toNat ≤ 0xDBFF) := by omega
  show scanCodePoint _ = _
  rw [scanCodePoint, scanHex_control h]
  simp [bind, Except.bind, htrail, hlead]

/-- What is printed for a character is scanned as the character. -/
theorem scanQuoted_escapedChar (fuel : Nat) (c : Char) (rest : List Char) :
    scanQuoted scanEscape (fuel + 1) (escapedChar c ++ rest) =
      (scanQuoted scanEscape fuel rest).map fun (cs, rest) => (c :: cs, rest) := by
  have hescape {escape : List Char} {c : Char} (h : scanEscape (escape ++ rest) = .ok (c, rest)) :
      scanQuoted scanEscape (fuel + 1) ('\\' :: escape ++ rest) =
        (scanQuoted scanEscape fuel rest).map fun (cs, rest) => (c :: cs, rest) := by
    rw [List.cons_append, scanQuoted, if_neg (by decide), if_pos rfl, h]
    show (scanQuoted scanEscape fuel rest >>= fun found => .ok (c :: found.1, found.2)) = _
    cases scanQuoted scanEscape fuel rest <;> rfl
  unfold escapedChar
  split
  iterate 7 exact hescape rfl
  next c hquote hbackslash _ _ _ _ _ =>
    split
    next hcontrol => exact hescape (scanEscape_control hcontrol rest)
    next hplain =>
      rw [List.singleton_append, scanQuoted, if_neg hquote, if_neg hbackslash, if_neg hplain]
      cases scanQuoted scanEscape fuel rest <;> rfl

/-- Characters that are escaped are scanned as themselves up to the quote. -/
theorem scanQuoted_escaped {fuel : Nat} (cs rest : List Char) (h : cs.length < fuel) :
    scanQuoted scanEscape fuel (cs.flatMap escapedChar ++ '"' :: rest) = .ok (cs, rest) := by
  induction cs generalizing fuel with
  | nil =>
    obtain ⟨fuel, rfl⟩ : ∃ more, fuel = more + 1 := ⟨fuel - 1, by omega⟩
    rfl
  | cons c cs ih =>
    rw [List.length_cons] at h
    obtain ⟨fuel, rfl⟩ : ∃ more, fuel = more + 1 := ⟨fuel - 1, by omega⟩
    rw [List.flatMap_cons, List.append_assoc, scanQuoted_escapedChar, ih (by omega)]
    rfl

/-- An escaped character is not empty. -/
theorem escapedChar_ne_nil (c : Char) : escapedChar c ≠ [] := by
  unfold escapedChar
  split
  iterate 7 exact List.cons_ne_nil _ _
  split <;> exact List.cons_ne_nil _ _

/-- Escaping does not make a text shorter. -/
theorem length_le_escaped (cs : List Char) : cs.length ≤ (cs.flatMap escapedChar).length := by
  induction cs with
  | nil => exact Nat.le_refl _
  | cons c cs ih =>
    have hpos := List.length_pos_iff.mpr (escapedChar_ne_nil c)
    rw [List.flatMap_cons, List.length_append, List.length_cons]
    omega

/-- What is printed for a text is scanned as the text. -/
theorem scanText_quoted (s : String) (rest : List Char) :
    scanText (s.toList.flatMap escapedChar ++ '"' :: rest) = .ok (s, rest) := by
  have hlength := length_le_escaped s.toList
  have hfuel : s.toList.length < (s.toList.flatMap escapedChar ++ '"' :: rest).length + 1 := by
    rw [List.length_append]
    omega
  rw [scanText, scanQuoted_escaped s.toList rest hfuel]
  simp [Except.map]

end ClientGen.Json
