import ClientGen.Value.View

/-!
# Comparing values

Two values are the same if they are equal as numbers, as texts, item by item, or as maps without
regard to the order of their keys; a truth value counts as zero or one, except among the keys of
maps. For the order, values of different kinds are ordered by their kinds, and values of one kind
by their content.
-/

namespace ClientGen.Value

/-- A number or a truth value as a number. -/
def number? : Value → Option Number
  | .flag b => some (.ofNat (if b then 1 else 0))
  | .number n => some n
  | _ => Option.none

/-- The place of a value's kind among the kinds. -/
def kindRank : Value → Nat
  | .undefined => 0
  | .none => 1
  | .flag _ => 2
  | .number _ => 3
  | .text _ | .markup _ => 4
  | .list _ => 5
  | .map _ | .object _ _ _ | .view _ => 6
  | .series _ => 7
  | .helper _ => 8

/-- Whether two values that have neither items nor entries are the same; values of different kinds
are so only if `mixed` allows it. -/
def sameScalar (mixed : Bool) (a b : Value) : Bool :=
  match a, b with
  | .undefined, .undefined | .none, .none => true
  | .helper m, .helper n => m == n
  | a, b =>
    match a.text?, b.text?, a.number?, b.number? with
    | some s, some t, _, _ => s == t
    | _, _, some m, some n => (mixed || a.kindRank == b.kindRank) && m.same n
    | _, _, _, _ => false

mutual

/-- Whether two values without views are the same. Whether values of different kinds may be so is
given for all but the keys of maps. -/
def samePlain (mixed : Bool) : Value → Value → Bool
  | .list items, b | .series items, b =>
    match b.items? with
    | some others => sameItems mixed items others
    | Option.none => false
  | .map entries, b | .object _ _ entries, b =>
    match b.entries? with
    | some others => entries.length == others.length && sameEntries mixed entries others
    | Option.none => false
  | a, b => sameScalar mixed a b

/-- Whether items are the same one by one. -/
def sameItems (mixed : Bool) : List Value → List Value → Bool
  | [], [] => true
  | a :: as, b :: bs => samePlain mixed a b && sameItems mixed as bs
  | _, _ => false

/-- Whether every entry is among the entries of another map. -/
def sameEntries (mixed : Bool) : List (Value × Value) → List (Value × Value) → Bool
  | [], _ => true
  | (key, value) :: rest, others =>
    (match others.find? fun other => samePlain false key other.1 with
      | some other => samePlain mixed value other.2
      | Option.none => false) && sameEntries mixed rest others

end

/-- Whether two values are the same. -/
def same (context : Context) (a b : Value) : Bool :=
  samePlain true (a.expand context) (b.expand context)

/-- Whether two values are the same key of a map. -/
def sameKey (context : Context) (a b : Value) : Bool :=
  samePlain false (a.expand context) (b.expand context)

/-- The order of two values of one kind that have neither items nor entries. -/
def compareScalar (a b : Value) : Ordering :=
  match a.text?, b.text?, a.number?, b.number? with
  | some s, some t, _, _ => compare s t
  | _, _, some m, some n => m.order n
  | _, _, _, _ => .eq

mutual

/-- The order of two values without views. -/
def comparePlain : Value → Value → Ordering
  | .list items, b =>
    match b with
    | .list others => compareItems items others
    | b => compare (kindRank (.list items)) b.kindRank
  | .series items, b =>
    match b with
    | .series others => compareItems items others
    | b => compare (kindRank (.series items)) b.kindRank
  | .map entries, b | .object _ _ entries, b =>
    match b.entries? with
    | some others => compareEntries entries others
    | Option.none => compare (kindRank (.map entries)) b.kindRank
  | a, b => (compare a.kindRank b.kindRank).then (compareScalar a b)

/-- The order of items, in which the first difference counts. -/
def compareItems : List Value → List Value → Ordering
  | [], [] => .eq
  | [], _ :: _ => .lt
  | _ :: _, [] => .gt
  | a :: as, b :: bs => (comparePlain a b).then (compareItems as bs)

/-- The order of entries, in which the first difference counts. -/
def compareEntries : List (Value × Value) → List (Value × Value) → Ordering
  | [], [] => .eq
  | [], _ :: _ => .lt
  | _ :: _, [] => .gt
  | (k, a) :: as, (l, b) :: bs =>
    (comparePlain k l).then ((comparePlain a b).then (compareEntries as bs))

end

/-- The order of two values. -/
def order (context : Context) (a b : Value) : Ordering :=
  comparePlain (a.expand context) (b.expand context)

end ClientGen.Value
