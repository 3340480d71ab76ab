import ClientGen.Value.Compare

/-!
# Parts of values

The items of lists, the characters of texts and the values that maps give to their keys: looking
one up, asking whether there is one, and taking several in steps.
-/

namespace ClientGen.Value

/-- The value that entries give to a key. -/
def lookupKey (context : Context) (entries : List (Value × Value)) (key : Value) : Option Value :=
  (entries.find? fun entry => entry.1.sameKey context key).map Prod.snd

/-- Entries after a key is bound to a value: in place if the key occurs, at the end otherwise. -/
def insertKey (context : Context) (entries : List (Value × Value)) (key value : Value) :
    List (Value × Value) :=
  match entries with
  | [] => [(key, value)]
  | (k, v) :: rest =>
    if k.sameKey context key then (k, value) :: rest
    else (k, v) :: insertKey context rest key value

/-- The part of a value at a place or under a key that another value gives. -/
def item? (context : Context) (value place : Value) : Option Value :=
  match value with
  | .list items | .series items => (place.position? items.length).bind fun i => items[i]?
  | .text s | .markup s =>
    (place.position? s.length).bind fun i => s.toList[i]?.map fun c => .text c.toString
  | .map entries | .object _ _ entries => lookupKey context entries place
  | value => place.text?.bind fun name => value.member? context name

/-- A part of a value, which is undefined if there is none; what is undefined itself cannot be
looked into. -/
def item (context : Context) (value place : Value) : Except TemplateError Value :=
  match value.item? context place with
  | some item => .ok item
  | Option.none => if value.isUndefined then .error .undefinedValue else .ok .undefined

/-- Pairs of the keys and values of a map. -/
def pairs? (context : Context) (value : Value) : Option (List Value) :=
  if value.isMap then
    value.iterate?.map fun keys => keys.map fun key =>
      .list [key, (value.item? context key).getD .undefined]
  else Option.none

/-- Whether a text occurs in another one. -/
def occursIn (needle : List Char) : List Char → Bool
  | [] => needle.isEmpty
  | c :: rest => needle.isPrefixOf (c :: rest) || occursIn needle rest

/-- Whether a value is an item, a key or a part of another value; nothing if that value has no
parts. -/
def holds? (context : Context) (whole part : Value) : Option Bool :=
  match whole with
  | .undefined | .helper _ => some false
  | .text s | .markup s => some (occursIn (part.display context).toList s.toList)
  | .list items | .series items => some (items.any fun item => item.same context part)
  | .map _ | .object _ _ _ | .view _ => some (whole.item? context part).isSome
  | .none | .flag _ | .number _ => Option.none

/-! ## Several items -/

/-- Every item at a multiple of a number that is not zero, from the first one on. -/
def everyNth {α : Type} (step : Nat) (items : List α) : List α :=
  items.zipIdx.filterMap fun (item, i) => if i % step = 0 then some item else Option.none

/-- A place from the start for one that counts from the end if it is negative, within bounds. -/
def placeWithin (low high length place : Int) : Int :=
  max low (min high (if place < 0 then place + length else place))

/-- The items from a place up to another one in steps, backwards if the step is negative. A place
that is left out is the end from which or to which the steps lead. -/
def slice {α : Type} (items : List α) (start stop : Option Int) (step : Int) : List α :=
  let n : Int := items.length
  if 0 < step then
    let first := (start.map (placeWithin 0 n n)).getD 0
    let last := (stop.map (placeWithin 0 n n)).getD n
    everyNth step.toNat ((items.take last.toNat).drop first.toNat)
  else
    let first := (start.map (placeWithin (-1) (n - 1) n)).getD (n - 1)
    let last := (stop.map (placeWithin (-1) (n - 1) n)).getD (-1)
    everyNth (-step).toNat ((items.take (first + 1).toNat).drop (last + 1).toNat).reverse

end ClientGen.Value
