import StressBatch.Msgpack.Value

/-!
# Records in MessagePack

How records and choices are read out of values. A record is a map of its fields, whose keys are
names, given as texts or as byte sequences, or positions; or it is the list of all its fields in
order. A map may have further keys, which are skipped, but a field must not come twice. A choice is
its name, its position, or a map that gives one of the two the value nil.
-/

namespace StressBatch.Msgpack

/-- What is known about the fields of a record. -/
structure Fields where
  /-- Every field in order, if it is there. -/
  values : List (Option Value)
  /-- Whether they came as a list. -/
  positional : Bool
  deriving Repr

namespace Value

/-- The position of a name in a list of names, for a key or a choice that gives the name or the
position; `none` for anything that is neither, `some none` for a name or position that is not in the
list. -/
def position? (names : List String) : Value → Option (Option Nat)
  | .str bytes | .bin bytes => some (names.findIdx? fun name => Text.Utf8.encode name == bytes)
  | .uint n => some (if n < names.length then some n else none)
  | _ => none

/-- Enters the pairs of a map into the fields found so far. -/
def collect (names : List String) (found : List (Option Value)) :
    List (Value × Value) → Option (List (Option Value))
  | [] => some found
  | (key, value) :: entries =>
    match position? names key with
    | none => none
    | some none => collect names found entries
    | some (some i) =>
      match found[i]? with
      | some none => collect names (found.set i (some value)) entries
      | _ => none

/-- The fields of a record, in the order of `names`. -/
def fields? (names : List String) : Value → Option Fields
  | .map entries =>
    (collect names (List.replicate names.length none) entries).map fun values => ⟨values, false⟩
  | .array items =>
    if items.length ≤ names.length then
      some ⟨items.map some ++ List.replicate (names.length - items.length) none, true⟩
    else none
  | _ => none

/-- The item at a position of a list of choices. -/
def pick? {α : Type} (choices : List (String × α)) (value : Value) : Option α :=
  match position? (choices.map (·.1)) value with
  | some (some i) => (choices[i]?).map (·.2)
  | _ => none

/-- A choice among named items. -/
def choice? {α : Type} (choices : List (String × α)) : Value → Option α
  | .map [(key, .nil)] => pick? choices key
  | .map _ => none
  | value => pick? choices value

/-- A text; a byte sequence that is UTF-8 is taken for one. -/
def text? : Value → Option String
  | .str bytes | .bin bytes => Text.Utf8.decode? bytes
  | _ => none

/-- A number from zero up to, but not including, `bound`. -/
def natBelow? (bound : Nat) : Value → Option Nat
  | .uint n => if n < bound then some n else none
  | .sint i => if 0 ≤ i ∧ i < bound then some i.toNat else none
  | _ => none

/-- A list whose items can all be read by `item`. -/
def listOf? {α : Type} (item : Value → Option α) : Value → Option (List α)
  | .array items => items.mapM item
  | _ => none

/-- The pairs of a map from texts whose values can all be read by `item`. -/
def entriesOf? {α : Type} (item : Value → Option α) : Value → Option (List (String × α))
  | .map entries => entries.mapM fun entry => do return (← text? entry.1, ← item entry.2)
  | _ => none

/-- A value that may be nil. -/
def optional? {α : Type} (read : Value → Option α) : Value → Option (Option α)
  | .nil => some none
  | value => (read value).map some

end Value

namespace Fields

/-- The field at a position, which has to be there. -/
def required {α : Type} (fields : Fields) (i : Nat) (read : Value → Option α) : Option α :=
  match fields.values[i]? with
  | some (some value) => read value
  | _ => none

/-- The field at a position; a default takes its place if it is not there. -/
def orDefault {α : Type} (fields : Fields) (i : Nat) (default : α) (read : Value → Option α) :
    Option α :=
  match fields.values[i]? with
  | some (some value) => read value
  | _ => some default

/-- The field at a position, which may be nil, and which a map may leave out. -/
def optional {α : Type} (fields : Fields) (i : Nat) (read : Value → Option α) : Option (Option α) :=
  match fields.values[i]? with
  | some (some value) => Value.optional? read value
  | _ => if fields.positional then none else some none

end Fields

end StressBatch.Msgpack
