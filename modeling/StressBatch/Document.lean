import StressBatch.Text.Decimal

/-!
# Documents

The values that a structured text can hold, whatever its notation, and how records are read out of
them. A record is written as a table of its fields or as the list of its fields in order; a choice
is written as its name, or as a table that gives the name an empty value. Notations differ in what
counts as that empty value and in whether a list may be longer than the record; a `Dialect` says so.
-/

namespace StressBatch

/-- A value in a structured text. -/
inductive Document where
  /-- The value that is none. -/
  | null
  /-- A truth value. -/
  | bool (b : Bool)
  /-- A whole number. -/
  | int (i : Int)
  /-- A number that is not written as a whole number. -/
  | float
  /-- A date, a time or both. -/
  | date
  /-- A text. -/
  | text (s : String)
  /-- A list. -/
  | list (items : List Document)
  /-- Fields by name; no name comes twice. -/
  | table (fields : List (String × Document))
  deriving Repr, Inhabited

/-- How a notation writes records and choices. -/
structure Dialect where
  /-- Whether the value can stand beside the name of a choice in a table. -/
  isUnit : Document → Bool
  /-- Whether a list of fields may go on behind the last field. -/
  ignoresExtra : Bool

namespace Document

/-- The value of a field of a table. -/
def field? (fields : List (String × Document)) (name : String) : Option Document :=
  (fields.find? fun f => f.1 == name).map (·.2)

/-- A truth value. -/
def bool? : Document → Option Bool
  | .bool b => some b
  | _ => none

/-- A text. -/
def text? : Document → Option String
  | .text s => some s
  | _ => none

/-- A whole number from zero up to, but not including, `bound`. -/
def natBelow? (bound : Nat) : Document → Option Nat
  | .int i => if 0 ≤ i ∧ i < bound then some i.toNat else none
  | _ => none

/-- A list whose items can all be read by `item`. -/
def listOf? {α : Type} (item : Document → Option α) : Document → Option (List α)
  | .list items => items.mapM item
  | _ => none

/-- The fields of a record, in the order of `names`; a field that is not there is `none`. A date
counts as a table that has none of them. -/
def record? (dialect : Dialect) (names : List String) : Document → Option (List (Option Document))
  | .table fields => some (names.map (field? fields))
  | .list items =>
    if items.length ≤ names.length ∨ dialect.ignoresExtra then
      some (names.zipIdx.map fun n => items[n.2]?)
    else none
  | .date => some (names.map fun _ => none)
  | _ => none

/-- A choice among named values. -/
def choice? {α : Type} (dialect : Dialect) (choices : List (String × α)) : Document → Option α
  | .text s => choices.lookup s
  | .table [(name, value)] => if dialect.isUnit value then choices.lookup name else none
  | _ => none

/-- Reads a field by `read`; a field that is not there has the default value. -/
def orDefault {α : Type} (default : α) (read : Document → Option α) : Option Document → Option α
  | none => some default
  | some d => read d

/-- Reads a field by `read`; the field has to be there. -/
def required {α : Type} (read : Document → Option α) : Option Document → Option α
  | none => none
  | some d => read d

end Document

/-- JSON: the empty value of a choice is `null`, and a list of fields must not be too long. -/
def Dialect.json : Dialect where
  isUnit
    | .null => true
    | _ => false
  ignoresExtra := false

/-- TOML: the empty value of a choice is an empty table or an empty list, and what stands behind the
last field of a list is ignored. -/
def Dialect.toml : Dialect where
  isUnit
    | .table [] => true
    | .list [] => true
    | _ => false
  ignoresExtra := true

end StressBatch
