import StressBatch.Document

/-!
# TOML: the tree of tables

Assignments and table headers put values into a tree of tables. A table remembers how it came to be,
because that decides what may be added to it later: a table that was given its own header is
complete once the next header comes, while one that only lies on the way to another can still get a
header.
-/

namespace StressBatch.Toml

/-- How a table came to be. -/
inductive TableKind where
  /-- By a header of its own. -/
  | declared
  /-- As a step on the way of a longer header. -/
  | implied
  /-- As a step on the way of a key with dots. -/
  | dotted
  deriving DecidableEq, Repr

/-- A node of the tree. -/
inductive Node where
  /-- A value that was assigned. -/
  | value (d : Document)
  /-- A table. -/
  | table (kind : TableKind) (fields : List (String × Node))
  /-- The tables of a list that is written as one header per table. -/
  | tables (elements : List (List (String × Node)))
  deriving Repr, Inhabited

/-- The fields of a table. -/
abbrev Fields := List (String × Node)

namespace Fields

/-- The node of a name. -/
def get? (fields : Fields) (name : String) : Option Node :=
  (fields.find? fun f => f.1 == name).map (·.2)

/-- Sets the node of a name. -/
def set (fields : Fields) (name : String) (node : Node) : Fields :=
  match fields with
  | [] => [(name, node)]
  | (n, old) :: rest => if n == name then (n, node) :: rest else (n, old) :: set rest name node

/-- Assigns a value to a key. The tables on the way must be open to keys with dots, and the last of
them must itself stem from such a key. -/
def assign (fields : Fields) (path : List String) (name : String) (value : Document) :
    Option Fields :=
  match path with
  | [] => if (fields.get? name).isSome then none else some (fields.set name (.value value))
  | step :: path =>
    match fields.get? step with
    | none => (assign [] path name value).map fun inner => fields.set step (.table .dotted inner)
    | some (.value _) => none
    | some (.table kind inner) =>
      if kind = .declared ∨ (path = [] ∧ kind ≠ .dotted) then none
      else (assign inner path name value).map fun inner => fields.set step (.table kind inner)
    | some (.tables elements) =>
      match elements.getLast? with
      | none => none
      | some last =>
        if path = [] then none
        else (assign last path name value).map fun last =>
          fields.set step (.tables (elements.dropLast ++ [last]))

/-- Changes the table at the end of a header's path by `update`. The tables on the way are made
where they are missing, and of a list of tables the last one counts. -/
def descend (fields : Fields) (path : List String) (update : Fields → Option Fields) :
    Option Fields :=
  match path with
  | [] => update fields
  | step :: path =>
    match fields.get? step with
    | none => (descend [] path update).map fun inner => fields.set step (.table .implied inner)
    | some (.value _) => none
    | some (.table kind inner) =>
      (descend inner path update).map fun inner => fields.set step (.table kind inner)
    | some (.tables elements) =>
      match elements.getLast? with
      | none => none
      | some last => (descend last path update).map fun last =>
          fields.set step (.tables (elements.dropLast ++ [last]))

end Fields

/-- An assignment: the key and the value. -/
abbrev Assignment := List String × Document

/-- The assignments below one header. -/
inductive Section where
  /-- Those in front of all headers. -/
  | root (body : List Assignment)
  /-- Those of a table. -/
  | table (path : List String) (body : List Assignment)
  /-- Those of one more table of a list. -/
  | element (path : List String) (body : List Assignment)
  deriving Repr

/-- Makes assignments one after the other. -/
def assignAll (fields : Fields) (body : List Assignment) : Option Fields :=
  body.foldlM (fun fields a =>
    match a.1.getLast? with
    | none => none
    | some name => fields.assign a.1.dropLast name a.2) fields

/-- Adds a section to the tree. -/
def addSection (root : Fields) : Section → Option Fields
  | .root body => assignAll root body
  | .table path body =>
    match path.getLast? with
    | none => none
    | some name =>
      root.descend path.dropLast fun parent =>
        match parent.get? name with
        | none => (assignAll [] body).map fun fields => parent.set name (.table .declared fields)
        | some (.table .implied old) =>
          (assignAll old body).map fun fields => parent.set name (.table .declared fields)
        | some _ => none
  | .element path body =>
    match path.getLast? with
    | none => none
    | some name =>
      root.descend path.dropLast fun parent =>
        match parent.get? name with
        | none => (assignAll [] body).map fun fields => parent.set name (.tables [fields])
        | some (.tables elements) =>
          (assignAll [] body).map fun fields => parent.set name (.tables (elements ++ [fields]))
        | some _ => none

mutual

/-- The document of a node. -/
def Node.toDocument : Node → Document
  | .value d => d
  | .table _ fields => .table (fieldsToDocument fields)
  | .tables elements => .list (elementsToDocument elements)

/-- The documents of fields. -/
def fieldsToDocument : List (String × Node) → List (String × Document)
  | [] => []
  | (name, node) :: rest => (name, node.toDocument) :: fieldsToDocument rest

/-- The documents of a list of tables. -/
def elementsToDocument : List (List (String × Node)) → List Document
  | [] => []
  | fields :: rest => .table (fieldsToDocument fields) :: elementsToDocument rest

end

end StressBatch.Toml
