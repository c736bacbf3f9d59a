import StressBatch.Toml.Scalar
import StressBatch.Toml.Tree

/-!
# TOML: values and whole texts

`Toml.parse?` reads a text in the TOML 1.0 notation. Values can be nested up to a fixed depth; the
reader of a value recurses on what is left of that depth.
-/

namespace StressBatch.Toml

/-! ## Values -/

/-- The items of a list behind its opening bracket, with `item` reading one of them. A comma may
stand behind the last one. -/
def listItems (item : Reader Document) (acc : List Document) : Nat → Reader Document
  | 0, _ => none
  | fuel + 1, cs =>
    match skipTrivia false cs with
    | none => none
    | some (']' :: rest) => some (.list acc.reverse, rest)
    | some cs =>
      match item cs with
      | none => none
      | some (d, rest) =>
        match skipTrivia false rest with
        | some (']' :: rest) => some (.list (d :: acc).reverse, rest)
        | some (',' :: rest) => listItems item (d :: acc) fuel rest
        | _ => none

/-- An assignment, with `value` reading its value. -/
def assignment? (value : Reader Document) : Reader Assignment := fun cs =>
  match key? (depthLimit - 1) cs with
  | some (path, '=' :: rest) => (value (skipBlanks rest)).map fun (d, rest) => ((path, d), rest)
  | _ => none

/-- The assignments of a table in braces, behind its opening brace. They are separated by commas,
and no comma stands behind the last one. -/
def inlineItems (value : Reader Document) (acc : List Assignment) : Nat → Reader (List Assignment)
  | 0, _ => none
  | fuel + 1, cs =>
    match assignment? value cs with
    | none => none
    | some (a, rest) =>
      match skipBlanks rest with
      | '}' :: rest => some ((a :: acc).reverse, rest)
      | ',' :: rest => inlineItems value (a :: acc) fuel rest
      | _ => none

/-- A table in braces, behind its opening brace. -/
def inlineTable (value : Reader Document) : Reader Document := fun cs =>
  match skipBlanks cs with
  | '}' :: rest => some (.table [], rest)
  | cs =>
    match inlineItems value [] (cs.length + 1) cs with
    | none => none
    | some (body, rest) =>
      (assignAll [] body).map fun fields => ((Node.table .declared fields).toDocument, rest)

/-- A value that is neither a list nor a table. -/
def leaf? : Reader Document := fun cs =>
  match cs with
  | '"' :: _ => (string? cs).map fun (s, rest) => (.text s, rest)
  | '\'' :: _ => (string? cs).map fun (s, rest) => (.text s, rest)
  | _ => scalar? cs

/-- A value with at most `depth` levels of brackets and braces. -/
def value? : Nat → Reader Document
  | 0, cs => leaf? cs
  | depth + 1, cs =>
    match cs with
    | '[' :: rest => listItems (value? depth) [] (rest.length + 1) rest
    | '{' :: rest => inlineTable (value? depth) rest
    | _ => leaf? cs

/-! ## Texts -/

/-- One statement. -/
inductive Statement where
  /-- An assignment. -/
  | assign (a : Assignment)
  /-- The header of a table. -/
  | header (path : List String)
  /-- The header of one more table of a list. -/
  | elementHeader (path : List String)
  deriving Repr

/-- A statement without the end of its line. -/
def statement? : Reader Statement
  | '[' :: '[' :: cs =>
    match key? (depthLimit - 1) cs with
    | some (path, ']' :: ']' :: rest) => some (.elementHeader path, rest)
    | _ => none
  | '[' :: cs =>
    match key? (depthLimit - 1) cs with
    | some (path, ']' :: rest) => some (.header path, rest)
    | _ => none
  | cs => (assignment? (value? (depthLimit - 1)) cs).map fun (a, rest) => (.assign a, rest)

/-- All statements of a text. -/
def statements? (acc : List Statement) : Nat → List Char → Option (List Statement)
  | 0, _ => none
  | fuel + 1, cs =>
    match skipBlanks cs with
    | [] => some acc.reverse
    | c :: rest =>
      if c == '\n' || c == '\r' || c == '#' then
        match endOfLine? (c :: rest) with
        | none => none
        | some rest => statements? acc fuel rest
      else
        match statement? (c :: rest) with
        | none => none
        | some (s, rest) =>
          match endOfLine? rest with
          | none => none
          | some rest => statements? (s :: acc) fuel rest

/-- Gathers the assignments below each header; `current` are the header and the assignments that are
still being gathered, the latter backwards. -/
def sections (current : List Assignment → Section) (body : List Assignment) :
    List Statement → List Section
  | [] => [current body.reverse]
  | .assign a :: rest => sections current (a :: body) rest
  | .header path :: rest => current body.reverse :: sections (.table path) [] rest
  | .elementHeader path :: rest => current body.reverse :: sections (.element path) [] rest

/-- Drops a byte order mark. -/
def skipMark : List Char → List Char
  | '\uFEFF' :: cs => cs
  | cs => cs

/-- Reads a TOML text; `none` if it breaks the grammar or defines something twice. -/
def parse? (text : String) : Option Document :=
  let cs := skipMark text.toList
  match statements? [] (cs.length + 1) cs with
  | none => none
  | some statements =>
    ((sections .root [] statements).foldlM addSection []).map fun root =>
      (Node.table .declared root).toDocument

end StressBatch.Toml
