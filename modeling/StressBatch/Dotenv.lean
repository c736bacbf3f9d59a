import StressBatch.Text.Alphanumeric
import StressBatch.Text.Blank
import StressBatch.Text.Utf8

/-!
# Variable files

A variable file sets variables line by line, `NAME=value`. A value may be quoted, may run over
several lines inside quotes, and may refer to variables that are set already. Reading stops at the
first line that is malformed; what the lines before it set stays set. A variable that the process
already has, even an empty one, is never changed.

The file is cut into logical lines first (`logicalLines`), and each of these is then read on its own
(`readLine`).
-/

namespace StressBatch.Dotenv

/-- The variables of a process. -/
abbrev Variables := List (String × String)

/-- The value of a variable. -/
def Variables.get? (vars : Variables) (name : String) : Option String := vars.lookup name

/-! ## Logical lines -/

/-- Whether the text read so far can end a logical line. -/
inductive Scan where
  /-- Outside of quotes. -/
  | complete
  /-- Behind a backslash outside of quotes. -/
  | escape
  /-- Between single quotes. -/
  | strong
  /-- Behind a backslash between single quotes. -/
  | strongEscape
  /-- Between double quotes. -/
  | weak
  /-- Behind a backslash between double quotes. -/
  | weakEscape
  /-- Behind white space outside of quotes. -/
  | space
  /-- Inside a comment. -/
  | comment
  deriving DecidableEq, Repr

/-- The state behind one more character. -/
def Scan.next (state : Scan) (c : Char) : Scan :=
  match state with
  | .space =>
    if c == '#' then .comment
    else if c == '\\' then .escape
    else if c == '"' then .weak
    else if c == '\'' then .strong
    else .complete
  | .escape => .complete
  | .complete =>
    if Text.isWhite c && c != '\n' && c != '\r' then .space
    else if c == '\\' then .escape
    else if c == '"' then .weak
    else if c == '\'' then .strong
    else .complete
  | .weak => if c == '\\' then .weakEscape else if c == '"' then .complete else .weak
  | .weakEscape => .weak
  | .strong => if c == '\\' then .strongEscape else if c == '\'' then .complete else .strong
  | .strongEscape => .strong
  | .comment => .comment

/-- Scans the characters of a physical line up to a comment: the state at the end, and the
characters in front of the comment. -/
def scanLine (state : Scan) : List Char → Scan × List Char
  | [] => (state, [])
  | c :: cs =>
    match state.next c with
    | .comment => (.comment, [])
    | state =>
      let (final, kept) := scanLine state cs
      (final, c :: kept)

/-- The physical lines of a text, each with its line feed. -/
def physicalLines : List Char → List (List Char)
  | [] => []
  | '\n' :: cs => ['\n'] :: physicalLines cs
  | c :: cs =>
    match physicalLines cs with
    | [] => [[c]]
    | l :: ls => (c :: l) :: ls

/-- Drops the line ending of a line. -/
def dropEnding (cs : List Char) : List Char :=
  match cs.reverse with
  | '\n' :: '\r' :: rest => rest.reverse
  | '\n' :: rest => rest.reverse
  | _ => cs

/-- The logical lines of a text; `none` stands for one that the text breaks off. `buffer` holds the
part of the current logical line that has been read, and `state` is the state behind it. -/
def logicalLines (buffer : List Char) (state : Scan) : List (List Char) → List (Option (List Char))
  | [] => if state = .complete then [] else [none]
  | line :: lines =>
    let whole := buffer ++ line
    if (Text.trimFront whole).head? = some '#' then
      some [] :: logicalLines [] .complete lines
    else
      match scanLine state line with
      | (.complete, _) => some (dropEnding whole) :: logicalLines [] .complete lines
      | (.comment, kept) => some (buffer ++ kept) :: logicalLines [] .complete lines
      | (state, _) => logicalLines whole state lines

/-! ## One line -/

/-- What values may refer to: the variables of the process, and those that earlier lines gave. -/
structure Known where
  /-- The variables of the process. -/
  process : Variables
  /-- What earlier lines of the file gave, the latest first. -/
  earlier : Variables
  deriving Repr

/-- The value that stands for a reference; the process counts before the file. -/
def Known.value (known : Known) (name : String) : String :=
  match known.process.get? name with
  | some value => value
  | none => (known.earlier.get? name).getD ""

/-- How far the reading of a value has come. -/
inductive Mode where
  /-- Outside of quotes. -/
  | bare
  /-- Between single quotes. -/
  | strong
  /-- Between double quotes. -/
  | weak
  /-- Behind the blank that ends a value. -/
  | ended
  deriving DecidableEq, Repr

/-- Inside which reference the reading of a value stands. -/
inductive Reference where
  /-- In none. -/
  | none
  /-- Behind a dollar sign. -/
  | open
  /-- Behind a dollar sign and a brace. -/
  | braced
  deriving DecidableEq, Repr

/-- The reading of a value, character by character. -/
structure Cursor where
  /-- Where the reading stands with respect to quotes. -/
  mode : Mode := .bare
  /-- Whether the character before was a backslash that escapes this one. -/
  escaped : Bool := false
  /-- Where the reading stands with respect to references. -/
  reference : Reference := .none
  /-- The name of the reference, backwards. -/
  name : List Char := []
  /-- What has been read, backwards. -/
  output : List Char := []
  deriving Repr

namespace Cursor

/-- Adds one character to the output. -/
def push (cursor : Cursor) (c : Char) : Cursor := { cursor with output := c :: cursor.output }

/-- Puts the value of the reference into the output. -/
def substitute (cursor : Cursor) (known : Known) : Cursor :=
  let value := known.value (String.ofList cursor.name.reverse)
  { cursor with output := value.toList.reverse ++ cursor.output, name := [] }

/-- Reads a character inside a reference. -/
def inReference (cursor : Cursor) (known : Known) (c : Char) : Cursor :=
  if Text.isAlphanumeric c then { cursor with name := c :: cursor.name }
  else
    match cursor.reference with
    | .none => cursor
    | .open =>
      if c == '{' && cursor.name.isEmpty then { cursor with reference := .braced }
      else
        let cursor := cursor.substitute known
        if c == '$' then { cursor with reference := .open }
        else { cursor with reference := .none }.push c
    | .braced =>
      if c == '}' then { cursor.substitute known with reference := .none }
      else { cursor with name := c :: cursor.name }

/-- Reads one character; `none` ends the reading with a failure. -/
def read (cursor : Cursor) (known : Known) (c : Char) : Option Cursor :=
  if cursor.mode = .ended then
    if c == ' ' || c == '\t' then some cursor else none
  else if cursor.escaped then
    if c == '\\' || c == '\'' || c == '"' || c == '$' || c == ' ' then
      some { cursor.push c with escaped := false }
    else if c == 'n' then some { cursor.push '\n' with escaped := false }
    else none
  else if cursor.mode = .strong then
    if c == '\'' then some { cursor with mode := .bare } else some (cursor.push c)
  else if cursor.reference ≠ .none then some (cursor.inReference known c)
  else if c == '$' then some { cursor with reference := .open }
  else if cursor.mode = .weak then
    if c == '"' then some { cursor with mode := .bare }
    else if c == '\\' then some { cursor with escaped := true }
    else some (cursor.push c)
  else if c == '\'' then some { cursor with mode := .strong }
  else if c == '"' then some { cursor with mode := .weak }
  else if c == '\\' then some { cursor with escaped := true }
  else if c == ' ' || c == '\t' then some { cursor with mode := .ended }
  else some (cursor.push c)

/-- Reads the characters of a value, up to a comment behind it. -/
def readAll (cursor : Cursor) (known : Known) : List Char → Option Cursor
  | [] => some cursor
  | c :: cs =>
    if cursor.mode = .ended ∧ c = '#' then some cursor
    else
      match cursor.read known c with
      | none => none
      | some cursor => readAll cursor known cs

end Cursor

/-- Reads a value; quotes and braces must be closed. -/
def value? (known : Known) (cs : List Char) : Option String :=
  match ({} : Cursor).readAll known cs with
  | none => none
  | some cursor =>
    if cursor.reference = .braced ∨ cursor.mode = .strong ∨ cursor.mode = .weak then none
    else some (String.ofList (cursor.substitute known).output.reverse)

/-- Reads the name of a variable. -/
def name? (cs : List Char) : Option (String × List Char) :=
  match cs with
  | [] => none
  | c :: _ =>
    if c.isAlpha || c == '_' then
      let isNameChar c := c.isAlphanum || c == '_' || c == '.'
      some (String.ofList (cs.takeWhile isNameChar), cs.dropWhile isNameChar)
    else none

/-- Reads the name of a variable and the equals sign. The word `export` may stand in front. -/
def assigned? (cs : List Char) : Option (String × List Char) :=
  match name? cs with
  | none => none
  | some (name, rest) =>
    match Text.trimFront rest with
    | '=' :: rest => some (name, rest)
    | rest =>
      if name = "export" then
        match name? rest with
        | none => none
        | some (name, rest) =>
          match Text.trimFront rest with
          | '=' :: rest => some (name, rest)
          | _ => none
      else none

/-- What a logical line says. -/
inductive Line where
  /-- Nothing. -/
  | empty
  /-- The value of a variable. -/
  | assign (name value : String)
  /-- Something that cannot be understood. -/
  | malformed
  deriving DecidableEq, Repr

/-- Reads a logical line. -/
def readLine (known : Known) (line : List Char) : Line :=
  let cs := Text.trimFront (Text.trimBack line)
  match cs with
  | [] => .empty
  | '#' :: _ => .empty
  | cs =>
    match assigned? cs with
    | none => .malformed
    | some (name, rest) =>
      match Text.trimFront rest with
      | [] => .assign name ""
      | '#' :: _ => .assign name ""
      | rest =>
        match value? known rest with
        | none => .malformed
        | some value => .assign name value

/-! ## Files -/

/-- Sets variables line by line, up to the first malformed line. A variable that is there already
stays as it is. -/
def loadLines (known : Known) : List (Option (List Char)) → Variables
  | [] => known.process
  | none :: _ => known.process
  | some line :: lines =>
    match readLine known line with
    | .malformed => known.process
    | .empty => loadLines known lines
    | .assign name value =>
      let process :=
        if (known.process.get? name).isSome then known.process
        else known.process ++ [(name, value)]
      loadLines ⟨process, (name, value) :: known.earlier⟩ lines

/-- The variables of a process after it has loaded a file given by its characters. -/
def load (process : Variables) (file : List Char) : Variables :=
  let cs :=
    match file with
    | '\uFEFF' :: cs => cs
    | cs => cs
  loadLines ⟨process, []⟩ (logicalLines [] .complete (physicalLines cs))

/-- The bytes of the physical lines that are well formed, up to the first that is not. -/
def readable : List Bytes → Bytes
  | [] => []
  | line :: lines =>
    match Text.Utf8.decodeChars? line with
    | none => []
    | some _ => line ++ readable lines

/-- Cuts bytes behind every line feed. -/
def cutLines : Bytes → List Bytes
  | [] => []
  | b :: bs =>
    if b == 10 then [b] :: cutLines bs
    else
      match cutLines bs with
      | [] => [[b]]
      | l :: ls => (b :: l) :: ls

/-- The variables of a process after it has loaded a file given by its bytes. A line that is not
well-formed UTF-8 ends the reading. -/
def loadBytes (process : Variables) (file : Bytes) : Variables :=
  let lines := cutLines file
  let kept := readable lines
  let cs := (Text.Utf8.decodeChars? kept).getD []
  if kept.length = file.length then load process cs
  else
    let cs :=
      match cs with
      | '\uFEFF' :: cs => cs
      | cs => cs
    loadLines ⟨process, []⟩ (logicalLines [] .complete (physicalLines cs) ++ [none])

end StressBatch.Dotenv
