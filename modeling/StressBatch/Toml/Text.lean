/-!
# TOML: blanks, keys and strings

Readers for the small parts of a TOML text. Each takes the characters that are left and gives what
it has read together with the characters behind it, or `none` if the text breaks the grammar.
Readers that loop take a bound on their rounds; the number of characters left is always enough.
-/

namespace StressBatch.Toml

/-- Reads something off the front of a text. -/
abbrev Reader (α : Type) := List Char → Option (α × List Char)

/-! ## Blanks, comments and ends of lines -/

/-- Drops spaces and tabs. -/
def skipBlanks (cs : List Char) : List Char :=
  cs.dropWhile fun c => c == ' ' || c == '\t'

/-- The text behind a line ending, if one comes first. -/
def newline? : List Char → Option (List Char)
  | '\n' :: cs => some cs
  | '\r' :: '\n' :: cs => some cs
  | _ => none

/-- Whether a character may stand in a comment: a tab, or anything that is no control character of
ASCII. -/
def isCommentChar (c : Char) : Bool :=
  c == '\t' || (0x20 ≤ c.toNat && c.toNat != 0x7F)

/-- The text behind a comment, if one comes first; the line ending is left. -/
def skipComment (cs : List Char) : List Char :=
  match cs with
  | '#' :: rest => rest.dropWhile isCommentChar
  | _ => cs

/-- The text behind the end of a statement: blanks, perhaps a comment, and a line ending or the end
of the text. -/
def endOfLine? (cs : List Char) : Option (List Char) :=
  match skipComment (skipBlanks cs) with
  | [] => some []
  | rest => newline? rest

/-- Drops blanks, line endings and comments, as they may stand between the items of a list. Inside a
comment (`inComment`) everything up to the line ending is dropped. -/
def skipTrivia (inComment : Bool) : List Char → Option (List Char)
  | [] => if inComment then none else some []
  | '\n' :: cs => skipTrivia false cs
  | '\r' :: cs =>
    match cs with
    | '\n' :: rest => skipTrivia false rest
    | _ => none
  | c :: cs =>
    if inComment then
      if isCommentChar c then skipTrivia true cs else none
    else if c == ' ' || c == '\t' then skipTrivia false cs
    else if c == '#' then skipTrivia true cs
    else some (c :: cs)

/-! ## Strings -/

/-- The value of a hexadecimal digit. -/
def hexDigit? (c : Char) : Option Nat :=
  let n := c.toNat
  if 48 ≤ n ∧ n ≤ 57 then some (n - 48)
  else if 97 ≤ n ∧ n ≤ 102 then some (n - 87)
  else if 65 ≤ n ∧ n ≤ 70 then some (n - 55)
  else none

/-- The character whose code point is written with exactly `count` hexadecimal digits. -/
def codePoint? (count : Nat) : Reader Char := fun cs =>
  let digits := cs.take count
  if digits.length = count then
    match digits.mapM hexDigit? with
    | none => none
    | some values =>
      let n := values.foldl (fun acc v => acc * 16 + v) 0
      if n.isValidChar then some (Char.ofNat n, cs.drop count) else none
  else none

/-- The character of an escape sequence, behind its backslash. -/
def escape? : Reader Char
  | 'b' :: cs => some ('\x08', cs)
  | 't' :: cs => some ('\t', cs)
  | 'n' :: cs => some ('\n', cs)
  | 'f' :: cs => some ('\x0c', cs)
  | 'r' :: cs => some ('\r', cs)
  | '"' :: cs => some ('"', cs)
  | '\\' :: cs => some ('\\', cs)
  | 'u' :: cs => codePoint? 4 cs
  | 'U' :: cs => codePoint? 8 cs
  | _ => none

/-- Whether a character may stand for itself within a string. -/
def isPlain (c : Char) : Bool := isCommentChar c

/-- The rest of a one-line string with escapes; `acc` is what has been read, backwards. -/
def basicString (acc : List Char) : Nat → Reader String
  | 0, _ => none
  | fuel + 1, cs =>
    match cs with
    | [] => none
    | '"' :: rest => some (String.ofList acc.reverse, rest)
    | '\\' :: rest =>
      match escape? rest with
      | none => none
      | some (c, rest) => basicString (c :: acc) fuel rest
    | c :: rest => if isPlain c then basicString (c :: acc) fuel rest else none

/-- The rest of a one-line string without escapes. -/
def literalString (acc : List Char) : Reader String
  | [] => none
  | '\'' :: rest => some (String.ofList acc.reverse, rest)
  | c :: rest => if isPlain c then literalString (c :: acc) rest else none

/-- Splits a run of the character `q` off the front: its length and what stands behind it. -/
def quoteRun (q : Char) (cs : List Char) : Nat × List Char :=
  ((cs.takeWhile (· == q)).length, cs.dropWhile (· == q))

/-- What a run of quotes means inside a string that three of them end: `none` if the run is part of
the text, otherwise how many of them are. A run can hold at most two quotes of text before the three
that end the string. -/
def closing? (run : Nat) : Option Nat :=
  if run < 3 then none else some (min (run - 3) 2)

/-- The text behind a backslash at the end of a line: the blanks and line endings up to the next
other character are no part of the string. -/
def lineContinuation? (cs : List Char) : Option (List Char) :=
  match newline? (skipBlanks cs) with
  | none => none
  | some rest => some (go rest rest.length)
where
  /-- Drops blanks and line endings. -/
  go (cs : List Char) : Nat → List Char
    | 0 => cs
    | fuel + 1 =>
      match newline? (skipBlanks cs) with
      | some rest => go rest fuel
      | none => skipBlanks cs

/-- The rest of a string over several lines with escapes. -/
def multiBasicString (acc : List Char) : Nat → Reader String
  | 0, _ => none
  | fuel + 1, cs =>
    match cs with
    | [] => none
    | '"' :: _ =>
      let (run, rest) := quoteRun '"' cs
      match closing? run with
      | none => multiBasicString (List.replicate run '"' ++ acc) fuel rest
      | some inText =>
        some (String.ofList (List.replicate inText '"' ++ acc).reverse, cs.drop (inText + 3))
    | '\\' :: rest =>
      match lineContinuation? rest with
      | some rest => multiBasicString acc fuel rest
      | none =>
        match escape? rest with
        | none => none
        | some (c, rest) => multiBasicString (c :: acc) fuel rest
    | c :: rest =>
      match newline? cs with
      | some rest => multiBasicString ('\n' :: acc) fuel rest
      | none => if isPlain c then multiBasicString (c :: acc) fuel rest else none

/-- The rest of a string over several lines without escapes. -/
def multiLiteralString (acc : List Char) : Nat → Reader String
  | 0, _ => none
  | fuel + 1, cs =>
    match cs with
    | [] => none
    | '\'' :: _ =>
      let (run, rest) := quoteRun '\'' cs
      match closing? run with
      | none => multiLiteralString (List.replicate run '\'' ++ acc) fuel rest
      | some inText =>
        some (String.ofList (List.replicate inText '\'' ++ acc).reverse, cs.drop (inText + 3))
    | c :: rest =>
      match newline? cs with
      | some rest => multiLiteralString ('\n' :: acc) fuel rest
      | none => if isPlain c then multiLiteralString (c :: acc) fuel rest else none

/-- Drops the line ending right behind the quotes that open a string over several lines. -/
def skipFirstNewline (cs : List Char) : List Char := (newline? cs).getD cs

/-- A one-line string. -/
def lineString? : Reader String
  | '"' :: cs => basicString [] (cs.length + 1) cs
  | '\'' :: cs => literalString [] cs
  | _ => none

/-- A string of any of the four kinds. -/
def string? : Reader String
  | '"' :: '"' :: '"' :: cs => multiBasicString [] (cs.length + 1) (skipFirstNewline cs)
  | '\'' :: '\'' :: '\'' :: cs => multiLiteralString [] (cs.length + 1) (skipFirstNewline cs)
  | cs => lineString? cs

/-! ## Keys -/

/-- Whether a character may stand in a key without quotes. -/
def isBareKeyChar (c : Char) : Bool :=
  c.isAlphanum || c == '-' || c == '_'

/-- One part of a key. -/
def simpleKey? : Reader String := fun cs =>
  match cs with
  | '"' :: _ => lineString? cs
  | '\'' :: _ => lineString? cs
  | _ =>
    let bare := cs.takeWhile isBareKeyChar
    if bare.isEmpty then none else some (String.ofList bare, cs.dropWhile isBareKeyChar)

/-- A key with at most `fuel` parts, which are separated by dots; blanks may stand around each. -/
def key? : Nat → Reader (List String)
  | 0, _ => none
  | fuel + 1, cs =>
    match simpleKey? (skipBlanks cs) with
    | none => none
    | some (part, rest) =>
      match skipBlanks rest with
      | '.' :: rest => (key? fuel rest).map fun (parts, rest) => (part :: parts, rest)
      | rest => some ([part], rest)

/-- The first number of key parts, or of levels of brackets, that is too large. -/
def depthLimit : Nat := 80

end StressBatch.Toml
