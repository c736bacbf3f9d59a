import StressBatch.Process
import StressBatch.Text.Decimal

/-!
# A small shell

The part of the shell language that scripts standing in for a runtime are written in: simple
commands joined by `;`, a line feed, `&&` or `||`, with quotes, positional parameters and
redirection to the standard error. A script runs to its end at once, for none of its commands waits
for anything.
-/

namespace StressBatch.Shell

/-! ## Words -/

/-- When a command is run. -/
inductive Joint where
  /-- In any case. -/
  | always
  /-- If the command before it succeeded. -/
  | onSuccess
  /-- If the command before it failed. -/
  | onFailure
  deriving DecidableEq, Repr

/-- A piece of a script. -/
inductive Piece where
  /-- A word of a command. -/
  | word (text : String)
  /-- The command writes to standard error instead of standard output. -/
  | toError
  /-- What the command writes is thrown away. -/
  | toNowhere
  /-- The end of a command, and when the next one is run. -/
  | joint (joint : Joint)
  deriving DecidableEq, Repr

/-- How the next character of a script is to be read. -/
inductive Quoting where
  /-- As it is. -/
  | plain
  /-- Between single quotes. -/
  | single
  /-- Between double quotes. -/
  | double
  deriving DecidableEq, Repr

/-- What `$$` stands for: the shell itself, whose number is nobody's business. -/
def itself : String := "$$"

/-- What a parameter stands for. -/
def parameter (params : List String) (c : Char) : Option String :=
  if c = '$' then some itself
  else if c = '#' then some (toString (params.length - 1))
  else if c = '@' ∨ c = '*' then some (String.intercalate " " (params.drop 1))
  else (Text.digit? c).map fun n => (params[n]?).getD ""

/-- The word that has been read so far, if there is one. -/
def finished (word : Option (List Char)) : List Piece :=
  (word.map fun cs => Piece.word (String.ofList cs)).toList

/-- Adds characters to a word. -/
def extend (word : Option (List Char)) (cs : List Char) : Option (List Char) :=
  some (word.getD [] ++ cs)

/-- Cuts a script into pieces. -/
def pieces (params : List String) : Quoting → Option (List Char) → List Char → List Piece
  | _, word, [] => finished word
  | .single, word, '\'' :: cs => pieces params .plain word cs
  | .single, word, c :: cs => pieces params .single (extend word [c]) cs
  | .double, word, '"' :: cs => pieces params .plain word cs
  | .double, word, '\\' :: '"' :: cs => pieces params .double (extend word ['"']) cs
  | .double, word, '\\' :: '\\' :: cs => pieces params .double (extend word ['\\']) cs
  | .double, word, '\\' :: '$' :: cs => pieces params .double (extend word ['$']) cs
  | .plain, word, '\\' :: c :: cs => pieces params .plain (extend word [c]) cs
  | quoting, word, '$' :: c :: cs =>
    match parameter params c with
    | some text => pieces params quoting (extend word text.toList) cs
    | none => pieces params quoting (extend word ['$', c]) cs
  | .double, word, c :: cs => pieces params .double (extend word [c]) cs
  | .plain, word, '\'' :: cs => pieces params .single (extend word []) cs
  | .plain, word, '"' :: cs => pieces params .double (extend word []) cs
  | .plain, word, '1' :: '>' :: '&' :: '2' :: cs =>
    finished word ++ .toError :: pieces params .plain none cs
  | .plain, word, '>' :: '&' :: '2' :: cs =>
    finished word ++ .toError :: pieces params .plain none cs
  | .plain, word, '>' :: '/' :: 'd' :: 'e' :: 'v' :: '/' :: 'n' :: 'u' :: 'l' :: 'l' :: cs =>
    finished word ++ .toNowhere :: pieces params .plain none cs
  | .plain, word, '&' :: '&' :: cs =>
    finished word ++ .joint .onSuccess :: pieces params .plain none cs
  | .plain, word, '|' :: '|' :: cs =>
    finished word ++ .joint .onFailure :: pieces params .plain none cs
  | .plain, word, c :: cs =>
    if c = ' ' ∨ c = '\t' then finished word ++ pieces params .plain none cs
    else if c = ';' ∨ c = '\n' then
      finished word ++ .joint .always :: pieces params .plain none cs
    else pieces params .plain (extend word [c]) cs

/-! ## Commands -/

/-- A command and when it is run. -/
structure Command where
  /-- When it is run. -/
  joint : Joint
  /-- Its words. -/
  words : List String := []
  /-- Whether it writes to standard error. -/
  toError : Bool := false
  /-- Whether what it writes is thrown away. -/
  toNowhere : Bool := false
  deriving Repr

/-- Adds a piece to the commands read so far, the last of which comes first. -/
def addPiece (commands : List Command) (piece : Piece) : List Command :=
  match piece, commands with
  | .joint joint, commands => { joint := joint } :: commands
  | _, [] => []
  | .word text, command :: rest => { command with words := command.words ++ [text] } :: rest
  | .toError, command :: rest => { command with toError := true } :: rest
  | .toNowhere, command :: rest => { command with toNowhere := true } :: rest

/-- The commands of a script. -/
def commands (script : String) (params : List String) : List Command :=
  ((pieces params .plain none script.toList).foldl addPiece [{ joint := .always }]).reverse

/-- What a script has come to. -/
structure Running where
  /-- What it has written to standard output. -/
  out : String := ""
  /-- What it has written to standard error. -/
  err : String := ""
  /-- The exit code of the last command. -/
  code : Nat := 0
  /-- How the script ended, if a command put an end to it. -/
  ending : Option Ending := none
  deriving Repr

/-- Writes a text where a command writes to. -/
def Running.write (running : Running) (command : Command) (text : String) : Running :=
  if command.toNowhere then { running with code := 0 }
  else if command.toError then { running with err := running.err ++ text, code := 0 }
  else { running with out := running.out ++ text, code := 0 }

/-- The number of a signal that is given by its number or its name. -/
def signal? (text : String) : Option Nat :=
  match Text.numeral? 65 text with
  | some n => some n
  | none =>
    (Ending.signalNames.findIdx? fun name => name == text || name == "SIG" ++ text).map (· + 1)

/-- Sends a signal, which must be to the shell itself. -/
def Running.signal (running : Running) (name target : String) : Running :=
  match signal? name with
  | some n =>
    if target = itself ∧ 0 < n then { running with ending := some (.signaled n) }
    else { running with code := if target = itself then 0 else 1 }
  | none => { running with code := 1 }

/-- A kill command. -/
def Running.kill (running : Running) : List String → Running
  | [target] => running.signal "TERM" target
  | ["-s", name, target] => running.signal name target
  | [flag, target] => running.signal (String.ofList (flag.toList.drop 1)) target
  | _ => { running with code := 1 }

/-- The characters that the escapes of a format stand for. -/
def unescape : List Char → List Char
  | '\\' :: 'n' :: cs => '\n' :: unescape cs
  | '\\' :: 't' :: cs => '\t' :: unescape cs
  | '\\' :: 'r' :: cs => '\r' :: unescape cs
  | '\\' :: '\\' :: cs => '\\' :: unescape cs
  | '%' :: '%' :: cs => '%' :: unescape cs
  | c :: cs => c :: unescape cs
  | [] => []

/-- Runs a command. `shell` is the name that complaints are made under. -/
def Running.run (shell : String) (running : Running) (command : Command) : Running :=
  match command.words with
  | [] => running
  | "exit" :: rest =>
    let code :=
      match rest with
      | n :: _ => ((Text.numeral? Text.word64 n).getD 2) % 256
      | [] => running.code
    { running with ending := some (.exited code) }
  | "echo" :: "-n" :: rest => running.write command (String.intercalate " " rest)
  | "echo" :: rest => running.write command (String.intercalate " " rest ++ "\n")
  | "printf" :: format :: _ =>
    running.write command (String.ofList (unescape format.toList))
  | "kill" :: rest => running.kill rest
  | "sleep" :: _ | "true" :: _ | ":" :: _ => { running with code := 0 }
  | "false" :: _ => { running with code := 1 }
  | name :: _ =>
    { running with err := running.err ++ shell ++ ": 1: " ++ name ++ ": not found\n", code := 127 }

/-- Runs a command if it is its turn and nothing has put an end to the script. -/
def Running.turn (shell : String) (running : Running) (command : Command) : Running :=
  if running.ending.isSome then running
  else
    match command.joint with
    | .always => running.run shell command
    | .onSuccess => if running.code = 0 then running.run shell command else running
    | .onFailure => if running.code = 0 then running else running.run shell command

/-- Runs a script with its parameters, the first of which is the name of the shell. -/
def run (script : String) (params : List String) : Exit :=
  let params := if params.isEmpty then ["sh"] else params
  let shell := params.headD "sh"
  let running := (commands script params).foldl (Running.turn shell) {}
  ⟨running.ending.getD (.exited running.code),
    .bytes (Text.Utf8.encode running.out), .bytes (Text.Utf8.encode running.err)⟩

end StressBatch.Shell
