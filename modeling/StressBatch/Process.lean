import StressBatch.Failure
import StressBatch.Text.Lines

/-!
# Processes

A process as the one who started it can see it: it runs, it has ended, or the operating system will
not say how it fares. While it runs, its output goes to two capture files, which are read once it
has ended.
-/

namespace StressBatch

/-- How a process ended. -/
inductive Ending where
  /-- It left with an exit code. -/
  | exited (code : Nat)
  /-- A signal put an end to it. As in the status that the host gives, 128 is added to the number of
  the signal if the process left a core dump. -/
  | signaled (signal : Nat)
  deriving DecidableEq, Repr, Inhabited

namespace Ending

/-- Whether the process ended the way it was meant to. -/
def isClean : Ending → Bool
  | .exited code => code == 0
  | .signaled _ => false

/-- The names of the signals, from signal 1 on. -/
def signalNames : List String :=
  ["SIGHUP", "SIGINT", "SIGQUIT", "SIGILL", "SIGTRAP", "SIGABRT", "SIGBUS", "SIGFPE", "SIGKILL",
    "SIGUSR1", "SIGSEGV", "SIGUSR2", "SIGPIPE", "SIGALRM", "SIGTERM", "SIGSTKFLT", "SIGCHLD",
    "SIGCONT", "SIGSTOP", "SIGTSTP", "SIGTTIN", "SIGTTOU", "SIGURG", "SIGXCPU", "SIGXFSZ",
    "SIGVTALRM", "SIGPROF", "SIGWINCH", "SIGIO", "SIGPWR", "SIGSYS"]

/-- The text of a signal: its number and, if it has one, its name. -/
def signalName (signal : Nat) : String :=
  match signalNames[signal - 1]? with
  | some name => "signal: " ++ toString signal ++ " (" ++ name ++ ")"
  | none => "signal: " ++ toString signal

/-- The text of the signal that put an end to a process, which says whether a core was dumped. -/
def signalText (signal : Nat) : String :=
  if signal < 128 then signalName signal else signalName (signal % 128) ++ " (core dumped)"

/-- What is said about a worker that ended this way. -/
def message : Ending → String
  | .exited code => "Worker exited with code " ++ toString code
  | .signaled signal => "Worker terminated abnormally (" ++ signalText signal ++ ")"

end Ending

/-- What reading a capture file gives. -/
inductive Capture where
  /-- The bytes of the file. -/
  | bytes (content : Bytes)
  /-- Why the file cannot be read. -/
  | unreadable (fault : IoFault)
  deriving DecidableEq

/-- The lines of a captured stream. A stream that cannot be read has one line, which says so. -/
def Capture.lines (stream : String) : Capture → List String
  | .bytes content => Text.linesOfBytes content
  | .unreadable fault => ["Failed to read " ++ stream ++ ": " ++ fault.message]

/-- The end of a process and what it left behind. -/
structure Exit where
  /-- How it ended. -/
  ending : Ending
  /-- Its standard output. -/
  out : Capture
  /-- Its standard error. -/
  err : Capture
  deriving DecidableEq

namespace Exit

/-- The end of a process that wrote nothing. -/
def silent (ending : Ending) : Exit := ⟨ending, .bytes [], .bytes []⟩

/-- The end of a process that is killed before it has written anything. -/
def killed : Exit := silent (.signaled 9)

/-- The lines of standard output. -/
def outLines (exit : Exit) : List String := exit.out.lines "stdout"

/-- The lines of standard error. -/
def errLines (exit : Exit) : List String := exit.err.lines "stderr"

end Exit

/-- A process as the one who started it can see it. -/
inductive Process where
  /-- It could not be started. -/
  | refused (fault : IoFault)
  /-- It runs; `killed` says whether it has been sent the signal that ends it. -/
  | running (killed : Bool)
  /-- It has ended. -/
  | ended (exit : Exit)
  /-- The operating system will not say how it fares. -/
  | lost (fault : IoFault)
  deriving DecidableEq

namespace Process

/-- Whether there is nothing left to wait for. -/
def isOver : Process → Bool
  | .running _ => false
  | _ => true

/-- Sends the signal that ends a process; one that does not run takes no notice. -/
def kill : Process → Process
  | .running _ => .running true
  | process => process

/-- A running process comes to an end. -/
def finish (exit : Exit) : Process → Process
  | .running _ => .ended exit
  | process => process

/-- The operating system stops giving news of a running process. -/
def lose (fault : IoFault) : Process → Process
  | .running _ => .lost fault
  | process => process

end Process

end StressBatch
