import StressBatch.Config.Shape
import StressBatch.Toml.Parser
import StressBatch.Dotenv
import StressBatch.Text.Utf8

/-!
# Loading a configuration

A configuration comes from a TOML text, or from the defaults. Six of its settings can then be
overridden by variables; a variable that is not set, is empty, or does not read as a value of its
setting leaves the setting alone. What comes out is checked, so no configuration with a fault is
ever handed on.
-/

namespace StressBatch

open Dotenv (Variables)

/-- The value of a variable that is set and not empty. -/
def Dotenv.Variables.nonEmpty? (vars : Variables) (name : String) : Option String :=
  (vars.get? name).filter (· ≠ "")

namespace Config

/-- A truth value, written as one of two words. -/
def truth? (s : String) : Option Bool :=
  if s = "true" then some true else if s = "false" then some false else none

/-- The value that a variable gives to its setting, if `read` understands it. -/
def override? {α : Type} (vars : Variables) (name : String) (read : String → Option α) :
    Option α :=
  (vars.nonEmpty? name).bind read

/-- The configuration with the settings that variables override. -/
def applyOverrides (config : Config) (vars : Variables) : Config :=
  let word := Text.numeral? Text.word64
  { config with
    maxThreads := (override? vars "FORKSTRESS_MAX_THREADS" word).getD config.maxThreads
    spinWaitDelayMs :=
      (override? vars "FORKSTRESS_SPIN_WAIT_DELAY_MS" word).getD config.spinWaitDelayMs
    linkHost := (override? vars "FORKSTRESS_LINK_HOST" some).getD config.linkHost
    runtime := { config.runtime with
      affinity :=
        (override? vars "FORKSTRESS_AFFINITY" AffinityMode.ofName?).getD
          config.runtime.affinity
      directives := { config.runtime.directives with
        enabled :=
          (override? vars "FORKSTRESS_DIRECTIVES" truth?).getD
            config.runtime.directives.enabled
        printAssembly :=
          (override? vars "FORKSTRESS_PRINT_ASSEMBLY" truth?).getD
            config.runtime.directives.printAssembly } } }

/-- Overrides settings of a base configuration and checks the outcome. -/
def layered (base : Config) (vars : Variables) : Except Failure Config :=
  let config := base.applyOverrides vars
  match config.validate with
  | .ok () => .ok config
  | .error failure => .error failure

/-- Loads a configuration from a TOML text. -/
def ofToml (text : String) (vars : Variables) : Except Failure Config :=
  match (Toml.parse? text).bind (Config.ofDocument? .toml) with
  | none => .error (@Failure.configSyntax none)
  | some base => layered base vars

/-- What a path leads to. -/
inductive FileContent where
  /-- Nothing. -/
  | missing
  /-- A directory. -/
  | directory
  /-- A file with these bytes. -/
  | bytes (bs : Bytes)
  deriving DecidableEq, Repr

/-- Reads a file as text. -/
def FileContent.read : FileContent → Except IoFault String
  | .missing => .error .notFound
  | .directory => .error .isDirectory
  | .bytes bs =>
    match Text.Utf8.decode? bs with
    | none => .error .notUtf8
    | some text => .ok text

/-- Loads a configuration from a file. -/
def ofFile (file : FileContent) (vars : Variables) : Except Failure Config :=
  match file.read with
  | .error fault => .error (.io fault)
  | .ok text => ofToml text vars

/-- Loads a configuration from variables alone. -/
def ofVariables (vars : Variables) : Except Failure Config := layered {} vars

end Config

/-- Reads the jobs of a jobs file. -/
def jobsOfToml? (text : String) : Option (List Job) :=
  (Toml.parse? text).bind (jobsOfDocument? .toml)

end StressBatch
