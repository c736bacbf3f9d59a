import StressBatch.Config.Basic
import StressBatch.Document

/-!
# The shape of configurations and jobs

How settings and jobs are read out of a document. Every setting may be left out; of a job only the
launch arguments may.
-/

namespace StressBatch

open Document

/-- The names of the directive settings, in order. -/
def DirectivesConfig.fieldNames : List String :=
  ["enabled", "flag", "sync_helper", "extra_inline", "print_assembly"]

/-- Reads directive settings. -/
def DirectivesConfig.ofDocument? (dialect : Dialect) (d : Document) : Option DirectivesConfig := do
  match ← record? dialect fieldNames d with
  | [enabled, flag, syncHelper, extraInline, printAssembly] =>
    let base : DirectivesConfig := {}
    return {
      enabled := ← orDefault base.enabled bool? enabled
      flag := ← orDefault base.flag text? flag
      syncHelper := ← orDefault base.syncHelper text? syncHelper
      extraInline := ← orDefault base.extraInline (listOf? text?) extraInline
      printAssembly := ← orDefault base.printAssembly bool? printAssembly }
  | _ => none

/-- The names of the runtime settings, in order. -/
def RuntimeConfig.fieldNames : List String :=
  ["invoke", "args", "entry_point", "affinity", "directives"]

/-- Reads an affinity mode. -/
def AffinityMode.ofDocument? (dialect : Dialect) : Document → Option AffinityMode :=
  choice? dialect (AffinityMode.all.map fun mode => (mode.name, mode))

/-- Reads runtime settings. -/
def RuntimeConfig.ofDocument? (dialect : Dialect) (d : Document) : Option RuntimeConfig := do
  match ← record? dialect fieldNames d with
  | [invoke, args, entryPoint, affinity, directives] =>
    let base : RuntimeConfig := {}
    return {
      invoke := ← orDefault base.invoke (listOf? text?) invoke
      args := ← orDefault base.args (listOf? text?) args
      entryPoint := ← orDefault base.entryPoint text? entryPoint
      affinity := ← orDefault base.affinity (AffinityMode.ofDocument? dialect) affinity
      directives := ←
        orDefault base.directives (DirectivesConfig.ofDocument? dialect) directives }
  | _ => none

/-- The names of the settings, in order. -/
def Config.fieldNames : List String :=
  ["max_threads", "spin_wait_delay_ms", "link_host", "runtime"]

/-- Reads settings. -/
def Config.ofDocument? (dialect : Dialect) (d : Document) : Option Config := do
  match ← record? dialect fieldNames d with
  | [maxThreads, spinWaitDelayMs, linkHost, runtime] =>
    let base : Config := {}
    return {
      maxThreads := ← orDefault base.maxThreads (natBelow? Text.word64) maxThreads
      spinWaitDelayMs := ← orDefault base.spinWaitDelayMs (natBelow? Text.word64) spinWaitDelayMs
      linkHost := ← orDefault base.linkHost text? linkHost
      runtime := ← orDefault base.runtime (RuntimeConfig.ofDocument? dialect) runtime }
  | _ => none

/-- Reads an execution mode. -/
def ExecutionMode.ofDocument? (dialect : Dialect) : Document → Option ExecutionMode :=
  choice? dialect ExecutionMode.choices

/-- Reads a dispatch mode. -/
def DispatchMode.ofDocument? (dialect : Dialect) : Document → Option DispatchMode :=
  choice? dialect DispatchMode.choices

/-- Reads a job. The job need not be sound. -/
def Job.ofDocument? (dialect : Dialect) (d : Document) : Option Job := do
  match ← record? dialect fieldNames d with
  | [name, threads, roles, modes, dispatch, launchArgs, harness] =>
    return {
      name := ← required text? name
      threads := ← required (natBelow? Text.word64) threads
      roles := ← required (listOf? text?) roles
      modes := ← required (listOf? (ExecutionMode.ofDocument? dialect)) modes
      dispatch := ← required (DispatchMode.ofDocument? dialect) dispatch
      launchArgs := ← orDefault [] (listOf? text?) launchArgs
      harness := ← required text? harness }
  | _ => none

/-- Reads the jobs of a jobs file: the list `job`, which may be missing. -/
def jobsOfDocument? (dialect : Dialect) (d : Document) : Option (List Job) := do
  match ← record? dialect ["job"] d with
  | [jobs] => orDefault [] (listOf? (Job.ofDocument? dialect)) jobs
  | _ => none

end StressBatch
