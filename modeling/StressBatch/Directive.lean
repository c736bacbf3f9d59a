import StressBatch.Config.Basic
import StressBatch.Panic

/-!
# Compiler directives

The directive file of a forked worker. The harness of a job has a loop that schedules the test
(`task_*`), a loop per role (`run_<role>`) and helpers (`aux_*`). The rules keep the workload method
of each role in the execution mode it was given, while the harness around it is compiled as usual.

`DirectiveSet.ofJob` builds the rules and `DirectiveSet.render` writes them.
-/

namespace StressBatch

/-- A compiler tier that a rule can switch off. -/
inductive Tier where
  /-- The first tier. -/
  | tier1
  /-- The second tier. -/
  | tier2
  deriving DecidableEq, Repr, Inhabited

/-- The name of a tier in a directive file. -/
def Tier.key : Tier → String
  | .tier1 => "c1"
  | .tier2 => "c2"

/-- What a rule says about the methods it matches. -/
inductive Directive where
  /-- Methods that match the pattern are always inlined (`force`), or never. -/
  | inlining (force : Bool) (pattern : String)
  /-- The tier does not compile the method. -/
  | exclude (tier : Tier)
  /-- The method's assembly is listed. -/
  | printAssembly
  /-- Whether the method may go on running while it is compiled. -/
  | backgroundCompilation (on : Bool)
  deriving DecidableEq, Repr, Inhabited

/-- The directives for the methods that match a pattern. -/
structure Rule where
  /-- Which methods the rule is for. -/
  pattern : String
  /-- What the rule says about them, in order. -/
  directives : List Directive
  deriving DecidableEq, Repr, Inhabited

/-- Whether the rule makes callers wait until the method is compiled. -/
def Rule.isSynchronous (rule : Rule) : Bool :=
  rule.directives.contains (.backgroundCompilation false)

/-- The rules of a directive file, in order. -/
structure DirectiveSet where
  /-- The rules. -/
  rules : List Rule
  deriving DecidableEq, Repr, Inhabited

namespace DirectiveSet

/-! ## The rules of a job -/

/-- The pattern of a harness's scheduling loops. -/
def taskLoops (harness : String) : String := harness ++ "::task_*"

/-- The pattern of all run loops of a harness. -/
def runLoops (harness : String) : String := harness ++ "::run_*"

/-- The run loop of a role. -/
def runLoop (harness role : String) : String := harness ++ "::run_" ++ role

/-- The pattern of a harness's helpers. -/
def helpers (harness : String) : String := harness ++ "::aux_*"

/-- The pattern of all methods of an owner. -/
def methodsOf (owner : String) : String := owner ++ "::*"

/-- The workload method of a role. -/
def workloadMethod (job : Job) (role : String) : String := job.name ++ "::" ++ role

/-- The rule for the scheduling loop. -/
def taskRule (job : Job) (config : DirectivesConfig) : Rule where
  pattern := taskLoops job.harness
  directives :=
    [.inlining false (runLoops job.harness), .inlining true (helpers job.harness),
      .inlining true (methodsOf config.syncHelper)] ++
    config.extraInline.map (.inlining true) ++ [.backgroundCompilation false]

/-- The rule for the helper methods that synchronize threads. -/
def syncRule (config : DirectivesConfig) : Rule where
  pattern := methodsOf config.syncHelper
  directives := [.inlining true "*::*", .backgroundCompilation false]

/-- What the rule of a run loop says about the workload method of its role. -/
def modeDirectives (method : String) : ExecutionMode → List Directive
  | .interpreted => [.inlining false method]
  | .tier1 => [.inlining true method, .exclude .tier2]
  | .tier2 => [.inlining true method, .exclude .tier1]

/-- The rule for the run loop of a role. -/
def runRule (job : Job) (config : DirectivesConfig) (role : String) (mode : ExecutionMode) :
    Rule where
  pattern := runLoop job.harness role
  directives :=
    .inlining true (helpers job.harness) :: modeDirectives (workloadMethod job role) mode ++
    (if config.printAssembly && mode.isCompiled then [.printAssembly] else []) ++
    [.backgroundCompilation false]

/-- The rule that keeps the workload method of a role in the interpreter. -/
def interpreterRule (job : Job) (role : String) : Rule where
  pattern := "+" ++ workloadMethod job role
  directives := [.exclude .tier1, .exclude .tier2]

/-- The roles and modes of all threads. Asking for the role or the mode of a thread that has none is
a panic; the list of roles is looked at first. -/
def assignments (job : Job) : Except Panic (List (String × ExecutionMode)) :=
  let short := min job.roles.length job.modes.length
  if job.threads ≤ short then .ok ((job.roles.zip job.modes).take job.threads)
  else if job.roles.length = short then .error (.indexOutside job.roles.length short)
  else .error (.indexOutside job.modes.length short)

/-- The rules for given roles and modes. -/
def ofAssignments (job : Job) (config : DirectivesConfig)
    (assignments : List (String × ExecutionMode)) : DirectiveSet where
  rules :=
    [taskRule job config, syncRule config] ++
    assignments.map (fun a => runRule job config a.1 a.2) ++
    (assignments.filter fun a => a.2.isInterpreted).map fun a => interpreterRule job a.1

/-- The rules of a job. -/
def ofJob (job : Job) (config : DirectivesConfig) : Except Panic DirectiveSet :=
  (assignments job).map (ofAssignments job config)

/-! ## The text -/

/-- The line of a directive. -/
def directiveText : Directive → String
  | .inlining force pattern =>
    "    inline: \"" ++ (if force then "+" else "-") ++ pattern ++ "\",\n"
  | .exclude tier => "    " ++ tier.key ++ ": \x7b\n      Exclude: true,\n    \x7d,\n"
  | .printAssembly => "    PrintAssembly: true,\n"
  | .backgroundCompilation on =>
    "    BackgroundCompilation: " ++ (if on then "true" else "false") ++ ",\n"

/-- The lines of a rule. -/
def ruleText (rule : Rule) : String :=
  "  \x7b\n    match: \"" ++ rule.pattern ++ "\",\n" ++
    String.join (rule.directives.map directiveText) ++ "  \x7d,\n"

/-- The text of a directive file. Patterns are written as they are. -/
def render (set : DirectiveSet) : String :=
  "[\n" ++ String.join (set.rules.map ruleText) ++ "]\n"

end DirectiveSet

end StressBatch
