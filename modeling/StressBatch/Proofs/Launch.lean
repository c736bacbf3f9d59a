import StressBatch.Proofs.Text.Decimal
import StressBatch.Proofs.Worker
import StressBatch.Worker

/-!
# What can be read off a command line

How many arguments a command line starts with depends on the settings and on the job, so a worker
looks for its coordinates at the end: host, port and token are the last three, whatever stands in
front of them, and they are read back as they were given.
-/

namespace StressBatch.LaunchSettings

/-! ## CPU ids -/

/-- Reads ids below `bound` that are parted by commas. -/
def readIds? (bound : Nat) (ids : String) : Option (List Nat) :=
  (ids.toList.splitOn ',').mapM fun part => Text.numeral? bound (String.ofList part)

theorem mapM_of_forall {α β : Type} {f : α → Option β} {g : β → α} {xs : List β}
    (h : ∀ x ∈ xs, f (g x) = some x) : (xs.map g).mapM f = some xs := by
  induction xs with
  | nil => rfl
  | cons x xs ih =>
    have hrest := ih fun other hother => h other (List.mem_cons_of_mem x hother)
    rw [List.map_cons, List.mapM_cons, h x List.mem_cons_self, hrest]
    rfl

theorem readIds?_intercalate {bound : Nat} {cpus : List Nat} (hne : cpus ≠ [])
    (hbound : ∀ id ∈ cpus, id < bound) :
    readIds? bound (String.intercalate "," (cpus.map fun id => toString id)) = some cpus := by
  have hcomma : ∀ digits ∈ (cpus.map fun id => toString id).map String.toList, ',' ∉ digits := by
    intro digits hdigits hmem
    simp only [List.map_map, List.mem_map] at hdigits
    obtain ⟨id, -, rfl⟩ := hdigits
    exact absurd (Text.isDigit_of_mem_toString hmem) (by decide)
  have hparts : (String.intercalate "," (cpus.map fun id => toString id)).toList.splitOn ',' =
      cpus.map fun id => (toString id).toList := by
    rw [String.toList_intercalate]
    refine (List.splitOn_intercalate ',' hcomma (by simpa using hne)).trans ?_
    rw [List.map_map]
    rfl
  unfold readIds?
  rw [hparts]
  refine mapM_of_forall fun id hid => ?_
  rw [String.ofList_toList]
  exact Text.numeral?_toString (hbound id hid)

/-! ## Command lines -/

/-- What a command line says, and how a reader finds it. The command line starts with `pin` if the
process is to be pinned to its CPUs, and has `flag` in it if it is to read a directive file. -/
structure Carries (settings : LaunchSettings) (job : Job) (cpus : List Nat)
    (directiveFile : Option String) (endpoint : Link.Endpoint) (token : String)
    (pin flag command : List String) : Prop where
  command_eq : command = pin ++ settings.invoke ++ settings.args ++ job.launchArgs ++ flag ++
    [settings.entryPoint, endpoint.host, toString endpoint.port.toNat, token]
  /-- Counted from the end, the token is the first argument, the port the second and the host the
  third. -/
  coordinates : ∃ host port, command.reverse.take 3 = [token, port, host] ∧
    Link.Endpoint.ofArgs? host port = some endpoint
  pin_ne_nil_iff : pin ≠ [] ↔ settings.affinity = true ∧ cpus ≠ []
  pin_eq : pin ≠ [] → ∃ ids, pin = ["taskset", "-c", ids] ∧
    ∀ bound, (∀ id ∈ cpus, id < bound) → readIds? bound ids = some cpus
  flag_ne_nil_iff : flag ≠ [] ↔ settings.directives ≠ none ∧ directiveFile ≠ none
  flag_eq : ∀ config path, settings.directives = some config → directiveFile = some path →
    flag = [config.flag ++ path]

section Parts

variable {settings : LaunchSettings} {cpus : List Nat} {directiveFile : Option String}
variable {endpoint : Link.Endpoint}

theorem affinityArgs_ne_nil_iff :
    settings.affinityArgs cpus ≠ [] ↔ settings.affinity = true ∧ cpus ≠ [] := by
  unfold affinityArgs
  split
  · next h => exact iff_of_true (List.cons_ne_nil _ _) h
  · next h => exact iff_of_false (fun hne => hne rfl) h

theorem affinityArgs_eq (h : settings.affinityArgs cpus ≠ []) :
    settings.affinityArgs cpus =
      ["taskset", "-c", String.intercalate "," (cpus.map fun id => toString id)] := by
  rw [affinityArgs, if_pos (affinityArgs_ne_nil_iff.mp h)]

theorem directiveArgs_ne_nil_iff : settings.directiveArgs directiveFile ≠ [] ↔
    settings.directives ≠ none ∧ directiveFile ≠ none := by
  unfold directiveArgs
  cases settings.directives <;> cases directiveFile <;> simp

theorem ofArgs?_portText (hhost : endpoint.host ≠ "") :
    Link.Endpoint.ofArgs? endpoint.host endpoint.portText = some endpoint := by
  have hport : Text.numeral? Text.word16 endpoint.portText = some endpoint.port.toNat :=
    Text.numeral?_toString endpoint.port.toNat_lt
  unfold Link.Endpoint.ofArgs?
  rw [hport]
  simp only [if_neg hhost, UInt16.ofNat_toNat]

end Parts

theorem carries_commandLine (settings : LaunchSettings) (job : Job) (cpus : List Nat)
    (directiveFile : Option String) {endpoint : Link.Endpoint} (hhost : endpoint.host ≠ "")
    (token : String) :
    Carries settings job cpus directiveFile endpoint token (settings.affinityArgs cpus)
      (settings.directiveArgs directiveFile)
      (settings.commandLine job cpus directiveFile endpoint token) where
  command_eq := by
    unfold commandLine workerArgs
    simp only [List.append_assoc]
    rfl
  coordinates := by
    refine ⟨endpoint.host, endpoint.portText, ?_, ofArgs?_portText hhost⟩
    simp [commandLine, workerArgs]
  pin_ne_nil_iff := affinityArgs_ne_nil_iff
  pin_eq hne := by
    have hcpus : cpus ≠ [] := (affinityArgs_ne_nil_iff.mp hne).2
    exact ⟨_, affinityArgs_eq hne, fun bound hbound => readIds?_intercalate hcpus hbound⟩
  flag_ne_nil_iff := directiveArgs_ne_nil_iff
  flag_eq config path hconfig hpath := by
    unfold directiveArgs
    rw [hconfig, hpath]

/-- A worker has a directive file exactly if the settings ask for one. -/
theorem directiveFile_ne_none_iff {host : Host} {settings : LaunchSettings} {token : Token}
    {job : Job} {file : Option (String × String)}
    (h : Worker.directiveFile host settings token job = .ok file) :
    file.map (·.1) ≠ none ↔ settings.directives ≠ none := by
  unfold Worker.directiveFile at h
  cases hdirectives : settings.directives with
  | none =>
    simp only [hdirectives] at h
    cases h
    simp
  | some config =>
    simp only [hdirectives] at h
    split at h
    · cases h
    · split at h
      · cases h
      · cases h
        simp

/-- Every command line carries the coordinates of its worker where the worker looks for them, the
ids of its CPUs if it is pinned and the path of its directive file if there is one. It is such a
command line that a worker is prepared with. -/
theorem command_line_carries (settings : LaunchSettings) (job : Job) (cpus : List Nat)
    (directiveFile : Option String) (endpoint : Link.Endpoint) (hhost : endpoint.host ≠ "")
    (token : String) :
    Carries settings job cpus directiveFile endpoint token (settings.affinityArgs cpus)
        (settings.directiveArgs directiveFile)
        (settings.commandLine job cpus directiveFile endpoint token) ∧
      ∀ host worker, Worker.prepare host settings endpoint token job cpus = .ok worker →
        ∃ file, (file ≠ none ↔ settings.directives ≠ none) ∧
          Carries settings job cpus file endpoint token (settings.affinityArgs cpus)
            (settings.directiveArgs file) worker.command := by
  refine ⟨carries_commandLine settings job cpus directiveFile hhost token, ?_⟩
  intro host worker hprepare
  obtain ⟨file, hfile, hcommand, -⟩ := Worker.exists_of_prepare hprepare
  refine ⟨file.map (·.1), directiveFile_ne_none_iff hfile, ?_⟩
  rw [hcommand]
  exact carries_commandLine settings job cpus _ hhost token

/-- Arguments of a job that look like coordinates, and an invocation that starts like the one of a
pinned process, do not get in the way. The worker that is prepared for the job has such a command
line too. -/
theorem command_line_carries_lookalike :
    let settings : LaunchSettings :=
      { invoke := ["taskset", "-c", "9", "java"], args := ["-Xmx64m"], entryPoint := "Main",
        affinity := true, directives := some { enabled := true, flag := "-XX:File=" } }
    let job := { Job.uniform "t.A" "h" ["a"] .tier1 .forked with
      launchArgs := ["127.0.0.1", "80", "fork-token-2"] }
    let endpoint : Link.Endpoint := ⟨"::1", 65535⟩
    let command := settings.commandLine job [2, 10] (some "/tmp/d.json") endpoint "fork-token-1"
    let host : Host :=
      { facts := ⟨"linux", "x86_64", 1, 2, "2024-01-01T00:00:00+00:00"⟩, directory := "/opt",
        canPin := true, scratch := some "/tmp", unique := "1", execute := fun _ _ => .ok none }
    endpoint.host ≠ "" ∧
      command = ["taskset", "-c", "2,10", "taskset", "-c", "9", "java", "-Xmx64m", "127.0.0.1",
        "80", "fork-token-2", "-XX:File=/tmp/d.json", "Main", "::1", "65535", "fork-token-1"] ∧
      Link.Endpoint.ofArgs? "::1" "65535" = some endpoint ∧
      readIds? Text.word64 "2,10" = some [2, 10] ∧
      ∃ worker, Worker.prepare host settings endpoint "fork-token-1" job [2, 10] = .ok worker ∧
        ∃ path, Carries settings job [2, 10] (some path) endpoint "fork-token-1"
          ["taskset", "-c", "2,10"] ["-XX:File=" ++ path] worker.command := by
  intro settings job endpoint command host
  have hhost : endpoint.host ≠ "" := by decide
  have hpin : settings.affinityArgs [2, 10] = ["taskset", "-c", "2,10"] := by decide
  obtain ⟨hcarries, hprepares⟩ := command_line_carries settings job [2, 10] (some "/tmp/d.json")
    endpoint hhost "fork-token-1"
  have hlast : command.reverse.take 3 = ["fork-token-1", "65535", "::1"] := by decide
  obtain ⟨host', port, htaken, hread⟩ := hcarries.coordinates
  obtain ⟨rfl, rfl⟩ : port = "65535" ∧ host' = "::1" := by simpa using htaken.symm.trans hlast
  obtain ⟨ids, hids, hreads⟩ := hcarries.pin_eq (by decide)
  obtain rfl : ids = "2,10" := by simpa using hids.symm.trans hpin
  refine ⟨hhost, by decide, hread, hreads Text.word64 (by decide), ?_⟩
  have hok : (Worker.prepare host settings endpoint "fork-token-1" job [2, 10]).isOk = true := by
    decide +kernel
  cases hprepared : Worker.prepare host settings endpoint "fork-token-1" job [2, 10] with
  | error fault =>
    rw [hprepared] at hok
    contradiction
  | ok worker =>
    obtain ⟨file, hfile, hworker⟩ := hprepares host worker hprepared
    obtain ⟨path, rfl⟩ := Option.ne_none_iff_exists'.mp (hfile.mpr (Option.some_ne_none _))
    rw [hpin] at hworker
    exact ⟨worker, rfl, path, hworker⟩

end StressBatch.LaunchSettings
