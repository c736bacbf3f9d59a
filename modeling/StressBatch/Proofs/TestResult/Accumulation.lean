import Mathlib.Algebra.Order.BigOperators.Group.List
import Mathlib.Algebra.Order.Group.Nat
import Mathlib.Data.List.Induction
import Mathlib.Data.List.TakeWhile
import StressBatch.Proofs.TestResult

/-!
# What a result is made of

A result starts out empty and is built by calls that add to it, in any order. What has become of
it can be told from the calls alone: every state has been observed as often as was counted for it,
every list of lines has those lines that tell something, in the order in which they came, and the
host is the one recorded last. Calls that add to different parts do not see each other, and
observations are merely added up, so most of the order of the calls does not matter.
-/

namespace StressBatch.TestResult

/-! ## Calls -/

/-- The parts of a result that are added to. -/
inductive Part where
  | states | messages | vmOut | vmErr | env
  deriving DecidableEq

/-- A call that adds to a result. The lines of the streams come all at once, messages also one by
one. -/
inductive Addition where
  | state (label : String) (n : Nat)
  | message (line : String)
  | messages (lines : List String)
  | vmOut (lines : List String)
  | vmErr (lines : List String)
  | env (snapshot : Environment)
  deriving DecidableEq

namespace Addition

/-- The part that a call adds to. -/
def part : Addition → Part
  | state _ _ => .states
  | message _ | messages _ => .messages
  | vmOut _ => .vmOut
  | vmErr _ => .vmErr
  | env _ => .env

/-- The observations that a call counts. -/
def observed? : Addition → Option (String × Nat)
  | state label n => some (label, n)
  | _ => none

/-- The lines that a call hands over, blank ones among them. -/
def lines : Addition → List String
  | message line => [line]
  | messages lines | vmOut lines | vmErr lines => lines
  | _ => []

/-- The host that a call records. -/
def env? : Addition → Option Environment
  | env snapshot => some snapshot
  | _ => none

end Addition

/-- Carries out a call. -/
def add (result : TestResult) : Addition → TestResult
  | .state label n => result.addState label n
  | .message line => result.addMessage line
  | .messages lines => result.addMessages lines
  | .vmOut lines => result.addVmOut lines
  | .vmErr lines => result.addVmErr lines
  | .env snapshot => result.setEnv snapshot

/-- What calls, one after the other, make of a fresh result. -/
def build (job : Job) (status : Status) (calls : List Addition) : TestResult :=
  calls.foldl add { job := job, status := status }

/-- The lines that a part consists of. -/
def linesIn (result : TestResult) : Part → List String
  | .messages => result.messages
  | .vmOut => result.vmOut
  | .vmErr => result.vmErr
  | _ => []

/-! ## What calls amount to -/

/-- All that calls have observed. -/
def observations (calls : List Addition) : List (String × Nat) := calls.filterMap (·.observed?)

/-- The numbers that calls have counted for one state. -/
def countsOf (label : String) (calls : List Addition) : List Nat :=
  ((observations calls).filter (·.1 = label)).map (·.2)

/-- All lines that calls have handed over for one part. -/
def linesFor (part : Part) (calls : List Addition) : List String :=
  (calls.filter (·.part = part)).flatMap (·.lines)

/-- The hosts that calls have recorded. -/
def environments (calls : List Addition) : List Environment := calls.filterMap (·.env?)

/-- Whether anything is left of a line once the white space at both ends is dropped. -/
def tells (line : String) : Bool := !(Text.trimBack (Text.trimFront line.toList)).isEmpty

/-- What calls on a fresh result amount to. -/
structure Accumulated (job : Job) (status : Status) (calls : List Addition)
    (result : TestResult) : Prop where
  job_eq : result.job = job
  status_eq : result.status = status
  /-- A state has been observed as often as was counted for it in all. -/
  count_eq : ∀ label, result.count label = (countsOf label calls).sum
  totalCount_eq : result.totalCount = ((observations calls).map (·.2)).sum
  /-- The states are those that were added, if only with a count of zero. -/
  mem_keys_iff : ∀ label, label ∈ result.states.keys ↔ label ∈ (observations calls).map (·.1)
  nodup_keys : result.states.keys.Nodup
  /-- The states come in the order of their bytes. -/
  keys_ascending : result.states.keys.Pairwise fun a b => Text.Utf8.encode a < Text.Utf8.encode b
  /-- The lines of a part are those that were handed over for it and tell something. -/
  linesIn_eq : ∀ part, result.linesIn part = (linesFor part calls).filter tells
  /-- The host is the one that was recorded last. -/
  env_eq : result.env = (environments calls).getLast?

/-- The same calls in another order, in which those that add lines to one list, and those that
record the host, still come one after the other as before. -/
structure Reordered (calls others : List Addition) : Prop where
  perm : calls.Perm others
  inOrder : ∀ part ≠ .states, calls.filter (·.part = part) = others.filter (·.part = part)

section Amounts

variable {calls : List Addition} {label : String}

theorem observations_concat (call : Addition) :
    observations (calls ++ [call]) = observations calls ++ observations [call] :=
  List.filterMap_append

theorem environments_concat (call : Addition) :
    environments (calls ++ [call]) = environments calls ++ environments [call] :=
  List.filterMap_append

theorem linesFor_concat (part : Part) (call : Addition) :
    linesFor part (calls ++ [call]) = linesFor part calls ++ linesFor part [call] := by
  unfold linesFor
  rw [List.filter_append, List.flatMap_append]

theorem countsOf_concat (call : Addition) :
    countsOf label (calls ++ [call]) = countsOf label calls ++ countsOf label [call] := by
  unfold countsOf
  rw [observations_concat, List.filter_append, List.map_append]

theorem countsOf_sublist : (countsOf label calls).Sublist ((observations calls).map (·.2)) :=
  List.filter_sublist.map _

theorem observations_sublist {earlier : List Addition} (h : earlier <+: calls) :
    (observations earlier).Sublist (observations calls) :=
  h.sublist.filterMap _

/-- Only the calls that record the host have a say in it. -/
theorem environments_eq :
    environments calls = (calls.filter (·.part = .env)).filterMap (·.env?) := by
  unfold environments
  rw [List.filterMap_filter]
  refine List.filterMap_congr fun call _ => ?_
  cases call <;> rfl

theorem trim_eq_nil_iff {cs : List Char} :
    Text.trimBack (Text.trimFront cs) = [] ↔ ∀ c ∈ cs, Text.isWhite c = true := by
  unfold Text.trimBack Text.trimFront
  rw [List.reverse_eq_nil_iff, List.dropWhile_eq_nil_iff]
  simp only [List.mem_reverse]
  constructor
  · intro h c hc
    rw [← List.takeWhile_append_dropWhile (p := Text.isWhite) (l := cs)] at hc
    rcases List.mem_append.mp hc with hfront | hrest
    · exact List.mem_takeWhile_imp hfront
    · exact h c hrest
  · intro h c hc
    exact h c ((List.dropWhile_suffix _).subset hc)

/-- Nothing is left of a line exactly if it is blank. -/
theorem tells_eq (line : String) : tells line = !Text.isBlank line := by
  unfold tells
  rw [Bool.not_inj_iff, Bool.eq_iff_iff, List.isEmpty_iff, trim_eq_nil_iff, Text.isBlank_iff]

theorem keptLines_eq_filter (lines : List String) : keptLines lines = lines.filter tells := by
  unfold keptLines
  exact List.filter_congr fun line _ => (tells_eq line).symm

end Amounts

/-! ## One call -/

section Step

variable {result : TestResult} (call : Addition) (label : String)

theorem count_addState {other : String} {n : Nat} : (result.addState other n).count label =
    result.count label + if label = other then n else 0 := by
  unfold count addState
  rw [SortedMap.get?_alter]
  by_cases h : label = other
  · rw [if_pos h, if_pos h, Option.getD_some, h]
  · rw [if_neg h, if_neg h, Nat.add_zero]

theorem count_add : (result.add call).count label =
    result.count label + (countsOf label [call]).sum := by
  cases call with
  | state other n =>
    rw [add, count_addState]
    by_cases h : label = other
    · simp [countsOf, observations, Addition.observed?, h]
    · simp [countsOf, observations, Addition.observed?, h, Ne.symm h]
  | _ => rfl

theorem totalCount_add : (result.add call).totalCount =
    result.totalCount + ((observations [call]).map (·.2)).sum := by
  cases call with
  | state other n =>
    rw [add, totalCount_addState]
    rfl
  | _ => rfl

theorem mem_keys_add : label ∈ (result.add call).states.keys ↔
    label ∈ result.states.keys ∨ label ∈ (observations [call]).map (·.1) := by
  cases call with
  | state other n =>
    rw [add, mem_keys_addState, or_comm]
    simp [observations, Addition.observed?]
  | _ => exact (or_iff_left List.not_mem_nil).symm

theorem linesIn_add (part : Part) : (result.add call).linesIn part =
    result.linesIn part ++ (linesFor part [call]).filter tells := by
  rw [← keptLines_eq_filter]
  cases call <;> cases part <;>
    simp [add, addState, addMessage, addMessages, addVmOut, addVmErr, setEnv, linesIn, linesFor,
      Addition.part, Addition.lines, keptLines]

theorem env_add : (result.add call).env = (environments [call]).getLast?.or result.env := by
  cases call <;> rfl

end Step

/-! ## All calls -/

section Run

variable {job : Job} {status : Status} {calls others : List Addition} {result other : TestResult}

theorem accumulated_nil (job : Job) (status : Status) :
    Accumulated job status [] { job := job, status := status } where
  job_eq := rfl
  status_eq := rfl
  count_eq _ := rfl
  totalCount_eq := rfl
  mem_keys_iff _ := Iff.rfl
  nodup_keys := List.nodup_nil
  keys_ascending := List.Pairwise.nil
  linesIn_eq part := by
    cases part <;> rfl
  env_eq := rfl

theorem Accumulated.next (h : Accumulated job status calls result) (call : Addition) :
    Accumulated job status (calls ++ [call]) (result.add call) where
  job_eq := by
    cases call <;> exact h.job_eq
  status_eq := by
    cases call <;> exact h.status_eq
  count_eq label := by
    rw [count_add, h.count_eq, countsOf_concat, List.sum_append]
  totalCount_eq := by
    rw [totalCount_add, h.totalCount_eq, observations_concat, List.map_append, List.sum_append]
  mem_keys_iff label := by
    rw [mem_keys_add, h.mem_keys_iff, observations_concat, List.map_append, List.mem_append]
  nodup_keys := SortedMap.nodup_keys _
  keys_ascending := SortedMap.keys_ascending _
  linesIn_eq part := by
    rw [linesIn_add, h.linesIn_eq, linesFor_concat, List.filter_append]
  env_eq := by
    rw [env_add, h.env_eq, environments_concat, List.getLast?_append]

theorem accumulated_build (job : Job) (status : Status) (calls : List Addition) :
    Accumulated job status calls (build job status calls) := by
  induction calls using List.reverseRecOn with
  | nil => exact accumulated_nil job status
  | append_singleton calls call ih =>
    rw [build, List.foldl_append]
    exact ih.next call

theorem get?_states (result : TestResult) (label : String) : result.states.get? label =
    if label ∈ result.states.keys then some (result.count label) else none := by
  unfold count
  by_cases h : label ∈ result.states.keys
  · obtain ⟨n, hn⟩ := Option.isSome_iff_exists.mp (SortedMap.isSome_get?_iff.mpr h)
    rw [if_pos h, hn, Option.getD_some]
  · have hnone : ¬(result.states.get? label).isSome := mt SortedMap.isSome_get?_iff.mp h
    rw [if_neg h, Option.not_isSome_iff_eq_none.mp hnone]

/-- What is added up does not depend on the order in which it is added. -/
theorem Accumulated.states_eq (h : Accumulated job status calls result)
    (hother : Accumulated job status others other)
    (hperm : (observations calls).Perm (observations others)) : other.states = result.states := by
  refine SortedMap.eq_of_get?_eq fun label => ?_
  have hcounts : (countsOf label calls).Perm (countsOf label others) := (hperm.filter _).map _
  have hcount : other.count label = result.count label := by
    rw [h.count_eq, hother.count_eq, hcounts.sum_eq]
  have hkey : label ∈ other.states.keys ↔ label ∈ result.states.keys := by
    rw [h.mem_keys_iff, hother.mem_keys_iff, (hperm.map _).mem_iff]
  rw [get?_states, get?_states, hcount]
  simp only [hkey]

/-- The calls leave no choice about the result, and their order has a say in lists of lines and in
the host only. -/
theorem Accumulated.eq_of_reordered (h : Accumulated job status calls result)
    (hother : Accumulated job status others other) (hsame : Reordered calls others) :
    other = result := by
  have hlines : ∀ part ≠ .states, other.linesIn part = result.linesIn part := fun part hpart => by
    rw [h.linesIn_eq, hother.linesIn_eq, linesFor, linesFor, hsame.inOrder part hpart]
  have hjob : other.job = result.job := hother.job_eq.trans h.job_eq.symm
  have hstatus : other.status = result.status := hother.status_eq.trans h.status_eq.symm
  have hstates : other.states = result.states := h.states_eq hother (hsame.perm.filterMap _)
  have henv : other.env = result.env := by
    rw [h.env_eq, hother.env_eq, environments_eq, environments_eq,
      hsame.inOrder .env (by decide)]
  have hmessages : other.messages = result.messages := hlines .messages (by decide)
  have hout : other.vmOut = result.vmOut := hlines .vmOut (by decide)
  have herr : other.vmErr = result.vmErr := hlines .vmErr (by decide)
  cases other
  cases result
  simp_all only

end Run

/-- A result adds up to what the calls say. No number on the way exceeds the sum of all counts, so
words that hold this sum never overflow. Another order in which the calls for each list of lines,
and those that record the host, come as before gives the same result. -/
theorem calls_add_up (job : Job) (status : Status) (calls : List Addition) :
    Accumulated job status calls (build job status calls) ∧
      (∀ earlier, earlier <+: calls → ∀ label,
        (build job status earlier).count label ≤ (build job status earlier).totalCount ∧
          (build job status earlier).totalCount ≤ ((observations calls).map (·.2)).sum) ∧
      ∀ others, Reordered calls others → build job status others = build job status calls := by
  have hbuilt := accumulated_build job status
  refine ⟨hbuilt calls, fun earlier hearlier label => ⟨?_, ?_⟩, fun others hsame => ?_⟩
  · rw [(hbuilt earlier).count_eq, (hbuilt earlier).totalCount_eq]
    exact countsOf_sublist.sum_le_sum fun _ _ => Nat.zero_le _
  · rw [(hbuilt earlier).totalCount_eq]
    exact ((observations_sublist hearlier).map _).sum_le_sum fun _ _ => Nat.zero_le _
  · exact (hbuilt calls).eq_of_reordered (hbuilt others) hsame

/-- Observations and lines change places; a state that was never seen still has its entry, a line
of one no-break space is gone, and the later host stays. -/
theorem calls_add_up_interleaved :
    let job := Job.uniform "t.Racy" "h" ["a", "b"] .tier2 .embedded
    let early := Environment.empty.put "os" "plan9"
    let late := Environment.empty.put "os" "linux"
    let calls : List Addition := [.state "b" 2, .message "first", .vmOut ["out", "\u00A0"],
      .state "a" 0, .env early, .messages ["", " second"], .state "b" 1, .env late]
    let others : List Addition := [.env early, .state "b" 1, .env late, .vmOut ["out", "\u00A0"],
      .message "first", .state "b" 2, .messages ["", " second"], .state "a" 0]
    Reordered calls others ∧
      build job .normal others = build job .normal calls ∧
      (build job .normal others).states.entries = [("a", 0), ("b", 3)] ∧
      (build job .normal others).messages = ["first", " second"] ∧
      (build job .normal others).vmOut = ["out"] ∧
      (build job .normal others).env = some late := by
  intro job early late calls others
  have hsame : Reordered calls others := by
    refine ⟨by decide, fun part _ => ?_⟩
    cases part with
    | states => contradiction
    | _ => rfl
  have hbuilt := (calls_add_up job .normal calls).2.2 others hsame
  refine ⟨hsame, hbuilt, ?_, ?_, ?_, ?_⟩
  all_goals rw [hbuilt]; decide +kernel

end StressBatch.TestResult
