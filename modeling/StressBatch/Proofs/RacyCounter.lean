import StressBatch.Proofs.Embedded
import StressBatch.Proofs.TestResult
import StressBatch.RacyCounter

/-!
# What the racy counter can record

However the steps of the roles interleave, no round leaks into the next one, and what a round leaves
in the counter is at least one and at most the number of roles. While the roles of a round write,
the counter and every value that a role still holds are bounded by how many of them have written
already; the two meetings of a round keep these writes apart from those of other rounds.
-/

namespace StressBatch.RacyCounter

variable {threads rounds role : Nat} {m n : Moment}

/-! ## Steps -/

/-- What one step of a role can do. -/
inductive Stepped (m : Moment) (role : Nat) : Moment → Prop
  | load (hstage : m.stages[role]? = some .load) :
      Stepped m role { m with stages := m.stages.set role (.store m.counter) }
  | store {read : Nat} (hstage : m.stages[role]? = some (.store read)) :
      Stepped m role { m with counter := read + 1, stages := m.stages.set role .written }
  | meet (hall : ∀ stage ∈ m.stages, stage = .written) :
      Stepped m role { m with stages := m.stages.map fun _ => .recording }
  | record (hrole : role = 0) (hstage : m.stages[role]? = some .recording) :
      Stepped m role { m with
        counter := 0, seen := m.seen ++ [m.counter], stages := m.stages.set role .ended }
  | pass (hrole : role ≠ 0) (hstage : m.stages[role]? = some .recording) :
      Stepped m role { m with stages := m.stages.set role .ended }
  | next (hall : ∀ stage ∈ m.stages, stage = .ended) :
      Stepped m role { m with
        stages := m.stages.map fun _ => .load, roundsLeft := m.roundsLeft - 1 }

theorem meet_eq_some {meeting next : Stage} {left : Nat}
    (h : m.meet meeting next left = some n) :
    (∀ stage ∈ m.stages, stage = meeting) ∧
      n = { m with stages := m.stages.map fun _ => next, roundsLeft := left } := by
  unfold Moment.meet at h
  split at h
  · next hall => exact ⟨by simpa using hall, (Option.some.inj h).symm⟩
  · contradiction

theorem stepped_of_step (h : step m role = some n) : 0 < m.roundsLeft ∧ Stepped m role n := by
  unfold step at h
  split at h
  · contradiction
  next hleft =>
  refine ⟨Nat.pos_of_ne_zero hleft, ?_⟩
  split at h
  · contradiction
  · next hstage =>
    cases h
    exact .load hstage
  · next hstage =>
    cases h
    exact .store hstage
  · obtain ⟨hall, rfl⟩ := meet_eq_some h
    exact .meet hall
  · next hstage =>
    split at h
    · next hrole =>
      cases h
      exact .record hrole hstage
    · next hrole =>
      cases h
      exact .pass hrole hstage
  · obtain ⟨hall, rfl⟩ := meet_eq_some h
    exact .next hall

/-! ## The two halves of a round -/

/-- How many roles have written in this round. -/
def Moment.writes (m : Moment) : Nat := m.stages.count .written

/-- The first half of a round, in which the roles write. A value that a role still holds may be out
of date, but it is never more than the number of writes. -/
structure Writing (rounds : Nat) (m : Moment) : Prop where
  stages : ∀ stage ∈ m.stages, stage = .load ∨ stage = .written ∨
    ∃ read, stage = .store read ∧ read ≤ m.writes
  counter_le : m.counter ≤ m.writes
  counter_pos : 0 < m.writes → 0 < m.counter
  length_seen : m.seen.length + m.roundsLeft = rounds

/-- The second half of a round, in which the first role takes the counter down. -/
structure Recording (threads rounds : Nat) (m : Moment) : Prop where
  unfinished : 0 < m.roundsLeft
  stages : ∀ stage ∈ m.stages, stage = .recording ∨ stage = .ended
  before : m.stages[0]? = some .recording →
    1 ≤ m.counter ∧ m.counter ≤ threads ∧ m.seen.length + m.roundsLeft = rounds
  after : m.stages[0]? = some .ended →
    m.counter = 0 ∧ m.seen.length + m.roundsLeft = rounds + 1

/-- What holds at every moment of a run. -/
structure Regular (threads rounds : Nat) (m : Moment) : Prop where
  length_stages : m.stages.length = threads
  seen_range : ∀ value ∈ m.seen, 1 ≤ value ∧ value ≤ threads
  half : Writing rounds m ∨ Recording threads rounds m

theorem mem_of_stage {stage : Stage} (h : m.stages[role]? = some stage) : stage ∈ m.stages :=
  List.mem_of_getElem? h

theorem Regular.writing (h : Regular threads rounds m) {stage : Stage} (hmem : stage ∈ m.stages)
    (hfirst : stage ≠ .recording ∧ stage ≠ .ended) : Writing rounds m :=
  h.half.resolve_right fun hrecording => (hrecording.stages stage hmem).elim hfirst.1 hfirst.2

theorem Regular.recording (h : Regular threads rounds m) {stage : Stage} (hmem : stage ∈ m.stages)
    (hsecond : stage = .recording ∨ stage = .ended) : Recording threads rounds m := by
  refine h.half.resolve_left fun hwriting => ?_
  rcases hwriting.stages stage hmem with rfl | rfl | ⟨read, rfl, -⟩ <;> simp at hsecond

/-- The number of writes after one role has moved on. -/
theorem count_written_set {stage new : Stage} (hstage : m.stages[role]? = some stage)
    (hold : stage ≠ .written) :
    (m.stages.set role new).count .written = m.writes + if new = .written then 1 else 0 := by
  obtain ⟨hlt, hget⟩ := List.getElem?_eq_some_iff.mp hstage
  rw [List.count_set hlt, hget, Moment.writes]
  simp [hold]

theorem Regular.load (h : Regular threads rounds m) (hstage : m.stages[role]? = some .load) :
    Regular threads rounds { m with stages := m.stages.set role (.store m.counter) } := by
  have hwriting := h.writing (mem_of_stage hstage) (by simp)
  have hwrites : (m.stages.set role (.store m.counter)).count .written = m.writes := by
    rw [count_written_set hstage (by simp)]
    rfl
  refine ⟨by rw [List.length_set, h.length_stages], h.seen_range, .inl ⟨?_, ?_, ?_, ?_⟩⟩
  · intro stage hmem
    rw [Moment.writes, hwrites]
    rcases List.mem_or_eq_of_mem_set hmem with hmem | rfl
    · exact hwriting.stages stage hmem
    · exact .inr (.inr ⟨m.counter, rfl, hwriting.counter_le⟩)
  · rw [Moment.writes, hwrites]
    exact hwriting.counter_le
  · rw [Moment.writes, hwrites]
    exact hwriting.counter_pos
  · exact hwriting.length_seen

/-- A write brings the counter to one more than the value that was read, and there is one more write
to bound it. -/
theorem Regular.store (h : Regular threads rounds m) {read : Nat}
    (hstage : m.stages[role]? = some (.store read)) :
    Regular threads rounds
      { m with counter := read + 1, stages := m.stages.set role .written } := by
  have hwriting := h.writing (mem_of_stage hstage) (by simp)
  have hread : read ≤ m.writes := by
    rcases hwriting.stages _ (mem_of_stage hstage) with hload | hwritten | ⟨held, hheld, hle⟩
    · cases hload
    · cases hwritten
    · cases hheld
      exact hle
  have hwrites : (m.stages.set role .written).count .written = m.writes + 1 := by
    rw [count_written_set hstage (by simp)]
    rfl
  refine ⟨by rw [List.length_set, h.length_stages], h.seen_range, .inl ⟨?_, ?_, ?_, ?_⟩⟩
  · intro stage hmem
    rw [Moment.writes, hwrites]
    rcases List.mem_or_eq_of_mem_set hmem with hmem | rfl
    · rcases hwriting.stages stage hmem with hload | hwritten | ⟨held, hheld, hle⟩
      · exact .inl hload
      · exact .inr (.inl hwritten)
      · exact .inr (.inr ⟨held, hheld, Nat.le_succ_of_le hle⟩)
    · exact .inr (.inl rfl)
  · rw [Moment.writes, hwrites]
    exact Nat.succ_le_succ hread
  · exact fun _ => Nat.succ_pos read
  · exact hwriting.length_seen

/-- When all roles have written, there are as many writes as roles. -/
theorem Regular.meet (h : Regular threads rounds m) (hpos : 0 < threads) (hleft : 0 < m.roundsLeft)
    (hall : ∀ stage ∈ m.stages, stage = .written) :
    Regular threads rounds { m with stages := m.stages.map fun _ => .recording } := by
  have hne : m.stages ≠ [] := List.ne_nil_of_length_pos (h.length_stages ▸ hpos)
  have hwriting := h.writing (List.head_mem hne) (by simp [hall _ (List.head_mem hne)])
  have hwrites : m.writes = threads := by
    rw [← h.length_stages, Moment.writes, List.count_eq_length]
    exact fun stage hmem => (hall stage hmem).symm
  refine ⟨by rw [List.length_map, h.length_stages], h.seen_range, .inr ⟨hleft, ?_, ?_, ?_⟩⟩
  · intro stage hmem
    obtain ⟨-, -, rfl⟩ := List.mem_map.mp hmem
    exact .inl rfl
  · intro _
    exact ⟨hwriting.counter_pos (hwrites ▸ hpos), hwrites ▸ hwriting.counter_le,
      hwriting.length_seen⟩
  · intro hended
    obtain ⟨stage, -, hstage⟩ := List.mem_map.mp (mem_of_stage hended)
    cases hstage

theorem Regular.record (h : Regular threads rounds m) (hstage : m.stages[0]? = some .recording) :
    Regular threads rounds { m with
      counter := 0, seen := m.seen ++ [m.counter], stages := m.stages.set 0 .ended } := by
  have hrecording := h.recording (mem_of_stage hstage) (.inl rfl)
  obtain ⟨hlow, hhigh, hlength⟩ := hrecording.before hstage
  have hfirst : (m.stages.set 0 .ended)[0]? = some .ended := by
    rw [List.getElem?_set_self (List.getElem?_eq_some_iff.mp hstage).1]
  refine ⟨by rw [List.length_set, h.length_stages], ?_, .inr ⟨hrecording.unfinished, ?_, ?_, ?_⟩⟩
  · intro value hmem
    rcases List.mem_append.mp hmem with hmem | hmem
    · exact h.seen_range value hmem
    · rw [List.mem_singleton.mp hmem]
      exact ⟨hlow, hhigh⟩
  · intro stage hmem
    exact (List.mem_or_eq_of_mem_set hmem).elim (hrecording.stages stage) .inr
  · intro hstill
    rw [hfirst] at hstill
    cases hstill
  · intro _
    refine ⟨rfl, ?_⟩
    simp only [List.length_append, List.length_singleton]
    omega

theorem Regular.pass (h : Regular threads rounds m) (hrole : role ≠ 0)
    (hstage : m.stages[role]? = some .recording) :
    Regular threads rounds { m with stages := m.stages.set role .ended } := by
  have hrecording := h.recording (mem_of_stage hstage) (.inl rfl)
  have hfirst : (m.stages.set role .ended)[0]? = m.stages[0]? := List.getElem?_set_ne hrole
  refine ⟨by rw [List.length_set, h.length_stages], h.seen_range,
    .inr ⟨hrecording.unfinished, ?_, ?_, ?_⟩⟩
  · intro stage hmem
    exact (List.mem_or_eq_of_mem_set hmem).elim (hrecording.stages stage) .inr
  · intro hbefore
    exact hrecording.before (hfirst ▸ hbefore)
  · intro hafter
    exact hrecording.after (hfirst ▸ hafter)

/-- When all roles have ended a round, the first one has left the counter at zero. -/
theorem Regular.next (h : Regular threads rounds m) (hpos : 0 < threads) (hleft : 0 < m.roundsLeft)
    (hall : ∀ stage ∈ m.stages, stage = .ended) :
    Regular threads rounds { m with
      stages := m.stages.map fun _ => .load, roundsLeft := m.roundsLeft - 1 } := by
  have hlt : 0 < m.stages.length := h.length_stages ▸ hpos
  have hfirst : m.stages[0]? = some .ended := by
    rw [List.getElem?_eq_getElem hlt, hall _ (List.getElem_mem hlt)]
  obtain ⟨hzero, hlength⟩ := (h.recording (mem_of_stage hfirst) (.inr rfl)).after hfirst
  have hwrites : (m.stages.map fun _ => Stage.load).count .written = 0 := by
    rw [List.count_eq_zero]
    intro hmem
    obtain ⟨-, -, hload⟩ := List.mem_map.mp hmem
    cases hload
  refine ⟨by rw [List.length_map, h.length_stages], h.seen_range, .inl ⟨?_, ?_, ?_, ?_⟩⟩
  · intro stage hmem
    obtain ⟨-, -, rfl⟩ := List.mem_map.mp hmem
    exact .inl rfl
  · exact hzero ▸ Nat.zero_le _
  · rw [Moment.writes, hwrites]
    exact fun h => absurd h (Nat.lt_irrefl 0)
  · show m.seen.length + (m.roundsLeft - 1) = rounds
    omega

theorem Regular.of_step (h : Regular threads rounds m) (hpos : 0 < threads)
    (hstep : step m role = some n) : Regular threads rounds n := by
  obtain ⟨hleft, hstepped⟩ := stepped_of_step hstep
  cases hstepped with
  | load hstage => exact h.load hstage
  | store hstage => exact h.store hstage
  | meet hall => exact h.meet hpos hleft hall
  | record hrole hstage =>
    subst hrole
    exact h.record hstage
  | pass hrole hstage => exact h.pass hrole hstage
  | next hall => exact h.next hpos hleft hall

theorem regular_start : Regular threads rounds (start rounds threads) := by
  have hwrites : (start rounds threads).writes = 0 := by
    simp [Moment.writes, start, List.count_replicate]
  refine ⟨List.length_replicate, fun value hmem => absurd hmem List.not_mem_nil,
    .inl ⟨?_, ?_, ?_, ?_⟩⟩
  · intro stage hmem
    exact .inl (List.eq_of_mem_replicate hmem)
  · exact Nat.zero_le _
  · rw [hwrites]
    exact fun h => absurd h (Nat.lt_irrefl 0)
  · exact Nat.zero_add rounds

theorem Regular.of_run (h : Regular threads rounds m) (hpos : 0 < threads) (schedule : List Nat) :
    Regular threads rounds (run m schedule) := by
  induction schedule generalizing m with
  | nil => exact h
  | cons role schedule ih =>
    refine ih ?_
    cases hstep : step m role with
    | none => exact h
    | some n => exact h.of_step hpos hstep

/-- A moment at which no role has moved in this round. -/
def Moment.AtStart (m : Moment) : Prop := ∀ stage ∈ m.stages, stage = .load

theorem Regular.counter_eq_zero (h : Regular threads rounds m) (hpos : 0 < threads)
    (hstart : m.AtStart) : m.counter = 0 := by
  have hne : m.stages ≠ [] := List.ne_nil_of_length_pos (h.length_stages ▸ hpos)
  have hwriting := h.writing (List.head_mem hne) (by simp [hstart _ (List.head_mem hne)])
  have hwrites : m.writes = 0 := by
    rw [Moment.writes, List.count_eq_zero]
    intro hmem
    cases hstart _ hmem
  exact Nat.le_zero.mp (hwrites ▸ hwriting.counter_le)

theorem Regular.length_seen (h : Regular threads rounds m) (hfinished : m.isFinished = true) :
    m.seen.length = rounds := by
  have hleft : m.roundsLeft = 0 := by simpa [Moment.isFinished] using hfinished
  rcases h.half with hwriting | hrecording
  · have hlength := hwriting.length_seen
    omega
  · exact absurd hrecording.unfinished (by omega)

/-! ## Progress -/

/-- How many steps a role still has to take in a round. -/
def Stage.ahead : Stage → Nat
  | .load => 5
  | .store _ => 4
  | .written => 3
  | .recording => 2
  | .ended => 1

/-- What is left to do: it goes down with every step. -/
def Moment.work (threads : Nat) (m : Moment) : Nat :=
  m.roundsLeft * (4 * threads + 1) + (m.stages.map Stage.ahead).sum

theorem sum_ahead_set {stages : List Stage} {stage : Stage} (hstage : stages[role]? = some stage)
    (new : Stage) :
    ((stages.set role new).map Stage.ahead).sum + stage.ahead =
      (stages.map Stage.ahead).sum + new.ahead := by
  induction stages generalizing role with
  | nil => simp at hstage
  | cons first stages ih =>
    cases role with
    | zero =>
      simp only [List.getElem?_cons_zero, Option.some.injEq] at hstage
      subst hstage
      simp only [List.set_cons_zero, List.map_cons, List.sum_cons]
      omega
    | succ role =>
      rw [List.getElem?_cons_succ] at hstage
      have hrest := ih hstage
      simp only [List.set_cons_succ, List.map_cons, List.sum_cons]
      omega

theorem sum_ahead_of_all {stages : List Stage} {stage : Stage} (hall : ∀ s ∈ stages, s = stage) :
    (stages.map Stage.ahead).sum = stages.length * stage.ahead := by
  rw [List.eq_replicate_of_mem hall]
  simp

theorem sum_ahead_map_const (stages : List Stage) (next : Stage) :
    ((stages.map fun _ => next).map Stage.ahead).sum = stages.length * next.ahead := by
  have hall : ∀ s ∈ stages.map fun _ => next, s = next := by
    intro s hmem
    obtain ⟨-, -, rfl⟩ := List.mem_map.mp hmem
    rfl
  rw [sum_ahead_of_all hall, List.length_map]

theorem work_lt_of_step (hlength : m.stages.length = threads) (hpos : 0 < threads)
    (hstep : step m role = some n) : n.work threads < m.work threads := by
  obtain ⟨hleft, hstepped⟩ := stepped_of_step hstep
  have hset : ∀ {stage new : Stage}, m.stages[role]? = some stage → new.ahead < stage.ahead →
      ((m.stages.set role new).map Stage.ahead).sum < (m.stages.map Stage.ahead).sum := by
    intro stage new hstage hless
    have hsum := sum_ahead_set hstage new
    omega
  cases hstepped with
  | load hstage =>
    refine Nat.add_lt_add_left (hset hstage ?_) _
    exact Nat.lt_succ_self 4
  | store hstage =>
    refine Nat.add_lt_add_left (hset hstage ?_) _
    exact Nat.lt_succ_self 3
  | meet hall =>
    refine Nat.add_lt_add_left ?_ _
    rw [sum_ahead_of_all hall, sum_ahead_map_const, hlength]
    exact Nat.mul_lt_mul_of_pos_left (Nat.lt_succ_self 2) hpos
  | record hrole hstage =>
    refine Nat.add_lt_add_left (hset hstage ?_) _
    exact Nat.lt_succ_self 1
  | pass hrole hstage =>
    refine Nat.add_lt_add_left (hset hstage ?_) _
    exact Nat.lt_succ_self 1
  | next hall =>
    obtain ⟨left, hleft⟩ := Nat.exists_eq_succ_of_ne_zero (Nat.ne_of_gt hleft)
    simp only [Moment.work, sum_ahead_of_all hall, sum_ahead_map_const, hlength,
      Stage.ahead, hleft, Nat.succ_sub_one, Nat.succ_mul]
    omega

/-- No moment before the end is one at which every role has to wait. -/
theorem Regular.exists_step (h : Regular threads rounds m) (hpos : 0 < threads)
    (hunfinished : m.isFinished = false) : ∃ role n, RacyCounter.step m role = some n := by
  have hleft : m.roundsLeft ≠ 0 := by simpa [Moment.isFinished] using hunfinished
  have hlt : 0 < m.stages.length := h.length_stages ▸ hpos
  have hmeet : ∀ {meeting} next left, (∀ stage ∈ m.stages, stage = meeting) →
      ∃ n, m.meet meeting next left = some n := by
    intro meeting next left hall
    have hready : m.stages.all (· == meeting) = true := by simpa using hall
    exact ⟨_, if_pos hready⟩
  have hfirst : ∀ {stage}, (∀ s ∈ m.stages, s = stage) → m.stages[0]? = some stage := by
    intro stage hall
    rw [List.getElem?_eq_getElem hlt, hall _ (List.getElem_mem hlt)]
  rcases h.half with hwriting | hrecording
  · by_cases hall : ∀ stage ∈ m.stages, stage = .written
    · obtain ⟨n, hn⟩ := hmeet .recording m.roundsLeft hall
      exact ⟨0, n, by simp only [RacyCounter.step, if_neg hleft, hfirst hall, hn]⟩
    · obtain ⟨stage, hstage⟩ := not_forall.mp hall
      obtain ⟨hmem, hnot⟩ := Classical.not_imp.mp hstage
      obtain ⟨role, hstage⟩ := List.getElem?_of_mem hmem
      rcases hwriting.stages stage hmem with rfl | rfl | ⟨read, rfl, -⟩
      · exact ⟨role, _, by simp only [RacyCounter.step, if_neg hleft, hstage]; rfl⟩
      · exact absurd rfl hnot
      · exact ⟨role, _, by simp only [RacyCounter.step, if_neg hleft, hstage]; rfl⟩
  · by_cases hall : ∀ stage ∈ m.stages, stage = .ended
    · obtain ⟨n, hn⟩ := hmeet .load (m.roundsLeft - 1) hall
      exact ⟨0, n, by simp only [RacyCounter.step, if_neg hleft, hfirst hall, hn]⟩
    · obtain ⟨stage, hstage⟩ := not_forall.mp hall
      obtain ⟨hmem, hnot⟩ := Classical.not_imp.mp hstage
      obtain ⟨role, hstage⟩ := List.getElem?_of_mem hmem
      rcases hrecording.stages stage hmem with rfl | rfl
      · by_cases hrole : role = 0
        · exact ⟨role, _, by simp only [RacyCounter.step, if_neg hleft, hstage, if_pos hrole]; rfl⟩
        · exact ⟨role, _, by simp only [RacyCounter.step, if_neg hleft, hstage, if_neg hrole]; rfl⟩
      · exact absurd rfl hnot

/-- From every moment the run can be carried on to its end. -/
theorem Regular.exists_finish (h : Regular threads rounds m) (hpos : 0 < threads) :
    ∃ more, (RacyCounter.run m more).isFinished = true := by
  induction hwork : m.work threads using Nat.strong_induction_on generalizing m with
  | _ work ih =>
    cases hfinished : m.isFinished with
    | true => exact ⟨[], hfinished⟩
    | false =>
      obtain ⟨role, n, hstep⟩ := h.exists_step hpos hfinished
      have hless := work_lt_of_step h.length_stages hpos hstep
      obtain ⟨more, hmore⟩ := ih _ (hwork ▸ hless) (h.of_step hpos hstep) rfl
      refine ⟨role :: more, ?_⟩
      rw [RacyCounter.run, hstep]
      exact hmore

/-! ## Taking turns -/

theorem run_append (first second : List Nat) :
    run m (first ++ second) = run (run m first) second := by
  induction first generalizing m with
  | nil => rfl
  | cons role first ih => exact ih

/-- A schedule of one round in which the roles take turns. -/
def turns (threads : Nat) : List Nat :=
  (List.range threads).flatMap (fun role => [role, role]) ++ 0 :: (List.range threads ++ [0])

section Turns

variable {left counter : Nat} {seen : List Nat}

theorem run_turn (left counter : Nat) (seen : List Nat) (before after : List Stage) :
    run ⟨counter, before ++ .load :: after, left + 1, seen⟩ [before.length, before.length] =
      ⟨counter + 1, before ++ .written :: after, left + 1, seen⟩ := by
  simp [run, step]

theorem run_writes (left : Nat) (seen : List Nat) {upTo : Nat} (hle : upTo ≤ threads) :
    run ⟨0, List.replicate threads .load, left + 1, seen⟩
        ((List.range upTo).flatMap fun role => [role, role]) =
      ⟨upTo, List.replicate upTo .written ++ List.replicate (threads - upTo) .load, left + 1,
        seen⟩ := by
  induction upTo with
  | zero => rfl
  | succ role ih =>
    have hrest : threads - role = (threads - (role + 1)) + 1 := by omega
    have hturn := run_turn left role seen (List.replicate role .written)
      (List.replicate (threads - (role + 1)) .load)
    rw [List.length_replicate] at hturn
    rw [List.range_succ, List.flatMap_append, run_append, ih (by omega), hrest,
      List.replicate_succ, List.flatMap_singleton, hturn, List.replicate_succ', List.append_assoc,
      List.singleton_append]

theorem run_meet (hpos : 0 < threads) :
    run ⟨counter, List.replicate threads .written, left + 1, seen⟩ [0] =
      ⟨counter, List.replicate threads .recording, left + 1, seen⟩ := by
  simp [run, step, Moment.meet, hpos]

theorem run_next (hpos : 0 < threads) :
    run ⟨counter, List.replicate threads .ended, left + 1, seen⟩ [0] =
      ⟨counter, List.replicate threads .load, left, seen⟩ := by
  simp [run, step, Moment.meet, hpos]

theorem run_pass (left counter : Nat) (seen : List Nat) {before : List Stage} (hne : before ≠ [])
    (after : List Stage) :
    run ⟨counter, before ++ .recording :: after, left + 1, seen⟩ [before.length] =
      ⟨counter, before ++ .ended :: after, left + 1, seen⟩ := by
  simp [run, step, hne]

theorem run_records (left counter : Nat) (seen : List Nat) {upTo : Nat} (hle : upTo + 1 ≤ threads) :
    run ⟨counter, List.replicate threads .recording, left + 1, seen⟩ (List.range (upTo + 1)) =
      ⟨0, List.replicate (upTo + 1) .ended ++ List.replicate (threads - (upTo + 1)) .recording,
        left + 1, seen ++ [counter]⟩ := by
  induction upTo with
  | zero =>
    have hsome : threads = (threads - 1) + 1 := by omega
    rw [hsome]
    simp [run, step, List.replicate_succ]
  | succ role ih =>
    have hrest : threads - (role + 1) = (threads - (role + 1 + 1)) + 1 := by omega
    have hne : List.replicate (role + 1) Stage.ended ≠ [] := by simp
    have hpass := run_pass left 0 (seen ++ [counter]) hne
      (List.replicate (threads - (role + 1 + 1)) .recording)
    rw [List.length_replicate] at hpass
    rw [List.range_succ, run_append, ih (by omega), hrest, List.replicate_succ (n := threads - _),
      hpass, List.replicate_succ' (n := role + 1), List.append_assoc, List.singleton_append]

theorem run_turns (hpos : 0 < threads) :
    run ⟨0, List.replicate threads .load, left + 1, seen⟩ (turns threads) =
      ⟨0, List.replicate threads .load, left, seen ++ [threads]⟩ := by
  have hlast : threads - 1 + 1 ≤ threads := by omega
  have hwrites := run_writes left seen (Nat.le_refl threads)
  have hrecords := run_records left threads seen hlast
  rw [Nat.sub_self, List.replicate_zero, List.append_nil] at hwrites
  rw [Nat.sub_add_cancel hpos, Nat.sub_self, List.replicate_zero, List.append_nil] at hrecords
  rw [turns, ← List.singleton_append, run_append, run_append, run_append, hwrites, run_meet hpos,
    hrecords, run_next hpos]

theorem run_rounds (hpos : 0 < threads) :
    run ⟨0, List.replicate threads .load, rounds, seen⟩
        (List.replicate rounds (turns threads)).flatten =
      ⟨0, List.replicate threads .load, 0, seen ++ List.replicate rounds threads⟩ := by
  induction rounds generalizing seen with
  | zero => simp [run]
  | succ rounds ih =>
    rw [List.replicate_succ, List.flatten_cons, run_append, run_turns hpos, ih, List.append_assoc,
      List.singleton_append, ← List.replicate_succ]

/-- A schedule of all rounds in which the roles take turns. -/
def allTurns (rounds threads : Nat) : List Nat := (List.replicate rounds (turns threads)).flatten

theorem run_allTurns (hpos : 0 < threads) :
    run (start rounds threads) (allTurns rounds threads) =
      ⟨0, List.replicate threads .load, 0, seenInTurns rounds threads⟩ :=
  run_rounds hpos

end Turns

/-! ## Reports -/

section Report

variable {job : Job} {seen : List Nat} {result : TestResult}

/-- A result to which one observation of each value has been added. -/
def observe (result : TestResult) (seen : List Nat) : TestResult :=
  seen.foldl (fun result value => result.addState (toString value) 1) result

theorem status_observe : (observe result seen).status = result.status := by
  induction seen generalizing result with
  | nil => rfl
  | cons value seen ih => exact ih.trans TestResult.status_addState

theorem totalCount_observe :
    (observe result seen).totalCount = result.totalCount + seen.length := by
  induction seen generalizing result with
  | nil => rfl
  | cons value seen ih =>
    refine ih.trans ?_
    rw [TestResult.totalCount_addState, List.length_cons]
    omega

theorem mem_keys_observe {label : String} : label ∈ (observe result seen).states.keys ↔
    (∃ value ∈ seen, label = toString value) ∨ label ∈ result.states.keys := by
  induction seen generalizing result with
  | nil => simp [observe]
  | cons value seen ih =>
    refine ih.trans ?_
    rw [TestResult.mem_keys_addState, ← or_assoc, or_comm (a := ∃ _, _)]
    simp [or_comm]

/-- A report of recorded values: each of them is one observation of its decimal numeral. -/
structure Reports (job : Job) (seen : List Nat) (result : TestResult) : Prop where
  status_eq : result.status = .normal
  totalCount_eq : result.totalCount = seen.length
  mem_keys_iff : ∀ label, label ∈ result.states.keys ↔ ∃ value ∈ seen, label = toString value

theorem reports_report (job : Job) (seen : List Nat) : Reports job seen (report job seen) where
  status_eq := status_observe
  totalCount_eq := totalCount_observe.trans (Nat.zero_add _)
  mem_keys_iff label := by
    refine mem_keys_observe.trans ?_
    simp

/-- Whether the threads of all roles can be named. -/
def Nameable (job : Job) : Prop := ∀ role ∈ job.roles, '\x00' ∉ (job.name ++ role).toList

theorem exists_mapM_ok_iff {α β ε : Type} {f : α → Except ε β} {items : List α} :
    (∃ found, items.mapM f = .ok found) ↔ ∀ item ∈ items, ∃ b, f item = .ok b := by
  induction items with
  | nil => simp [pure, Except.pure]
  | cons item items ih =>
    rw [List.forall_mem_cons, ← ih, List.mapM_cons]
    cases f item with
    | error e => simp [bind, Except.bind]
    | ok b =>
      cases items.mapM f with
      | error e => simp [bind, Except.bind]
      | ok found => simp [bind, Except.bind, pure, Except.pure]

theorem exists_threadName_iff {name : String} :
    (∃ given, threadName name = .ok given) ↔ '\x00' ∉ name.toList := by
  constructor
  · rintro ⟨given, hgiven⟩ hnul
    obtain ⟨panic, hpanic⟩ := threadName_of_nul hnul
    rw [hpanic] at hgiven
    contradiction
  · exact fun hfree => ⟨name, threadName_of_nul_free hfree⟩

theorem exists_threadNames_iff (hsound : job.Sound) :
    (∃ names, threadNames job = .ok names) ↔ Nameable job := by
  have hall : job.roles.take job.threads = job.roles :=
    List.take_of_length_le (Nat.le_of_eq hsound.roles_length)
  unfold threadNames Nameable
  rw [hall, exists_mapM_ok_iff]
  refine forall₂_congr fun role _ => ?_
  rw [exists_threadName_iff]
  simp [String.toList_append]

/-- The workload returns exactly for a job whose threads can be named, and then with the report of
the interleaving in which the roles take turns. -/
theorem run_workload_eq_returned_iff (hsound : job.Sound) :
    (workload rounds).run job = .returned result ↔
      Nameable job ∧ result = report job (run (start rounds job.threads)
        (allTurns rounds job.threads)).seen := by
  rw [run_allTurns hsound.threads_pos, ← exists_threadNames_iff hsound]
  simp only [workload]
  cases threadNames job with
  | error panic => simp
  | ok names => simp [eq_comm]

end Report

/-! ## All interleavings -/

/-- In every interleaving the values recorded lie between one and the number of roles and every
round starts from zero; every interleaving can be carried on to its end, and one that has ended has
recorded one value for each round, which is what its report shows. What the workload returns is the
report of such an interleaving. -/
theorem records_one_value_per_round {job : Job} (hsound : job.Sound) (rounds : Nat)
    (schedule : List Nat) :
    let m := run (start rounds job.threads) schedule
    (∀ value ∈ m.seen, 1 ≤ value ∧ value ≤ job.threads) ∧
    (m.AtStart → m.counter = 0) ∧
    (∃ more, (run m more).isFinished = true) ∧
    (m.isFinished = true → m.seen.length = rounds ∧
      let result := report job m.seen
      result.status = .normal ∧ result.totalCount = rounds ∧
      (∀ label ∈ result.states.keys, ∃ value, label = toString value ∧
        1 ≤ value ∧ value ≤ job.threads) ∧
      (job.threads = 1 → ∀ label ∈ result.states.keys, label = "1")) ∧
    (let last := run (start rounds job.threads) (allTurns rounds job.threads)
     last.isFinished = true ∧ ∀ result, (workload rounds).run job = .returned result ↔
        Nameable job ∧ result = report job last.seen) := by
  intro m
  have hpos := hsound.threads_pos
  have hregular : Regular job.threads rounds m := regular_start.of_run hpos schedule
  have hreports := reports_report job m.seen
  have hlabels : ∀ label ∈ (report job m.seen).states.keys, ∃ value, label = toString value ∧
      1 ≤ value ∧ value ≤ job.threads := by
    intro label hlabel
    obtain ⟨value, hvalue, rfl⟩ := (hreports.mem_keys_iff label).mp hlabel
    exact ⟨value, rfl, hregular.seen_range value hvalue⟩
  refine ⟨hregular.seen_range, hregular.counter_eq_zero hpos, hregular.exists_finish hpos, ?_, ?_⟩
  · intro hfinished
    have hlength := hregular.length_seen hfinished
    refine ⟨hlength, hreports.status_eq, hreports.totalCount_eq.trans hlength, hlabels, ?_⟩
    intro hone label hlabel
    obtain ⟨value, rfl, hlow, hhigh⟩ := hlabels label hlabel
    rw [Nat.le_antisymm (hone ▸ hhigh) hlow]
    rfl
  · refine ⟨?_, fun result => run_workload_eq_returned_iff hsound⟩
    rw [run_allTurns hpos]
    rfl

/-- Two roles that both read the counter before either writes: an update is lost, and the one round
records a one. -/
theorem records_one_value_per_round_lost_update :
    let job := Job.uniform "t.RacyCounter" harness ["actor1", "actor2"] .tier2 .embedded
    let m := run (start 1 job.threads) [0, 1, 0, 1, 1, 0, 1, 0]
    job.Sound ∧ m = ⟨0, [.load, .load], 0, [1]⟩ ∧ (report job m.seen).totalCount = 1 ∧
      (report job m.seen).states.keys = ["1"] := by
  intro job m
  have hsound : job.Sound := by decide
  have hend : m = ⟨0, [.load, .load], 0, [1]⟩ := by decide
  have hfinished : m.isFinished = true := by rw [hend]; rfl
  obtain ⟨-, -, -, hreport, -⟩ :=
    records_one_value_per_round hsound 1 [0, 1, 0, 1, 1, 0, 1, 0]
  exact ⟨hsound, hend, (hreport hfinished).2.2.1, by rw [hend]; decide⟩

end StressBatch.RacyCounter
