import Mathlib
import StressBatch.Link.Switchboard
import StressBatch.Proofs.Link.Handling

/-!
# Every reply goes to the call that waits for it

Calls under distinct ids do not get into each other's way, whatever the order of their steps and of
the messages. The list of a client has an entry for just the calls that have neither returned nor
been given a reply. A call is given the first reply under its own id that arrives while it is on the
list, and what else arrives under that id is dropped. When all calls have returned the list is
empty.

The invariant is `Routed`: it ties the list to the calls, and each call to the moves since it began.
-/

namespace StressBatch.Link

/-- Whether a call is still to be given a reply: it is not over and has been given none. -/
def Call.isOpen (call : Call) : Bool := !call.phase.isOver && call.reply.isNone

theorem Call.isOpen_iff {call : Call} :
    call.isOpen = true ↔ call.phase.isOver = false ∧ call.reply = none := by
  simp [Call.isOpen]

theorem Call.id_congr {call after : Call} (h : after.request = call.request) :
    after.id = call.id := by
  rw [Call.id, h, Call.id]

namespace Switchboard

/-! ## The moves as seen from outside -/

/-- The request of the call that begins with a move. -/
def Move.request? : Move → Option Envelope
  | .register request => some request
  | _ => none

/-- The requests of the calls that begin. -/
def requests (moves : List Move) : List Envelope := moves.filterMap Move.request?

/-- The reply that arrives with a move. -/
def Move.reply? : Move → Option Envelope
  | .receive frames => envelopeOfFrames? frames
  | _ => none

/-- The replies under an id that arrive. -/
def repliesTo (id : CorrelationId) (moves : List Move) : List Envelope :=
  (moves.filterMap Move.reply?).filter fun reply => reply.correlationId = id

section

variable {patience : Time.Span} {moves : List Move} {move : Move} {board : Switchboard}
  {position : Nat} {call after : Call} {request reply : Envelope} {id : CorrelationId}

theorem requests_append (front back : List Move) :
    requests (front ++ back) = requests front ++ requests back := List.filterMap_append

theorem repliesTo_append (id : CorrelationId) (front back : List Move) :
    repliesTo id (front ++ back) = repliesTo id front ++ repliesTo id back := by
  rw [repliesTo, List.filterMap_append, List.filter_append]
  rfl

theorem repliesTo_singleton_eq_nil_iff :
    repliesTo id [move] = [] ↔ ∀ reply, move.reply? = some reply → reply.correlationId ≠ id := by
  cases h : move.reply? <;> simp [repliesTo, h]

/-! ## What is kept -/

/-- How a call has come to its reply: the reply bears the id of the call and arrived when the call
was on the list, and it is the first such reply since the call began. -/
def Given (patience : Time.Span) (moves : List Move) (call : Call) (reply : Envelope) : Prop :=
  ∃ front middle frames back,
    moves = front ++ .register call.request :: middle ++ .receive frames :: back ∧
    envelopeOfFrames? frames = some reply ∧ reply.correlationId = call.id ∧
    repliesTo call.id middle = [] ∧
    call.id ∈ (run { patience := patience } (front ++ .register call.request :: middle)).ids

/-- What has happened to a call since it began: no reply to it has arrived as long as it is open,
and if it has been given a reply, it has come to it as `Given` says. -/
structure Since (patience : Time.Span) (moves : List Move) (call : Call) : Prop where
  began : ∃ front back, moves = front ++ .register call.request :: back ∧
    (call.isOpen = true → repliesTo call.id back = [])
  given : ∀ reply, call.reply = some reply → Given patience moves call reply

/-- What a phase says about its call: a reply that is returned is the one that the call was given,
and the call fails only because it cannot send its request or because its time is over. -/
structure Warranted (patience : Time.Span) (call : Call) : Prop where
  answered : ∀ reply, call.phase = .answered reply → call.reply = some reply
  failed : ∀ failure, call.phase = .leaving failure ∨ call.phase = .failed failure →
    failure = connectionClosed ∨ failure = .timeout patience

/-- What the moves of a client keep. -/
structure Routed (patience : Time.Span) (moves : List Move) (board : Switchboard) : Prop where
  reached : board = run { patience := patience } moves
  patience_eq : board.patience = patience
  requests_eq : board.calls.map (·.request) = requests moves
  distinct : (board.calls.map Call.id).Nodup
  nodup_ids : board.ids.Nodup
  listed : ∀ id position, (id, position) ∈ board.pending ↔
    ∃ call, board.calls[position]? = some call ∧ call.id = id ∧ call.isOpen = true
  since : ∀ call ∈ board.calls, Since patience moves call
  warranted : ∀ call ∈ board.calls, Warranted patience call

theorem run_concat (moves : List Move) (move : Move) :
    board.run (moves ++ [move]) = (board.run moves).step move := by
  rw [run, List.foldl_append]
  rfl

theorem mem_withoutId {entry : CorrelationId × Nat} :
    entry ∈ board.withoutId id ↔ entry ∈ board.pending ∧ entry.1 ≠ id := by
  simp [withoutId]

theorem ids_withoutId_sublist (board : Switchboard) (id : CorrelationId) :
    ((board.withoutId id).map Prod.fst).Sublist board.ids :=
  List.filter_sublist.map Prod.fst

theorem mem_of_lookup (h : board.pending.lookup id = some position) :
    (id, position) ∈ board.pending := by
  obtain ⟨before, after, heq, -⟩ := List.lookup_eq_some_iff.mp h
  rw [heq]
  exact List.mem_append_right _ List.mem_cons_self

theorem mem_ids_iff (h : Routed patience moves board) :
    id ∈ board.ids ↔ ∃ call ∈ board.calls, call.id = id ∧ call.isOpen = true := by
  constructor
  · intro hid
    obtain ⟨⟨_, position⟩, hentry, rfl⟩ := List.mem_map.mp hid
    obtain ⟨call, hfound, hcall, hopen⟩ := (h.listed _ position).mp hentry
    exact ⟨call, List.mem_of_getElem? hfound, hcall, hopen⟩
  · rintro ⟨call, hmem, hcall, hopen⟩
    obtain ⟨position, hfound⟩ := List.getElem?_of_mem hmem
    exact List.mem_map.mpr ⟨(id, position), (h.listed id position).mpr
      ⟨call, hfound, hcall, hopen⟩, rfl⟩

/-- Distinct calls have distinct ids. -/
theorem Routed.position_eq (h : Routed patience moves board) {other : Nat} {found : Call}
    (hfound : board.calls[position]? = some call) (hother : board.calls[other]? = some found)
    (hid : found.id = call.id) : other = position := by
  have hone : (board.calls.map Call.id)[position]? = some call.id := by
    rw [List.getElem?_map, hfound]
    rfl
  have htwo : (board.calls.map Call.id)[other]? = some call.id := by
    rw [List.getElem?_map, hother, Option.map_some, hid]
  obtain ⟨hlt, -⟩ := List.getElem?_eq_some_iff.mp htwo
  exact (List.getElem?_inj hlt h.distinct).mp (htwo.trans hone.symm)

/-! ## What a move keeps -/

theorem Given.mono (h : Given patience moves call reply) (move : Move)
    (hrequest : after.request = call.request) : Given patience (moves ++ [move]) after reply := by
  obtain ⟨front, middle, frames, back, rfl, hrest⟩ := h
  have hid := Call.id_congr hrequest
  refine ⟨front, middle, frames, back ++ [move], ?_, ?_⟩
  · simp only [hrequest, List.append_assoc, List.cons_append]
  · rw [hid, hrequest]
    exact hrest

/-- A call that is not given a reply with a move. -/
theorem Since.mono (h : Since patience moves call) (after : Call)
    (hrequest : after.request = call.request) (hreply : after.reply = call.reply)
    (hopen : after.isOpen = true → call.isOpen = true ∧ repliesTo call.id [move] = []) :
    Since patience (moves ++ [move]) after where
  began := by
    obtain ⟨front, back, rfl, hnone⟩ := h.began
    have hid := Call.id_congr hrequest
    refine ⟨front, back ++ [move], by simp [hrequest], fun hafter => ?_⟩
    obtain ⟨hcall, hmove⟩ := hopen hafter
    rw [hid, repliesTo_append, hnone hcall, hmove, List.append_nil]
  given := by
    intro reply hafter
    exact (h.given reply (hreply ▸ hafter)).mono move hrequest

/-- The call that is given the reply that arrives. -/
theorem Since.given_now (h : Since patience moves call) {frames : List Bytes}
    (hframes : envelopeOfFrames? frames = some reply) (hid : reply.correlationId = call.id)
    (hopen : call.isOpen = true) (hlisted : call.id ∈ (run { patience := patience } moves).ids) :
    Since patience (moves ++ [.receive frames]) { call with reply := some reply } where
  began := by
    obtain ⟨front, back, rfl, -⟩ := h.began
    exact ⟨front, back ++ [.receive frames], by simp, by simp [Call.isOpen]⟩
  given := by
    rintro _ ⟨⟩
    obtain ⟨front, back, rfl, hnone⟩ := h.began
    exact ⟨front, back, frames, [], by simp, hframes, hid, hnone hopen, hlisted⟩

/-- A move that brings neither a call nor a reply that is waited for changes nothing. -/
theorem Routed.kept (h : Routed patience moves board) (hstep : board.step move = board)
    (hrequest : move.request? = none)
    (hreply : ∀ reply, move.reply? = some reply → reply.correlationId ∉ board.ids) :
    Routed patience (moves ++ [move]) (board.step move) := by
  rw [hstep]
  refine ⟨?_, h.patience_eq, ?_, h.distinct, h.nodup_ids, h.listed, ?_, h.warranted⟩
  · rw [run_concat, ← h.reached, hstep]
  · rw [requests_append, ← h.requests_eq]
    simp [requests, hrequest]
  · intro call hmem
    refine (h.since call hmem).mono call rfl rfl fun hopen => ⟨hopen, ?_⟩
    rw [repliesTo_singleton_eq_nil_iff]
    intro reply harrived hid
    exact hreply reply harrived ((mem_ids_iff h).mpr ⟨call, hmem, hid.symm, hopen⟩)

/-- A move that changes the call at one position, and at most the entry of that call. -/
theorem Routed.changed (h : Routed patience moves board)
    (hfound : board.calls[position]? = some call) (after : Call)
    (pending : List (CorrelationId × Nat)) (hstep : board.step move =
      { board with pending := pending, calls := board.calls.set position after })
    (hrequest : move.request? = none)
    (hothers : ∀ id, id ≠ call.id → repliesTo id [move] = [])
    (hpending : ∀ entry, entry ∈ pending ↔
      entry ∈ board.pending ∧ (entry.1 = call.id → after.isOpen = true))
    (hnodup : (pending.map Prod.fst).Nodup) (hopen : after.isOpen = true → call.isOpen = true)
    (hsame : after.request = call.request)
    (hsince : Since patience (moves ++ [move]) after)
    (hwarranted : Warranted patience after) :
    Routed patience (moves ++ [move]) (board.step move) := by
  have hid := Call.id_congr hsame
  have hlt : position < board.calls.length := (List.getElem?_eq_some_iff.mp hfound).1
  have hset : ∀ other found, (board.calls.set position after)[other]? = some found →
      (other = position ∧ found = after) ∨
        (other ≠ position ∧ board.calls[other]? = some found ∧ found.id ≠ call.id) := by
    intro other found hother
    rw [List.getElem?_set] at hother
    split at hother
    · next heq =>
      exact .inl ⟨heq.symm, (Option.some.inj hother).symm⟩
    · next hne =>
      exact .inr ⟨Ne.symm hne, hother, fun hsameId =>
        hne (h.position_eq hfound hother hsameId).symm⟩
  refine ⟨?_, ?_, ?_, ?_, ?_, fun id other => ?_, fun found hmem => ?_, ?_⟩
  · rw [run_concat, ← h.reached]
  · rw [hstep]
    exact h.patience_eq
  · rw [hstep, requests_append, ← h.requests_eq]
    simp [requests, hrequest, map_set_of_eq hfound hsame]
  · rw [hstep]
    show ((board.calls.set position after).map Call.id).Nodup
    rw [map_set_of_eq hfound hid]
    exact h.distinct
  · rw [hstep]
    exact hnodup
  · rw [hstep]
    show (id, other) ∈ pending ↔
      ∃ found, (board.calls.set position after)[other]? = some found ∧ _
    rw [hpending, h.listed]
    constructor
    · rintro ⟨⟨found, hother, rfl, hfoundOpen⟩, hafter⟩
      by_cases heq : other = position
      · subst heq
        obtain rfl : call = found := Option.some.inj (hfound.symm.trans hother)
        exact ⟨after, by simp [hlt], hid, hafter rfl⟩
      · exact ⟨found, by simp [Ne.symm heq, hother], rfl, hfoundOpen⟩
    · rintro ⟨found, hother, rfl, hfoundOpen⟩
      rcases hset other found hother with ⟨rfl, rfl⟩ | ⟨-, hold, hne⟩
      · exact ⟨⟨call, hfound, hid.symm, hopen hfoundOpen⟩, fun _ => hfoundOpen⟩
      · exact ⟨⟨found, hold, rfl, hfoundOpen⟩, fun heq => absurd heq hne⟩
  · rw [hstep] at hmem
    obtain ⟨other, hother⟩ := List.getElem?_of_mem hmem
    rcases hset other found hother with ⟨-, rfl⟩ | ⟨-, hold, hne⟩
    · exact hsince
    · exact (h.since found (List.mem_of_getElem? hold)).mono found rfl rfl fun hfoundOpen =>
        ⟨hfoundOpen, hothers _ hne⟩
  · rw [hstep]
    intro found hmem
    rcases List.mem_or_eq_of_mem_set hmem with hold | rfl
    · exact h.warranted found hold
    · exact hwarranted

/-- What a call does by itself neither opens nor closes it. -/
theorem isOpen_of_next? {listed : Bool} {turn : Turn} {phase : Phase}
    (h : call.next? patience listed turn = some phase) :
    ({ call with phase := phase } : Call).isOpen = call.isOpen := by
  simp only [Call.next?] at h
  split at h
  · next hphase => simp [Call.isOpen, ← Option.some.inj h, hphase, Phase.isOver]
  · next hphase => simp [Call.isOpen, ← Option.some.inj h, hphase, Phase.isOver]
  · next hreply => simp [Call.isOpen, hreply]
  · next hphase _ => simp [Call.isOpen, ← Option.some.inj h, hphase, Phase.isOver]
  · next hphase _ => simp [Call.isOpen, ← Option.some.inj h, hphase, Phase.isOver]
  · contradiction

/-- A call on the list does not find that nobody can give it a reply. -/
theorem warranted_of_next? {listed : Bool} {turn : Turn} {phase : Phase}
    (hlisted : call.isOpen = true → listed = true)
    (hnext : call.next? patience listed turn = some phase) :
    Warranted patience { call with phase := phase } := by
  simp only [Call.next?] at hnext
  split at hnext
  · obtain rfl := Option.some.inj hnext
    exact ⟨nofun, nofun⟩
  · obtain rfl := Option.some.inj hnext
    exact ⟨nofun, by simp⟩
  · obtain rfl := Option.some.inj hnext
    exact ⟨by simp_all, nofun⟩
  · obtain rfl := Option.some.inj hnext
    exact ⟨nofun, by simp⟩
  · next hphase hreply =>
    have hopen : call.isOpen = true := by simp [Call.isOpen, hphase, hreply, Phase.isOver]
    exact absurd (hlisted hopen) (by simp)
  · contradiction

/-- A call has its turn. -/
theorem Routed.turned (h : Routed patience moves board) (position : Nat) (turn : Turn) :
    Routed patience (moves ++ [.turn position turn]) (board.step (.turn position turn)) := by
  have hquiet : ∀ id, repliesTo id [.turn position turn] = [] := fun _ => rfl
  have hkept : board.step (.turn position turn) = board → _ := fun hstep => h.kept hstep rfl nofun
  cases hfound : board.calls[position]? with
  | none => exact hkept (by simp [step, Switchboard.turn, hfound])
  | some call =>
    cases hnext : call.next? board.patience
        (board.pending.any fun entry => entry.2 = position) turn with
    | none => exact hkept (by simp [step, Switchboard.turn, hfound, hnext])
    | some phase =>
      have hopen := isOpen_of_next? hnext
      have hlisted : call.isOpen = true →
          (board.pending.any fun entry => entry.2 = position) = true := by
        intro hcall
        rw [List.any_eq_true]
        exact ⟨(call.id, position), (h.listed _ _).mpr ⟨call, hfound, rfl, hcall⟩, by simp⟩
      have hentries : ∀ entry, entry ∈ board.pending ↔ entry ∈ board.pending ∧
          (entry.1 = call.id → ({ call with phase := phase } : Call).isOpen = true) := by
        intro entry
        refine ⟨fun hentry => ⟨hentry, fun hid => ?_⟩, And.left⟩
        obtain ⟨found, hother, hfoundId, hfoundOpen⟩ := (h.listed entry.1 entry.2).mp hentry
        have hposition := h.position_eq hfound hother (hfoundId.trans hid)
        rw [hposition, hfound] at hother
        rw [hopen, Option.some.inj hother]
        exact hfoundOpen
      have hsince := (h.since call (List.mem_of_getElem? hfound)).mono { call with phase := phase }
        rfl rfl fun hafter => ⟨hopen ▸ hafter, hquiet call.id⟩
      have hwarranted := warranted_of_next? hlisted (h.patience_eq ▸ hnext)
      refine h.changed hfound { call with phase := phase } board.pending ?_ rfl
        (fun id _ => hquiet id) hentries h.nodup_ids (fun hafter => hopen ▸ hafter) rfl hsince
        hwarranted
      simp [step, Switchboard.turn, hfound, hnext]

/-- What is no longer on the list once the entry of a call that is no longer open is struck off. -/
theorem mem_withoutId_closed (hopen : after.isOpen = false) (entry : CorrelationId × Nat) :
    entry ∈ board.withoutId call.id ↔
      entry ∈ board.pending ∧ (entry.1 = call.id → after.isOpen = true) := by
  simp [mem_withoutId, hopen]

/-- A call returns after it has given up. -/
theorem Routed.left (h : Routed patience moves board) (position : Nat) :
    Routed patience (moves ++ [.leave position]) (board.step (.leave position)) := by
  have hquiet : ∀ id, repliesTo id [.leave position] = [] := fun _ => rfl
  have hkept : board.step (.leave position) = board → _ := fun hstep => h.kept hstep rfl nofun
  cases hfound : board.calls[position]? with
  | none => exact hkept (by simp [step, leave, hfound])
  | some call =>
    have hmem := List.mem_of_getElem? hfound
    cases hphase : call.phase with
    | sending | waiting | answered reply | failed failure =>
      exact hkept (by simp [step, leave, hfound, hphase])
    | leaving failure =>
      have hclosed : ({ call with phase := .failed failure } : Call).isOpen = false := rfl
      refine h.changed hfound { call with phase := .failed failure } (board.withoutId call.id)
        ?_ rfl (fun id _ => hquiet id) (mem_withoutId_closed hclosed) ?_ nofun rfl ?_ ?_
      · simp [step, leave, hfound, hphase]
      · exact h.nodup_ids.sublist (ids_withoutId_sublist board call.id)
      · exact (h.since call hmem).mono _ rfl rfl nofun
      · refine ⟨nofun, ?_⟩
        rintro failure (hleaving | hfailed)
        · contradiction
        · obtain rfl := Phase.failed.inj hfailed
          exact (h.warranted call hmem).failed _ (.inl hphase)

/-- A reply arrives for a call on the list. -/
theorem Routed.given (h : Routed patience moves board) {frames : List Bytes}
    (hframes : envelopeOfFrames? frames = some reply)
    (hlookup : board.pending.lookup reply.correlationId = some position) :
    Routed patience (moves ++ [.receive frames]) (board.step (.receive frames)) := by
  have hentry := mem_of_lookup hlookup
  obtain ⟨call, hfound, hid, hopen⟩ := (h.listed _ _).mp hentry
  have hclosed : ({ call with reply := some reply } : Call).isOpen = false := by
    simp [Call.isOpen]
  have hothers : ∀ other, other ≠ call.id → repliesTo other [.receive frames] = [] := by
    intro other hne
    rw [repliesTo_singleton_eq_nil_iff]
    intro arrived harrived
    obtain rfl : reply = arrived := by simpa [Move.reply?, hframes] using harrived
    rw [← hid]
    exact hne.symm
  have hlisted : call.id ∈ (run { patience := patience } moves).ids := by
    rw [← h.reached, hid]
    exact List.mem_map.mpr ⟨_, hentry, rfl⟩
  have hmem := List.mem_of_getElem? hfound
  have hsince := (h.since call hmem).given_now hframes hid.symm hopen hlisted
  have hwarranted := h.warranted call hmem
  refine h.changed hfound { call with reply := some reply } (board.withoutId call.id) ?_ rfl
    hothers (mem_withoutId_closed hclosed) ?_ ?_ rfl hsince ?_
  · simp [step, receive, hframes, hlookup, hid, List.modify_eq_set_getElem?, hfound]
  · exact h.nodup_ids.sublist (ids_withoutId_sublist board call.id)
  · intro hafter
    exact absurd (hclosed.symm.trans hafter) (by simp)
  · refine ⟨fun other hanswered => ?_, hwarranted.failed⟩
    -- an open call has not returned
    have hreply := hwarranted.answered other hanswered
    rw [(Call.isOpen_iff.mp hopen).2] at hreply
    contradiction

/-- A message arrives. -/
theorem Routed.received (h : Routed patience moves board) (frames : List Bytes) :
    Routed patience (moves ++ [.receive frames]) (board.step (.receive frames)) := by
  cases hframes : envelopeOfFrames? frames with
  | none =>
    refine h.kept (by simp [step, receive, hframes]) rfl fun reply harrived => ?_
    rw [Move.reply?, hframes] at harrived
    contradiction
  | some reply =>
    cases hlookup : board.pending.lookup reply.correlationId with
    | none =>
      refine h.kept (by simp [step, receive, hframes, hlookup]) rfl fun arrived harrived => ?_
      obtain rfl : reply = arrived := by simpa [Move.reply?, hframes] using harrived
      intro hid
      obtain ⟨entry, hentry, hentryId⟩ := List.mem_map.mp hid
      have hother := List.lookup_eq_none_iff.mp hlookup entry hentry
      simp [hentryId] at hother
    | some position => exact h.given hframes hlookup

/-- A call begins under an id of its own. -/
theorem Routed.registered (h : Routed patience moves board)
    (hfresh : ∀ call ∈ board.calls, call.id ≠ request.correlationId) :
    Routed patience (moves ++ [.register request]) (board.step (.register request)) := by
  have hquiet : ∀ id, repliesTo id [.register request] = [] := fun _ => rfl
  have hnew : request.correlationId ∉ board.ids := by
    intro hid
    obtain ⟨call, hmem, hcall, -⟩ := (mem_ids_iff h).mp hid
    exact hfresh call hmem hcall
  have hkept : board.withoutId request.correlationId = board.pending := by
    rw [withoutId, List.filter_eq_self]
    intro entry hentry
    have hne : entry.1 ≠ request.correlationId := by
      intro heq
      exact hnew (List.mem_map.mpr ⟨entry, hentry, heq⟩)
    simpa using hne
  have hstep : board.step (.register request) =
      { board with
          pending := board.pending ++ [(request.correlationId, board.calls.length)]
          calls := board.calls ++ [{ request := request }] } := by
    simp only [step, register, hkept]
  have hfound : ∀ position call, (board.calls ++ [{ request := request }])[position]? = some call ↔
      board.calls[position]? = some call ∨
        (position = board.calls.length ∧ call = { request := request }) := by
    intro position call
    rw [List.getElem?_append, List.getElem?_singleton]
    grind
  rw [hstep]
  constructor
  case reached => rw [run_concat, ← h.reached, hstep]
  case patience_eq => exact h.patience_eq
  case requests_eq =>
    rw [requests_append, ← h.requests_eq]
    simp [requests, Move.request?]
  case distinct =>
    rw [List.map_append, List.nodup_append]
    refine ⟨h.distinct, by simp, ?_⟩
    intro id hid other hother
    obtain ⟨call, hmem, rfl⟩ := List.mem_map.mp hid
    rw [List.mem_singleton.mp hother]
    exact hfresh call hmem
  case nodup_ids =>
    show ((board.pending ++ [(request.correlationId, board.calls.length)]).map Prod.fst).Nodup
    rw [List.map_append, List.nodup_append]
    refine ⟨h.nodup_ids, by simp, ?_⟩
    intro id hid other hother
    rw [List.mem_singleton.mp hother]
    rintro rfl
    exact hnew hid
  case listed =>
    intro id position
    rw [List.mem_append, h.listed, List.mem_singleton]
    simp only [hfound]
    constructor
    · rintro (⟨call, hold, hcall⟩ | hentry)
      · exact ⟨call, .inl hold, hcall⟩
      · obtain ⟨rfl, rfl⟩ := Prod.mk.inj hentry
        exact ⟨{ request := request }, .inr ⟨rfl, rfl⟩, rfl, rfl⟩
    · rintro ⟨call, hold | ⟨rfl, rfl⟩, rfl, hopen⟩
      · exact .inl ⟨call, hold, rfl, hopen⟩
      · exact .inr rfl
  case since =>
    intro call hmem
    rcases List.mem_append.mp hmem with hold | hlast
    · exact (h.since call hold).mono call rfl rfl fun hopen => ⟨hopen, hquiet call.id⟩
    · rw [List.mem_singleton.mp hlast]
      exact ⟨⟨moves, [], rfl, fun _ => rfl⟩, nofun⟩
  case warranted =>
    intro call hmem
    rcases List.mem_append.mp hmem with hold | hlast
    · exact h.warranted call hold
    · rw [List.mem_singleton.mp hlast]
      exact ⟨nofun, nofun⟩

/-- What is kept is kept by every move. -/
theorem Routed.next (h : Routed patience moves board)
    (hdistinct : ((requests (moves ++ [move])).map (·.correlationId)).Nodup) :
    Routed patience (moves ++ [move]) (board.step move) := by
  cases move with
  | register request =>
    refine h.registered fun call hmem heq => ?_
    rw [requests_append, ← h.requests_eq, List.map_append, List.nodup_append] at hdistinct
    obtain ⟨-, -, hne⟩ := hdistinct
    exact hne call.id (by simpa using ⟨call, hmem, rfl⟩) request.correlationId
      List.mem_cons_self heq
  | turn position turn => exact h.turned position turn
  | leave position => exact h.left position
  | receive frames => exact h.received frames

theorem routed_run (patience : Time.Span) (moves : List Move)
    (hdistinct : ((requests moves).map (·.correlationId)).Nodup) :
    Routed patience moves (run { patience := patience } moves) := by
  induction moves using List.reverseRecOn with
  | nil =>
    exact ⟨rfl, rfl, rfl, List.nodup_nil, List.nodup_nil, by simp [run], by simp [run],
      by simp [run]⟩
  | append_singleton moves move ih =>
    have hbefore : ((requests moves).map (·.correlationId)).Nodup := by
      rw [requests_append, List.map_append] at hdistinct
      exact (List.nodup_append.mp hdistinct).1
    rw [run_concat]
    exact (ih hbefore).next hdistinct

theorem receive_stray {frames : List Bytes}
    (hstray : ∀ reply, envelopeOfFrames? frames = some reply → reply.correlationId ∉ board.ids) :
    board.receive frames = board := by
  rw [receive]
  split
  · rfl
  · next reply hframes =>
    split
    · rfl
    · next position hlookup =>
      exact absurd (List.mem_map.mpr ⟨_, mem_of_lookup hlookup, rfl⟩) (hstray reply hframes)

/-- A reply leaves the calls under other ids and their entries alone. -/
theorem receive_bystander (h : Routed patience moves board) {frames : List Bytes}
    (hframes : envelopeOfFrames? frames = some reply)
    (hfound : board.calls[position]? = some call) (hid : call.id ≠ reply.correlationId) :
    (board.receive frames).calls[position]? = some call ∧
      (call.id ∈ (board.receive frames).ids ↔ call.id ∈ board.ids) := by
  cases hlookup : board.pending.lookup reply.correlationId with
  | none => simp [receive, hframes, hlookup, hfound]
  | some other =>
    have hreceive : board.receive frames =
        { board with
            pending := board.withoutId reply.correlationId
            calls := board.calls.modify other fun call => { call with reply := some reply } } := by
      simp only [receive, hframes, hlookup]
    rw [hreceive]
    constructor
    · have hne : other ≠ position := by
        rintro rfl
        obtain ⟨found, hother, hfoundId, -⟩ := (h.listed _ _).mp (mem_of_lookup hlookup)
        rw [hfound] at hother
        exact hid (Option.some.inj hother ▸ hfoundId)
      simp [hne, hfound]
    · simp [ids, withoutId, hid]

/-! ## A call alone -/

theorem run_cons (board : Switchboard) (move : Move) (moves : List Move) :
    board.run (move :: moves) = (board.step move).run moves := rfl

theorem client_run_cons (client : Client) (move : Client.Move) (moves : List Client.Move) :
    client.run (move :: moves) = (client.step move).run moves := rfl

theorem run_of_empty (hempty : board.pending = []) (messages : List (List Bytes)) :
    board.run (messages.map .receive) = board := by
  induction messages with
  | nil => rfl
  | cons frames messages ih =>
    have hstep : board.step (.receive frames) = board :=
      receive_stray fun reply _ => by simp [ids, hempty]
    rw [List.map_cons, run_cons, hstep, ih]

theorem client_run_of_empty {client : Client} (hempty : client.waiting = [])
    (messages : List (List Bytes)) : client.run (messages.map .receive) = client := by
  induction messages with
  | nil => rfl
  | cons frames messages ih =>
    have hstep : client.step (.receive frames) = client := by
      simp only [Client.step, Client.receive, Client.caller?, hempty, List.lookup_nil]
      split <;> rfl
    rw [List.map_cons, client_run_cons, hstep, ih]

/-- A call that is the only one is given what `replyAmong?` says, once it has sent its request. -/
theorem reply_alone (patience : Time.Span) (request : Envelope) (messages : List (List Bytes)) :
    (run { patience := patience }
      (.register request :: .turn 0 .send :: messages.map .receive)).calls =
      [⟨request, replyAmong? request messages, .waiting⟩] := by
  have hwaiting : ∀ messages : List (List Bytes),
      (run ⟨patience, [(request.correlationId, 0)], [⟨request, none, .waiting⟩]⟩
        (messages.map .receive)).calls =
      [⟨request, ((Client.run ⟨[(request.correlationId, 0)], []⟩
        (messages.map .receive)).ended.lookup 0).join, .waiting⟩] := by
    intro messages
    induction messages with
    | nil => rfl
    | cons frames messages ih =>
      rw [List.map_cons, run_cons, List.map_cons, client_run_cons]
      cases hframes : envelopeOfFrames? frames with
      | none =>
        simp only [step, receive, Client.step, Client.receive, hframes]
        exact ih
      | some reply =>
        by_cases hid : reply.correlationId = request.correlationId
        · -- the reply is the one, and what comes after it finds nobody
          simp only [step, receive, Client.step, Client.receive, Client.caller?, hframes, hid,
            withoutId, Client.withoutId, List.lookup_cons_self]
          rw [run_of_empty (by simp), client_run_of_empty (by simp)]
          rfl
        · have hlookup : List.lookup reply.correlationId [(request.correlationId, 0)] = none := by
            simp [List.lookup, beq_eq_false_iff_ne.mpr hid]
          simp only [step, receive, Client.step, Client.receive, Client.caller?, hframes, hlookup]
          exact ih
  exact hwaiting messages

end

end Switchboard

/-- Calls under distinct ids each get the first reply to them, in whatever order things happen. The
list of the client has one entry for each call that has neither returned nor been given a reply, and
no reply to such a call has arrived since it began. A call that returns a reply returns the one it
was given, which is the first under its own id since it began and arrived while the call was on the
list; no reply is given to two calls. A message that brings no reply for a call on the list changes
nothing, and a reply leaves all calls under other ids alone. When all calls have returned the list
is empty. A call that is the only one is given what `replyAmong?` says. -/
theorem reply_routing (patience : Time.Span) (moves : List Switchboard.Move)
    (hdistinct : ((Switchboard.requests moves).map (·.correlationId)).Nodup) :
    let board := Switchboard.run { patience := patience } moves
    board.calls.map (·.request) = Switchboard.requests moves ∧
    board.ids.Nodup ∧
    (∀ id, id ∈ board.ids ↔ ∃ call ∈ board.calls,
      call.id = id ∧ call.phase.isOver = false ∧ call.reply = none) ∧
    (∀ call ∈ board.calls, call.phase.isOver = false → call.reply = none →
      ∃ front back, moves = front ++ .register call.request :: back ∧
        Switchboard.repliesTo call.id back = []) ∧
    (∀ call ∈ board.calls, ∀ reply,
      (call.phase = .answered reply → call.reply = some reply) ∧
      (call.reply = some reply → Switchboard.Given patience moves call reply)) ∧
    (∀ call ∈ board.calls, ∀ failure, call.phase = .failed failure →
      failure = connectionClosed ∨ failure = .timeout patience) ∧
    (∀ (first second : Nat) (call other : Call) (reply : Envelope),
      board.calls[first]? = some call → board.calls[second]? = some other →
      call.reply = some reply → other.reply = some reply → first = second) ∧
    (∀ frames, (∀ reply, envelopeOfFrames? frames = some reply →
        reply.correlationId ∉ board.ids) → board.receive frames = board) ∧
    (∀ (frames : List Bytes) (reply : Envelope) (position : Nat) (call : Call),
      envelopeOfFrames? frames = some reply →
      board.calls[position]? = some call → call.id ≠ reply.correlationId →
      (board.receive frames).calls[position]? = some call ∧
        (call.id ∈ (board.receive frames).ids ↔ call.id ∈ board.ids)) ∧
    ((∀ call ∈ board.calls, call.phase.isOver = true) → board.pending = []) ∧
    ∀ request messages,
      (Switchboard.run { patience := patience }
        (.register request :: .turn 0 .send :: messages.map .receive)).calls =
      [⟨request, replyAmong? request messages, .waiting⟩] := by
  intro board
  have hrouted : Switchboard.Routed patience moves board :=
    Switchboard.routed_run patience moves hdistinct
  have hids : ∀ id, id ∈ board.ids ↔ ∃ call ∈ board.calls,
      call.id = id ∧ call.phase.isOver = false ∧ call.reply = none := by
    intro id
    rw [Switchboard.mem_ids_iff hrouted]
    simp only [Call.isOpen_iff]
  refine ⟨hrouted.requests_eq, hrouted.nodup_ids, hids, ?_, ?_, ?_, ?_, ?_, ?_, ?_,
    Switchboard.reply_alone patience⟩
  · intro call hmem hphase hreply
    obtain ⟨front, back, hmoves, hnone⟩ := (hrouted.since call hmem).began
    exact ⟨front, back, hmoves, hnone (Call.isOpen_iff.mpr ⟨hphase, hreply⟩)⟩
  · intro call hmem reply
    exact ⟨(hrouted.warranted call hmem).answered reply, (hrouted.since call hmem).given reply⟩
  · intro call hmem failure hfailed
    exact (hrouted.warranted call hmem).failed failure (.inr hfailed)
  · intro first second call other reply hfirst hsecond hcall hother
    have hcallSince := hrouted.since call (List.mem_of_getElem? hfirst)
    have hotherSince := hrouted.since other (List.mem_of_getElem? hsecond)
    obtain ⟨-, -, -, -, -, -, hcallId, -⟩ := hcallSince.given reply hcall
    obtain ⟨-, -, -, -, -, -, hotherId, -⟩ := hotherSince.given reply hother
    exact hrouted.position_eq hsecond hfirst (hcallId.symm.trans hotherId)
  · intro frames hstray
    exact Switchboard.receive_stray hstray
  · intro frames reply position call hframes hfound hid
    exact Switchboard.receive_bystander hrouted hframes hfound hid
  · intro hover
    rw [List.eq_nil_iff_forall_not_mem]
    intro entry hentry
    obtain ⟨call, hmem, -, hopen, -⟩ := (hids entry.1).mp (List.mem_map.mpr ⟨entry, hentry, rfl⟩)
    exact absurd ((hover call hmem).symm.trans hopen) (by simp)

/-- Another id. -/
def otherId : CorrelationId := ⟨List.replicate correlationSize 1, by simp⟩

/-- Two calls. The reply to the second comes twice; the reply to the first comes when it has given
up, and once more when it has returned. -/
def lateReplies : List Switchboard.Move :=
  let first := pullRequest ⟨sharedNow, .zero⟩ "fork-token-1"
  let second := pullRequest ⟨sharedNow, otherId⟩ "fork-token-2"
  let answer (request : Envelope) : Switchboard.Move :=
    .receive (replyTo request sharedNow (.ok (.job none))).frames
  [.register first, .register second, .turn 1 .send, .turn 0 .send, .receive [[], [1]],
    answer second, .turn 0 .expire, answer first, answer second, .leave 0, answer first,
    .turn 1 .collect]

theorem reply_routing_late :
    ((Switchboard.requests lateReplies).map (·.correlationId)).Nodup ∧
    (Switchboard.run { patience := defaultPatience } lateReplies).pending = [] ∧
    ∃ call ∈ (Switchboard.run { patience := defaultPatience } lateReplies).calls, ∃ reply,
      call.phase = .answered reply ∧ Switchboard.Given defaultPatience lateReplies call reply := by
  have hdistinct : ((Switchboard.requests lateReplies).map (·.correlationId)).Nodup := by decide
  have hover : ∀ call ∈ (Switchboard.run { patience := defaultPatience } lateReplies).calls,
      call.phase.isOver = true := by decide +kernel
  have hanswered : ∃ call ∈ (Switchboard.run { patience := defaultPatience } lateReplies).calls,
      ∃ reply ∈ call.reply, call.phase = .answered reply := by decide +kernel
  obtain ⟨-, -, -, -, hgiven, -, -, -, -, hempty, -⟩ :=
    reply_routing defaultPatience lateReplies hdistinct
  obtain ⟨call, hmem, reply, -, hphase⟩ := hanswered
  obtain ⟨hreturned, hfirst⟩ := hgiven call hmem reply
  exact ⟨hdistinct, hempty hover, call, hmem, reply, hphase, hfirst (hreturned hphase)⟩

end StressBatch.Link
