import StressBatch.Proofs.Link.Remote
import StressBatch.StressWorker

/-!
# What the bundled worker does when it is served

The worker that is given its job and whose result is accepted has asked for two things, its job and
that its result be taken in, and exits with code 0. The result is the one that its registry gives
for the job, with the snapshot of the worker's host: neither the job nor the result is changed on
the way over the link.
-/

namespace StressBatch.StressWorker

open Link

/-- What a call brings along on its way over the link. -/
structure Passage where
  /-- When the server replies. -/
  now : Time.Timestamp
  /-- The stamp of the request. -/
  stamp : Envelope.Stamp
  deriving DecidableEq

/-- The connection of a worker to the server. -/
structure Connection where
  /-- The name of the connection on the side of the server. -/
  identity : Bytes
  /-- How long the worker waits for a reply. -/
  patience : Time.Span
  /-- The passage of the pull. -/
  pull : Passage
  /-- The passage of the push. -/
  push : Passage

/-- A service as the worker sees it. -/
def Connection.over {σ : Type} (connection : Connection) (service : Service σ) : Service σ where
  pull := (service.remote connection.identity connection.pull.now connection.pull.stamp
    connection.patience).pull
  push := (service.remote connection.identity connection.push.now connection.push.stamp
    connection.patience).push

/-- A service with one answer for every pull and one for every push. -/
def answering (pulled : Except Link.Failure (Option Job)) (pushed : Except Link.Failure Unit) :
    Service Unit where
  pull _ s := (pulled, s)
  push _ _ s := (pushed, s)

/-- How the worker ends if its pull and its push are answered this way, and what it has asked for by
then. -/
def played (registry : Registry) (snapshot : Environment) (connection : Connection) (token : Token)
    (pulled : Except Link.Failure (Option Job)) (pushed : Except Link.Failure Unit) :
    Exit × List Request :=
  let (exit, _, asked) := serve registry snapshot
    (connection.over (answering pulled pushed).recorded) token ((), [])
  (exit, asked)

/-- Whether a job and the result of the job can be sent over a connection: the format counts the
bytes of a payload in 32 bits, and numbers have 64. -/
structure Connection.Carries (connection : Connection) (token : Token) (job : Job)
    (own : TestResult) : Prop where
  pull_now : connection.pull.now.Sound
  pull_stamp : connection.pull.stamp.timestamp.Sound
  pull_request : (pullRequest connection.pull.stamp token).Fits
  pull_reply : (replyTo (pullRequest connection.pull.stamp token) connection.pull.now
    (.ok (.job (some job)))).Fits
  job_sized : job.Sized
  push_now : connection.push.now.Sound
  push_stamp : connection.push.stamp.timestamp.Sound
  push_request : (pushRequest connection.push.stamp token own).Fits
  push_reply : (replyTo (pushRequest connection.push.stamp token own) connection.push.now
    (.ok .accepted)).Fits
  own_sized : own.Sized

variable {registry : Registry} {snapshot : Environment} {connection : Connection} {token : Token}
  {job : Job} {own : TestResult}

theorem over_pull (h : connection.Carries token job own) (pushed : Except Link.Failure Unit)
    (asked : List Request) :
    (connection.over (answering (.ok (some job)) pushed).recorded).pull token ((), asked) =
      (.ok (some job), (), asked ++ [.pull token]) := by
  have hsized : ∀ inner, (.ok (some job) : Except Link.Failure (Option Job)) = .ok (some inner) →
      inner.Sized := by
    rintro inner ⟨⟩
    exact h.job_sized
  have hremote := remote_pull (s := ((), asked)) (answering (.ok (some job)) pushed).recorded
    connection.identity connection.patience h.pull_now h.pull_stamp h.pull_request hsized
    h.pull_reply
  rw [Connection.over, hremote]
  rfl

theorem over_push (h : connection.Carries token job own)
    (pulled : Except Link.Failure (Option Job)) (asked : List Request) :
    (connection.over (answering pulled (.ok ())).recorded).push token own ((), asked) =
      (.ok (), (), asked ++ [.push token own]) := by
  have hremote := remote_push (s := ((), asked)) (answering pulled (.ok ())).recorded
    connection.identity connection.patience h.push_now h.push_stamp h.push_request h.own_sized
    h.push_reply
  rw [Connection.over, hremote]
  rfl

/-- The worker that is given its job and whose result is accepted. -/
theorem played_of_granted (h : connection.Carries token job own)
    (hresult : resultOf registry snapshot job = .ok own) :
    played registry snapshot connection token (.ok (some job)) (.ok ()) =
      (⟨.exited 0, .bytes (textOf [banner token job]), .bytes []⟩,
        [.pull token, .push token own]) := by
  simp only [played, serve, over_pull h, hresult, over_push h]
  rfl

end StressBatch.StressWorker
