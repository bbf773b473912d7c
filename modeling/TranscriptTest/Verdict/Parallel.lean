import TranscriptTest.Verdict.Batch

/-!
# Batches run in parallel

A batch replays its sessions in parallel, each in a scope of its own, and judges each replay as
it ends. The tasks share the verdict counters, which judging bumps by one atomic increment, and
the reporter, which gets the messages. Collecting waits for every task and lists the results in
the order of the sessions.

Each task takes three atomic steps: its replay, which touches its own scope only; the increment
of its verdict's counter; and the sending of its message. A schedule names the task that takes
each next step, so every interleaving of the tasks is a schedule.
-/

namespace TranscriptTest.Verdict

open TranscriptTest.Replay TranscriptTest.Transcript

/-- How far the task of one session has got. -/
inductive SessionTask where
  | ready (s : Session)
  /-- Replayed; its verdict is not counted yet. -/
  | replayed (s : Session) (e : Execution)
  /-- Counted; its message, if any, is not sent yet. -/
  | counted (r : SessionResult) (m : Option Message)
  | done (r : SessionResult)
  deriving Inhabited

/-- What the tasks of a batch share: the verdict counters and the messages sent so far. -/
structure Shared where
  counters : Tally
  sent : List Message
  deriving Inhabited

/-- One atomic step of a task, where `replay` replays a session in a scope of its own. A finished
task stays as it is. -/
def SessionTask.step (replay : Session → Execution) : SessionTask → Shared → SessionTask × Shared
  | .ready s, sh => (.replayed s (replay s), sh)
  | .replayed s e, sh =>
    let (r, m) := judge s e
    (.counted r m, { sh with counters := sh.counters.record r.verdict })
  | .counted r m, sh => (.done r, { sh with sent := sh.sent ++ m.toList })
  | .done r, sh => (.done r, sh)

/-- Runs the tasks as a schedule orders them: each entry moves the task at that index one step. -/
def runSchedule (replay : Session → Execution) :
    List Nat → List SessionTask → Shared → List SessionTask × Shared
  | [], ts, sh => (ts, sh)
  | i :: rest, ts, sh =>
    match ts[i]? with
    | some t =>
      let (t', sh') := t.step replay sh
      runSchedule replay rest (ts.set i t') sh'
    | none => runSchedule replay rest ts sh

/-- The result of a finished task. -/
def SessionTask.result? : SessionTask → Option SessionResult
  | .done r => some r
  | _ => none

/-- The summary of a batch once every task has finished: the results in the order of the
sessions, and their tally counted again from them. -/
def Summary.collect (ts : List SessionTask) : Option Summary :=
  (ts.mapM SessionTask.result?).map fun rs => ⟨Tally.ofVerdicts (rs.map (·.verdict)), rs, []⟩

end TranscriptTest.Verdict
