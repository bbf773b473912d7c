import TranscriptTest.Replay.Run

/-!
# Replaying on a pooled process

A pooled interpreter replays each session on a process it takes from a pool. The replay loop is
written out again here, as the pool runs it: the prologue, then the statements, stopping at the
first that fails or does not match. On the way it notes whether any result left the process in
an unknown state (anything but a thrown error); such a process is taken out of the pool, and
every other goes back to it. A pool that has no process to give ends the replay before any step.
-/

namespace TranscriptTest.Replay

open TranscriptTest.Identity TranscriptTest.Transcript

/-- Whether a result leaves the process in an unknown state: a timeout, an exit, a reply that
could not be read, or an input/output error. -/
def poisons : Evaluation → Bool
  | .error f => !f.recoverable
  | .ok _ => false

/-- The statement loop of a pooled replay, from statement `index` on: it stops at the first
statement that fails or does not match, and notes whether a result poisoned the process. -/
def pooledStatements {σ : Type} (scope : Scope σ) :
    Replay → σ → Bool → Nat → List Statement → Outcome × Replay × σ × Bool
  | r, st, poisoned, _, [] => (.matched, r, st, poisoned)
  | r, st, poisoned, index, s :: rest =>
    let (result, st) := scope.evaluate st s.source
    let poisoned := poisoned || poisons result
    match r.step index result with
    | (some outcome, r) => (outcome, r, st, poisoned)
    | (none, r) => pooledStatements scope r st poisoned (index + 1) rest

/-- Replays a session on the process the pool gave (`got`; an error is why it gave none). Returns
the execution, and the process when it goes back to the pool. -/
def pooledRunSession {σ : Type} (scope : Scope σ) (got : Except String σ) (session : Session)
    (prologue : Option String) (normalizer : Normalizer) : Execution × Option σ :=
  match got with
  | .error e => (⟨[], .errored none ("No interpreter process available: " ++ e)⟩, none)
  | .ok st =>
    let r : Replay := ⟨session, normalizer.matcher, []⟩
    let (outcome, r, st, poisoned) :=
      match prologue with
      | some src =>
        let (result, st) := scope.evaluate st src
        match r.prologue result with
        | (some outcome, r) => (outcome, r, st, poisons result)
        | (none, r) => pooledStatements scope r st (poisons result) 0 session.statements
      | none => pooledStatements scope r st false 0 session.statements
    (⟨r.steps, outcome⟩, if poisoned then none else some st)

end TranscriptTest.Replay
