import TranscriptTest.Worker.Channel
import TranscriptTest.Replay.Pooled

/-!
# Interpreters

An interpreter is a command with its arguments and the seconds each statement may take. Run
one process per session, each session starts a process of its own. Run as a pool, a first
process is started and must answer a reset before any session runs; the first session then
reuses it, after another reset if it is still running, and every other session starts its own.
A reset clears every binding, so which process a session gets does not change its result.
-/

namespace TranscriptTest.Worker

open TranscriptTest.Replay TranscriptTest.Wire TranscriptTest.Identity TranscriptTest.Transcript

/-- An interpreter command. -/
structure Interpreter where
  command : String
  /-- Its arguments; `none` runs the bundled driver. -/
  args : Option (List String)
  /-- Seconds each statement may take. -/
  timeout : Nat
  deriving Inhabited

/-- The program the command starts; `isLocal` tells which relative paths exist. -/
def Interpreter.program (i : Interpreter) (isLocal : String → Bool) : Except SpawnError Program :=
  spawnProgram isLocal i.command i.args

/-- A new process for one session, or why it cannot start. -/
def Interpreter.newScope (i : Interpreter) (isLocal : String → Bool) : Except String Process :=
  match i.program isLocal with
  | .ok prog => .ok prog.start
  | .error e => .error (e.message i.command)

/-- Replays a session in a process of its own. -/
def Interpreter.runSession (i : Interpreter) (isLocal : String → Bool) (session : Session)
    (prologue : Option String) (normalizer : Normalizer) : Execution :=
  (Replay.runSession (processScope i.timeout) (i.newScope isLocal) session prologue normalizer).1

/-- Checks that a process starts and answers a reset. -/
def Interpreter.validate (i : Interpreter) (isLocal : String → Bool) : Except String Unit :=
  match i.newScope isLocal with
  | .error e => .error e
  | .ok p =>
    match (p.roundTrip .reset i.timeout).1 with
    | .ok _ => .ok ()
    | .error f =>
      .error ("Interpreter '" ++ i.command ++ "' did not answer a reset request: " ++ f.message)

/-- Replays sessions with a pool of processes: the first process must start and answer a reset,
or nothing runs. The first session reuses it, reset again; each later one gets a fresh process,
as while the pool has room. -/
def Interpreter.runPooled (i : Interpreter) (isLocal : String → Bool) (sessions : List Session)
    (prologue : Option String) (normalizer : Normalizer) : Except String (List Execution) :=
  match i.program isLocal with
  | .error e => .error ("Interpreter pool failed to start: " ++ e.pooledMessage i.command)
  | .ok prog =>
    match prog.start.roundTrip .reset i.timeout with
    | (.error f, _) => .error ("Interpreter pool failed to start: " ++ f.message)
    | (.ok _, first) =>
      let reused :=
        if !first.running then prog.start
        else match first.roundTrip .reset i.timeout with
          | (.ok _, p) => p
          | (.error _, _) => prog.start
      let run (p : Process) (s : Session) : Execution :=
        (pooledRunSession (processScope i.timeout) (.ok p) s prologue normalizer).1
      .ok (match sessions with
        | [] => []
        | s :: rest => run reused s :: rest.map (run prog.start))

end TranscriptTest.Worker
