/-!
# Failed evaluations

An evaluation either prints output or fails. A failure is a thrown error, a timeout, an
interpreter that exited, a reply that could not be read, or an input/output error. Only a thrown
error leaves the interpreter usable.
-/

namespace TranscriptTest.Replay

/-- Why an evaluation produced no output. -/
inductive Failure where
  /-- The statement threw; the interpreter's message. -/
  | thrown (message : String)
  /-- No reply within the time allowed, in whole seconds. -/
  | timeout (seconds : Nat)
  /-- The interpreter's output ended. -/
  | exited
  /-- A reply line that could not be read. -/
  | protocol (detail : String)
  | io (detail : String)
  deriving Inhabited, BEq

/-- The text of a failure. -/
def Failure.message : Failure → String
  | .thrown m => m
  | .timeout s => "statement timed out after " ++ toString s ++ " s"
  | .exited => "interpreter exited unexpectedly"
  | .protocol d => "malformed reply from interpreter: " ++ d
  | .io d => "interpreter i/o: " ++ d

/-- A timeout given in milliseconds shows its whole seconds. -/
def Failure.timeoutMillis (ms : Nat) : Failure :=
  .timeout (ms / 1000)

/-- Whether the interpreter can go on after this failure. -/
def Failure.recoverable : Failure → Bool
  | .thrown _ => true
  | _ => false

/-- What one evaluation gives: printed output or a failure. -/
abbrev Evaluation := Except Failure String

/-- An error with its context, outermost first, each joined by `: `; `causes` lists the root
error first. -/
def contextChain (causes : List String) : String :=
  ": ".intercalate causes.reverse

end TranscriptTest.Replay
