import TranscriptTest.Verdict.Basic
import TranscriptTest.Transcript.Session

/-!
# Judging a replay

Judging classifies a finished replay, counts its verdict, and produces at most one message: an
error for an unexpected pass or an unexpected failure, a warning for an expected failure.
A failure's message shows the statement's source and what went wrong.
-/

namespace TranscriptTest.Verdict

open TranscriptTest.Replay TranscriptTest.Transcript

/-- Whether a message reports an error or a warning. -/
inductive Level where
  | error
  | warning
  deriving Inhabited, BEq, DecidableEq

/-- `error` or `warning`. -/
def Level.name : Level → String
  | .error => "error"
  | .warning => "warning"

/-- A message about a session, at a place in its file. -/
structure Message where
  level : Level
  at_ : SourceTag
  text : String
  deriving Inhabited, BEq

/-- What judging a session yields. -/
structure SessionResult where
  sourceTag : SourceTag
  /-- Source of the statement the replay stopped at. -/
  failedInput : Option String
  statements : Nat
  expectFail : Bool
  outcome : Outcome
  verdict : Verdict
  deriving Inhabited, BEq

/-- The text describing a failed replay; `none` when every statement matched. -/
def failureText (s : Session) : Outcome → Option String
  | .matched => none
  | .mismatched i expected actual =>
    some ("doctest failure running:\n" ++ s.sourceAt i ++ "expected:\n" ++ expected ++ "\nactual:\n" ++ actual ++ "\n")
  | .errored (some i) message =>
    some ("doctest failure running:\n" ++ s.sourceAt i ++ "threw:\n" ++ message ++ "\n")
  | .errored none message => some ("doctest setup failed:\n" ++ message ++ "\n")

/-- Where a failed replay stopped: the failing statement's line, or the session's tag. -/
def failureTag (s : Session) (o : Outcome) : SourceTag :=
  match o.failingIndex with
  | some i => s.sourceTag.atOffset (s.statements.getD i default).offset
  | none => s.sourceTag

/-- The message judging produces for a verdict, if any. -/
def verdictMessage (s : Session) (o : Outcome) : Verdict → Option Message
  | .expectedPass => none
  | .unexpectedPass => some ⟨.error, s.sourceTag, "doctest unexpectedly passed."⟩
  | .expectedFail => some ⟨.warning, s.sourceTag, "doctest failed as expected."⟩
  | .unexpectedFail => some ⟨.error, failureTag s o, (failureText s o).getD ""⟩

/-- Judges a replay: its result and its message. -/
def judge (s : Session) (e : Execution) : SessionResult × Option Message :=
  let v := classify e.outcome s.expectFail
  (⟨s.sourceTag, e.outcome.failingIndex.map s.sourceAt, s.statements.length, s.expectFail, e.outcome, v⟩,
   verdictMessage s e.outcome v)

end TranscriptTest.Verdict
