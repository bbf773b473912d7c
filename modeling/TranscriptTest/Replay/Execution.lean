import TranscriptTest.Replay.Failure

/-!
# Executions

What a replay records: one step per evaluation, and how the replay ended before the
`EXPECT FAIL` marker is taken into account.
-/

namespace TranscriptTest.Replay

/-- What one evaluation produced, as recorded. -/
inductive StepResult where
  | output (text : String)
  | thrown (message : String)
  deriving Inhabited, BEq

/-- One evaluation: the statement's index (`none` for the prologue), its result, and whether it
matched. -/
structure Step where
  index : Option Nat
  result : StepResult
  matched : Bool
  deriving Inhabited, BEq

/-- How a replay ended. -/
inductive Outcome where
  /-- Every statement matched. -/
  | matched
  /-- A statement printed something else. -/
  | mismatched (index : Nat) (expected actual : String)
  /-- An evaluation failed; `none` for the prologue or for opening the scope. -/
  | errored (index : Option Nat) (message : String)
  deriving Inhabited, BEq

/-- Whether every statement matched. -/
def Outcome.isMatched : Outcome → Bool
  | .matched => true
  | _ => false

/-- The statement the replay stopped at, if any. -/
def Outcome.failingIndex : Outcome → Option Nat
  | .matched => none
  | .mismatched i _ _ => some i
  | .errored i _ => i

/-- The steps of a replay and how it ended. -/
structure Execution where
  steps : List Step
  outcome : Outcome
  deriving Inhabited, BEq

end TranscriptTest.Replay
