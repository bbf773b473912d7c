import TranscriptTest.Replay.Execution

/-!
# Verdicts

A replay's outcome and the session's `EXPECT FAIL` marker give one of four verdicts:

| outcome              | normal          | EXPECT FAIL     |
|----------------------|-----------------|-----------------|
| matched              | expected pass   | unexpected pass |
| mismatched / errored | unexpected fail | expected fail   |
-/

namespace TranscriptTest

/-- The four verdicts. -/
inductive Verdict where
  | expectedPass
  | expectedFail
  | unexpectedPass
  | unexpectedFail
  deriving Inhabited, BEq, DecidableEq

namespace Verdict

open TranscriptTest.Replay

/-- Classifies an outcome. -/
def classify (outcome : Outcome) (expectFail : Bool) : Verdict :=
  match outcome.isMatched, expectFail with
  | true, false => .expectedPass
  | true, true => .unexpectedPass
  | false, false => .unexpectedFail
  | false, true => .expectedFail

/-- Whether the verdict is what the transcript announced. -/
def isExpected : Verdict → Bool
  | .expectedPass | .expectedFail => true
  | _ => false

/-- `expected-pass`, `expected-fail`, `unexpected-pass`, `unexpected-fail`. -/
def name : Verdict → String
  | .expectedPass => "expected-pass"
  | .expectedFail => "expected-fail"
  | .unexpectedPass => "unexpected-pass"
  | .unexpectedFail => "unexpected-fail"

/-- Verdict counts. -/
structure Tally where
  expectedPass : Nat := 0
  expectedFail : Nat := 0
  unexpectedPass : Nat := 0
  unexpectedFail : Nat := 0
  deriving Inhabited, BEq

/-- Counts one more verdict. -/
def Tally.record (t : Tally) : Verdict → Tally
  | .expectedPass => { t with expectedPass := t.expectedPass + 1 }
  | .expectedFail => { t with expectedFail := t.expectedFail + 1 }
  | .unexpectedPass => { t with unexpectedPass := t.unexpectedPass + 1 }
  | .unexpectedFail => { t with unexpectedFail := t.unexpectedFail + 1 }

/-- All verdicts counted. -/
def Tally.total (t : Tally) : Nat :=
  t.expectedPass + t.expectedFail + t.unexpectedPass + t.unexpectedFail

/-- Verdicts that were not announced. -/
def Tally.unexpected (t : Tally) : Nat :=
  t.unexpectedPass + t.unexpectedFail

/-- The tally of a list of verdicts. -/
def Tally.ofVerdicts (vs : List Verdict) : Tally :=
  vs.foldl Tally.record {}

end Verdict

end TranscriptTest
