import TranscriptTest.Report.Style
import TranscriptTest.Verdict.Batch
import TranscriptTest.Text.Lines

/-!
# Reports

A run's summary is rendered in one of four kinds: normal (a line per session, details for
unexpected verdicts), compact (a line per session), terse (a character per session) and final
(totals only). Load failures follow unless failures are hidden, and a line of totals ends the
report.
-/

namespace TranscriptTest.Report

open TranscriptTest.Verdict TranscriptTest.Replay TranscriptTest.Text

/-- The four kinds of report. -/
inductive OutputKind where
  | normal
  | compact
  | terse
  | final
  deriving Inhabited, BEq, DecidableEq

/-- How a report is rendered. -/
structure ReportOptions where
  verbose : Bool := false
  hideFails : Bool := false
  hidePasses : Bool := false
  color : Bool := false

/-- The label of a verdict on a session line. -/
def label (o : ReportOptions) : Verdict → String
  | .expectedPass => boldGreen.paint o.color "[PASS]"
  | .expectedFail => boldYellow.paint o.color "[XFAIL]"
  | .unexpectedPass => boldRed.paint o.color "[XPASS]"
  | .unexpectedFail => boldRed.paint o.color "[FAIL]"

/-- The one-character mark of a verdict. -/
def mark (o : ReportOptions) : Verdict → String
  | .expectedPass => green.paint o.color "."
  | .expectedFail => yellow.paint o.color "x"
  | .unexpectedPass => boldRed.paint o.color "X"
  | .unexpectedFail => boldRed.paint o.color "F"

/-- A heading and the text's lines indented below it. -/
def block (o : ReportOptions) (heading text : String) : String :=
  "  " ++ bold.paint o.color heading ++ "\n" ++ String.join ((lines text).map fun l => "    " ++ l ++ "\n")

/-- The details of an unexpected result. -/
def details (o : ReportOptions) (r : SessionResult) : String :=
  let input := match r.failedInput with
    | some src => block o "input:" src
    | none => ""
  input ++ match r.outcome with
    | .matched => "  " ++ red.paint o.color "doctest unexpectedly passed" ++ "\n"
    | .mismatched _ expected actual => block o "expected:" expected ++ block o "actual:" actual
    | .errored _ message => "  " ++ bold.paint o.color "error:" ++ " " ++ red.paint o.color message ++ "\n"

/-- Whether a session's line is hidden. -/
def hidden (o : ReportOptions) (r : SessionResult) : Bool :=
  if r.verdict.isExpected then o.hidePasses else o.hideFails

/-- The line of totals. -/
def summaryLine (o : ReportOptions) (s : Summary) : String :=
  let count (n : Nat) (bad : Bool) : String :=
    if bad && n > 0 then boldRed.paint o.color (toString n) else green.paint o.color (toString n)
  let t := s.tally
  "Total " ++ toString t.total ++ ": " ++ count t.expectedPass false ++ " passed, " ++
    count t.expectedFail false ++ " failed as expected, " ++ count t.unexpectedPass true ++
    " passed unexpectedly, " ++ count t.unexpectedFail true ++ " failed, " ++
    count s.loadFailures.length true ++ " not loaded"

/-- The line of one session, with details where they are due. -/
def sessionLines (o : ReportOptions) (kind : OutputKind) (r : SessionResult) : String :=
  if hidden o r then ""
  else
    let detailed := !r.verdict.isExpected || (o.verbose && r.verdict == .expectedFail)
    label o r.verdict ++ " " ++ r.sourceTag.display ++ "\n" ++
      (if kind == .normal && detailed then details o r else "")

/-- Renders a summary. -/
def render (o : ReportOptions) (kind : OutputKind) (s : Summary) : String :=
  let body := match kind with
    | .final => ""
    | .terse => String.join (s.sessions.map fun r => mark o r.verdict) ++ "\n"
    | _ => String.join (s.sessions.map (sessionLines o kind))
  let loads := if o.hideFails then ""
    else String.join (s.loadFailures.map fun f => boldRed.paint o.color "[LOAD]" ++ " " ++ f.file ++ ": " ++ f.message ++ "\n")
  body ++ loads ++ summaryLine o s ++ "\n"

end TranscriptTest.Report
