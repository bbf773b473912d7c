import TranscriptTest.Replay.Execution
import TranscriptTest.Identity.Matcher
import TranscriptTest.Transcript.Session
import TranscriptTest.Text.Lines

/-!
# Replaying a session

A session is replayed in a scope of its own: the prologue first (its output is not compared;
only a failure stops the replay), then the statements in order, each compared with its expected
text after trailing line breaks are dropped from the output. The replay stops at the first
statement that fails or does not match. One matcher serves the whole session, so bindings of
identity hashes carry from statement to statement.
-/

namespace TranscriptTest

/-- Bookkeeping of one replay. -/
structure Replay where
  session : Transcript.Session
  matcher : Identity.Matcher
  /-- Steps so far, oldest first. -/
  steps : List Replay.Step := []

namespace Replay

open TranscriptTest.Identity TranscriptTest.Transcript TranscriptTest.Text

/-- An interpreter scope: a state that answers one evaluation at a time. -/
structure Scope (σ : Type) where
  evaluate : σ → String → Evaluation × σ

/-- Output as it is compared: without trailing carriage returns and line feeds. -/
def comparableActual (output : String) : String :=
  dropLineEnds output

/-- Records the prologue's result; `some` means the replay stops. -/
def prologue (r : Replay) (result : Evaluation) : Option Outcome × Replay :=
  match result with
  | .ok output => (none, { r with steps := r.steps ++ [⟨none, .output output, true⟩] })
  | .error f =>
    (some (.errored none f.message), { r with steps := r.steps ++ [⟨none, .thrown f.message, false⟩] })

/-- Records statement `index`'s result; `some` means the replay stops here. -/
def step (r : Replay) (index : Nat) (result : Evaluation) : Option Outcome × Replay :=
  let statement := r.session.statements.getD index default
  match result with
  | .ok output =>
    let expected := statement.expectedText
    let actual := comparableActual output
    let (matched, matcher) := r.matcher.check expected actual
    let r := { r with matcher := matcher, steps := r.steps ++ [⟨some index, .output output, matched⟩] }
    (if matched then none else some (.mismatched index expected actual), r)
  | .error f =>
    (some (.errored (some index) f.message), { r with steps := r.steps ++ [⟨some index, .thrown f.message, false⟩] })

/-- Evaluates statements from `index` on, stopping at the first that fails or does not match. -/
def runStatements {σ : Type} (scope : Scope σ) : Replay → σ → Nat → List Statement → Execution × σ
  | r, st, _, [] => (⟨r.steps, .matched⟩, st)
  | r, st, index, s :: rest =>
    let (result, st) := scope.evaluate st s.source
    match r.step index result with
    | (some outcome, r) => (⟨r.steps, outcome⟩, st)
    | (none, r) => runStatements scope r st (index + 1) rest

/-- Replays a session in a scope: the prologue, then the statements. -/
def execute {σ : Type} (scope : Scope σ) (st : σ) (session : Session) (prologue : Option String)
    (normalizer : Normalizer) : Execution × σ :=
  let r : Replay := ⟨session, normalizer.matcher, []⟩
  match prologue with
  | some src =>
    let (result, st) := scope.evaluate st src
    match r.prologue result with
    | (some outcome, r) => (⟨r.steps, outcome⟩, st)
    | (none, r) => runStatements scope r st 0 session.statements
  | none => runStatements scope r st 0 session.statements

/-- Replays a session in a new scope; a scope that cannot be opened ends the replay before any
step, with its error as the message. -/
def runSession {σ : Type} (scope : Scope σ) (opened : Except String σ) (session : Session)
    (prologue : Option String) (normalizer : Normalizer) : Execution × Option σ :=
  match opened with
  | .error message => (⟨[], .errored none message⟩, none)
  | .ok st =>
    let (e, st) := execute scope st session prologue normalizer
    (e, some st)

/-! ## Scopes for testing -/

/-- A scope answering from a list in order, then reporting an exited interpreter; it keeps the
sources it was asked to evaluate. -/
def Scope.scripted : Scope (List Evaluation × List String) :=
  ⟨fun (pending, asked) src =>
    match pending with
    | [] => (.error .exited, ([], asked ++ [src]))
    | r :: rest => (r, (rest, asked ++ [src]))⟩

/-- A stateless scope answering by exact source text, with a fallback answer. -/
def Scope.byAnswers (answers : List (String × Evaluation)) (fallback : Option Evaluation) : Scope Unit :=
  ⟨fun _ src =>
    match (answers.find? (·.1 == src)).map (·.2) with
    | some r => (r, ())
    | none => (fallback.getD (.error .exited), ())⟩

end Replay

end TranscriptTest
