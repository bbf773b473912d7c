import TranscriptTest.Verdict.Judge
import TranscriptTest.Replay.Run

/-!
# Running a batch

Every session of a batch is replayed in a scope of its own and judged. The results keep the
sessions' order; the tally counts their verdicts; the messages of judging are listed by level,
then file, line and text, so that a batch reports the same whatever order its sessions ran in.
-/

namespace TranscriptTest.Verdict

open TranscriptTest.Replay TranscriptTest.Transcript TranscriptTest.Identity

/-- A transcript file that was not replayed, and why. -/
structure LoadFailure where
  file : String
  message : String
  deriving Inhabited, BEq

/-- The results of a run. -/
structure Summary where
  tally : Tally
  sessions : List SessionResult
  loadFailures : List LoadFailure := []
  deriving Inhabited

/-- Whether nothing unexpected happened and every file was loaded. -/
def Summary.success (s : Summary) : Bool :=
  s.tally.unexpected == 0 && s.loadFailures.isEmpty

/-- The rank of a level: errors first. -/
def Level.rank : Level → Nat
  | .error => 0
  | .warning => 1

/-- The order of messages: level, file, line, text. -/
def Message.before (a b : Message) : Bool :=
  if a.level.rank != b.level.rank then a.level.rank < b.level.rank
  else if a.at_.file != b.at_.file then a.at_.file < b.at_.file
  else if a.at_.line != b.at_.line then a.at_.line < b.at_.line
  else a.text ≤ b.text

/-- Messages in report order. -/
def sortMessages (ms : List Message) : List Message :=
  ms.mergeSort Message.before

/-- Replays and judges one session in a fresh scope. -/
def runOne {σ : Type} (scope : Scope σ) (opened : Except String σ) (prologue : Option String)
    (normalizer : Normalizer) (s : Session) : SessionResult × Option Message :=
  judge s (runSession scope opened s prologue normalizer).1

/-- Replays and judges every session, each in a fresh scope; returns the summary and the
messages in report order. -/
def runBatch {σ : Type} (scope : Scope σ) (opened : Except String σ) (prologue : Option String)
    (normalizer : Normalizer) (sessions : List Session) : Summary × List Message :=
  let judged := sessions.map (runOne scope opened prologue normalizer)
  let results := judged.map (·.1)
  (⟨Tally.ofVerdicts (results.map (·.verdict)), results, []⟩, sortMessages (judged.filterMap (·.2)))

end TranscriptTest.Verdict
