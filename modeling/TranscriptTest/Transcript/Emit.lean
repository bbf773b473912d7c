import TranscriptTest.Transcript.Parse
import TranscriptTest.Text.Units

/-!
# Writing transcripts

A session is written back in transcript form: the description, then each statement's input
behind its prompts (one space between prompt and text, none for an empty line) and its expected
lines. A prologue becomes a statement of its own with no expected output. When the session
expects failure and the text written would not say so, an `EXPECT FAIL` line ends the
description.

A stand-alone file is named by the 31-polynomial hash of the text written without a prologue.
-/

namespace TranscriptTest.Transcript

open TranscriptTest.Text

/-- One line behind a prompt. -/
def promptedLine (prompt line : String) : String :=
  prompt ++ (if line.isEmpty then "" else " " ++ line) ++ "\n"

/-- Input lines: the first behind the primary prompt, the rest behind the continuation prompt. -/
def inputText (p : Prompts) : List String → String
  | [] => ""
  | first :: rest => promptedLine p.primary first ++ String.join (rest.map (promptedLine p.continuation))

/-- Lines each ended by a line feed. -/
def linesText (ls : List String) : String :=
  String.join (ls.map (· ++ "\n"))

/-- A session in transcript form. -/
def emit (s : Session) (prologue : Option String) (p : Prompts) : String :=
  let head := linesText s.description
  let pro := match prologue with
    | some text => inputText p (lines text)
    | none => ""
  let body := pro ++ String.join (s.statements.map fun st => inputText p st.input ++ linesText st.expected)
  let head := if s.expectFail && !hasExpectFail head && !hasExpectFail body then head ++ "EXPECT FAIL\n" else head
  head ++ body

/-- The hash that names a session's stand-alone file. -/
def transcriptHash (text : String) : UInt32 :=
  hash31 text

/-- `test-` and eight lower-case hexadecimal digits of the hash, then `.js`. -/
def fileNameFor (s : Session) (p : Prompts) : String :=
  "test-" ++ hexPadded 8 (transcriptHash (emit s none p)).toNat ++ ".js"

/-- The content of a stand-alone file: the source tag, a blank line, the transcript. -/
def standaloneText (s : Session) (prologue : Option String) (p : Prompts) : String :=
  s.sourceTag.display ++ "\n\n" ++ emit s prologue p

end TranscriptTest.Transcript
