import TranscriptTest.Text.Lines
import TranscriptTest.Transcript.Prompts

/-!
# Indentation

Transcripts often sit indented inside documentation. The indentation is that of the first line
whose text after spaces and tabs starts with the primary prompt, or of the first non-blank line
when there is none. Each non-blank line loses the part of its leading text it shares with that
indentation; a blank line becomes empty. A line indented less keeps its text, so a description
may start at column 0 while the prompts are indented.
-/

namespace TranscriptTest.Transcript

open TranscriptTest.Text

/-- Spaces and tabs: the only indentation characters. -/
def isIndent (c : Char) : Bool := c == ' ' || c == '\t'

/-- The leading spaces and tabs of a line. -/
def indentOf (l : String) : List Char :=
  l.toList.takeWhile isIndent

/-- Whether a line, after its spaces and tabs, starts with the primary prompt. -/
def Prompts.opensLine (p : Prompts) (l : String) : Bool :=
  p.primary.toList.isPrefixOf (l.toList.dropWhile isIndent)

/-- The indentation of a transcript's lines. -/
def indentation (p : Prompts) (ls : List String) : List Char :=
  match ls.find? p.opensLine with
  | some l => indentOf l
  | none => match ls.find? (fun l => !isBlankLine l) with
    | some l => indentOf l
    | none => []

/-- Length of the longest common prefix of two character lists. -/
def sharedLength : List Char → List Char → Nat
  | a :: as, b :: bs => if a == b then sharedLength as bs + 1 else 0
  | _, _ => 0

/-- A line without the part of the indentation it starts with; blank lines become empty. -/
def stripLine (indent : List Char) (l : String) : String :=
  if isBlankLine l then ""
  else String.ofList (l.toList.drop (sharedLength l.toList indent))

/-- The lines of a transcript with its indentation removed. -/
def stripIndentation (text : String) (p : Prompts) : List String :=
  let ls := lines text
  let indent := indentation p ls
  ls.map (stripLine indent)

end TranscriptTest.Transcript
