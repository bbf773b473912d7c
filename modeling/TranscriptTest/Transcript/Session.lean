/-!
# Sessions

A session is one transcript read into statements. Each statement has its input lines (prompt
markers removed), the output lines transcribed after it, and the zero-based line where its
primary prompt stands.
-/

namespace TranscriptTest.Transcript

/-- Where a session came from: a file and a line. -/
structure SourceTag where
  file : String
  line : Nat
  deriving Inhabited, BEq

/-- `file:line`. -/
def SourceTag.display (t : SourceTag) : String :=
  t.file ++ ":" ++ toString t.line

/-- The tag `offset` lines further into the same file. -/
def SourceTag.atOffset (t : SourceTag) (offset : Nat) : SourceTag :=
  { t with line := t.line + offset }

/-- One input and its expected output. -/
structure Statement where
  /-- Source lines without prompt markers; never empty. -/
  input : List String
  /-- Output lines as transcribed. -/
  expected : List String
  /-- Zero-based line of the primary prompt within the transcript. -/
  offset : Nat
  deriving Inhabited, BEq

/-- What is sent to the interpreter: the input lines, each ended by a line feed. -/
def Statement.source (s : Statement) : String :=
  "\n".intercalate s.input ++ "\n"

/-- The expected output lines joined by line feeds. -/
def Statement.expectedText (s : Statement) : String :=
  "\n".intercalate s.expected

/-- One transcript, that is, one doctest. -/
structure Session where
  sourceTag : SourceTag
  /-- Free text before the first prompt. -/
  description : List String
  statements : List Statement
  /-- Whether the transcript carries the `EXPECT FAIL` marker. -/
  expectFail : Bool
  deriving Inhabited, BEq

/-- The source of statement `i`. -/
def Session.sourceAt (s : Session) (i : Nat) : String :=
  (s.statements.getD i default).source

end TranscriptTest.Transcript
