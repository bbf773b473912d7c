import TranscriptTest.Transcript.Indent
import TranscriptTest.Transcript.Marker
import TranscriptTest.Transcript.Session

/-!
# Reading transcripts

After the indentation is removed, a line starting with the primary prompt opens a statement;
lines starting with the continuation prompt right after it extend its input; the other lines up
to the next primary prompt are its expected output, without trailing empty lines. Lines before
the first prompt are the description. One space after a prompt belongs to the marker.
-/

namespace TranscriptTest.Transcript

/-- Why a transcript cannot be read. -/
inductive ParseError where
  /-- No line starts with the primary prompt. -/
  | noStatements (prompt : String)
  deriving Inhabited, BEq

/-- The text of a parse error. -/
def ParseError.message : ParseError → String
  | .noStatements p => "no `" ++ p ++ "` statement found in transcript"

/-- The text after a prompt, without one leading space. -/
def promptBody (rest : List Char) : String :=
  match rest with
  | ' ' :: r => String.ofList r
  | _ => String.ofList rest

/-- The rest of a line after a prefix, if the line starts with it. -/
def afterPrefix (pre : String) (line : String) : Option (List Char) :=
  if pre.toList.isPrefixOf line.toList then some (line.toList.drop pre.length) else none

/-- What has been read so far: the description, the statements (newest first), and whether the
last line belonged to the newest statement's input. -/
structure Reading where
  description : List String := []
  statements : List Statement := []
  inInput : Bool := false

/-- Reads one line at a zero-based offset. -/
def Reading.add (p : Prompts) (st : Reading) (offset : Nat) (line : String) : Reading :=
  match afterPrefix p.primary line with
  | some rest => { st with statements := ⟨[promptBody rest], [], offset⟩ :: st.statements, inInput := true }
  | none =>
    match st.statements with
    | [] => { st with description := st.description ++ [line] }
    | cur :: older =>
      let continued := if st.inInput then afterPrefix p.continuation line else none
      match continued with
      | some rest => { st with statements := { cur with input := cur.input ++ [promptBody rest] } :: older }
      | none => { st with statements := { cur with expected := cur.expected ++ [line] } :: older, inInput := false }

/-- Reads lines from a zero-based offset on. -/
def Reading.addAll (p : Prompts) : Reading → Nat → List String → Reading
  | st, _, [] => st
  | st, offset, l :: ls => Reading.addAll p (st.add p offset l) (offset + 1) ls

/-- Drops trailing empty lines. -/
def dropTrailingEmpty (ls : List String) : List String :=
  (ls.reverse.dropWhile String.isEmpty).reverse

/-- Reads a transcript into a session. -/
def parse (text : String) (p : Prompts) (tag : SourceTag) : Except ParseError Session :=
  let st := Reading.addAll p {} 0 (stripIndentation text p)
  match st.statements with
  | [] => .error (.noStatements p.primary)
  | stmts =>
    .ok { sourceTag := tag
          description := st.description
          statements := stmts.reverse.map fun s => { s with expected := dropTrailingEmpty s.expected }
          expectFail := hasExpectFail text }

end TranscriptTest.Transcript
