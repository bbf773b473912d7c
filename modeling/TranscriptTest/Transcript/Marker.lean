import TranscriptTest.Unicode.Word
import TranscriptTest.Unicode.Blank

/-!
# The EXPECT FAIL marker

A transcript that should fail says so with the words `EXPECT` and `FAIL`, separated by at least
one White_Space character, each standing as a whole word: the character before `EXPECT` and the
one after `FAIL`, if any, are not word characters. The marker may stand anywhere in the text.
-/

namespace TranscriptTest.Transcript

open TranscriptTest.Unicode

/-- Whether an optional neighbour is absent or not a word character. -/
def notWordAt : Option Char → Bool
  | some c => !isWord c
  | none => true

/-- Whether the marker starts at the head of `cs`; `prev` is the character before. -/
def markerAt (prev : Option Char) (cs : List Char) : Bool :=
  notWordAt prev &&
    match cs with
    | 'E' :: 'X' :: 'P' :: 'E' :: 'C' :: 'T' :: rest =>
      let blanks := rest.takeWhile isBlank
      !blanks.isEmpty &&
        match rest.drop blanks.length with
        | 'F' :: 'A' :: 'I' :: 'L' :: after => notWordAt after.head?
        | _ => false
    | _ => false

/-- Whether the marker starts somewhere in `cs`. -/
def markerIn : Option Char → List Char → Bool
  | _, [] => false
  | prev, c :: rest => markerAt prev (c :: rest) || markerIn (some c) rest

/-- Whether a text carries the `EXPECT FAIL` marker. -/
def hasExpectFail (text : String) : Bool :=
  markerIn none text.toList

end TranscriptTest.Transcript
