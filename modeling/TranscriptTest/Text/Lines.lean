import TranscriptTest.Unicode.Blank

/-!
# Lines and trimming

A text is read line by line: a line ends at each line feed, a carriage return just before that
line feed belongs to the ending, and a final line feed adds no empty line. A line is blank when
it holds only White_Space characters.
-/

namespace TranscriptTest.Text

open TranscriptTest.Unicode

/-- The lines of a character list. `cur` holds the current line, reversed. -/
def splitLines (cur : List Char) : List Char -> List (List Char)
  | [] => if cur.isEmpty then [] else [cur.reverse]
  | '\n' :: rest =>
    -- a carriage return right before the line feed is part of the ending
    let line := match cur with
      | '\r' :: before => before
      | _ => cur
    line.reverse :: splitLines [] rest
  | c :: rest => splitLines (c :: cur) rest

/-- The lines of a text, without their endings. -/
def lines (s : String) : List String :=
  (splitLines [] s.toList).map String.ofList

/-- Drops leading White_Space. -/
def trimStart (s : String) : String :=
  String.ofList (s.toList.dropWhile isBlank)

/-- Drops trailing White_Space. -/
def trimEnd (s : String) : String :=
  String.ofList (s.toList.reverse.dropWhile isBlank).reverse

/-- Drops White_Space at both ends. -/
def trim (s : String) : String :=
  trimEnd (trimStart s)

/-- A line is blank when it holds White_Space characters only. -/
def isBlankLine (s : String) : Bool :=
  s.toList.all isBlank

/-- Drops trailing carriage returns and line feeds. -/
def dropLineEnds (s : String) : String :=
  String.ofList (s.toList.reverse.dropWhile (fun c => c == '\r' || c == '\n')).reverse

end TranscriptTest.Text
