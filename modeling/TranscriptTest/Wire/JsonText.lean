import TranscriptTest.Text.Units

/-!
# JSON string text

Strings on the wire are JSON strings: a quote, a backslash and the control characters below
U+0020 are escaped (`\n`, `\t`, `\r`, `\b`, `\f`, or `\u00XX` with lower-case hexadecimal);
everything else, DEL and U+2028 included, is written as it is.
-/

namespace TranscriptTest.Wire

open TranscriptTest.Text

/-- The escaped form of one character inside a JSON string. -/
def escapeChar (c : Char) : String :=
  match c with
  | '"' => "\\\""
  | '\\' => "\\\\"
  | '\n' => "\\n"
  | '\t' => "\\t"
  | '\r' => "\\r"
  | '\x08' => "\\b"
  | '\x0c' => "\\f"
  | _ => if c.toNat < 0x20 then "\\u" ++ hexPadded 4 c.toNat else c.toString

/-- A JSON string literal. -/
def quote (s : String) : String :=
  "\"" ++ String.join (s.toList.map escapeChar) ++ "\""

end TranscriptTest.Wire
