import TranscriptTest.Unicode.Category
import TranscriptTest.Unicode.Property
import TranscriptTest.Unicode.Age

/-!
# Printable characters

Which characters a debugging rendering of text shows as they are, as Unicode 16.0 knows them.
Control, format, surrogate, private-use and unassigned characters and the separators other than
the space are not printable; grapheme extenders (nonspacing and enclosing marks, and the few
other characters that extend a grapheme) are written as escapes too, since they would join the
character before them. A character that Unicode 17.0 added is unassigned here.
-/

namespace TranscriptTest.Unicode

/-- The categories whose characters are not printable. -/
def unprintableCategories : List RangeTable :=
  ["Cc", "Cf", "Cs", "Co", "Cn", "Zl", "Zp", "Zs"].map fun n => (category? n).getD default

/-- Whether a character is printable: the space, or a character of none of the categories
above. -/
def isPrintable (c : Char) : Bool :=
  if c.toNat < 0x20 then false
  else if c.toNat < 0x7F then true
  else !addedIn17.contains c && !(unprintableCategories.any (·.contains c))

/-- The characters that extend a grapheme. -/
def graphemeExtend : RangeTable := (property? "Grapheme_Extend").getD default

/-- Whether a character extends a grapheme (Grapheme_Extend). -/
def isGraphemeExtend (c : Char) : Bool :=
  !addedIn17.contains c && graphemeExtend.contains c

/-- Lower-case hexadecimal digits of a number, without leading zeros. -/
def lowerHex (n : Nat) : String :=
  String.ofList (Nat.toDigits 16 n)

/-- How a character is written in a debugging rendering between double quotes: backslash escapes,
`\u{…}` for grapheme extenders and unprintable characters, else itself. -/
def debugEscape (c : Char) : String :=
  match c with
  | '\x00' => "\\0"
  | '\t' => "\\t"
  | '\r' => "\\r"
  | '\n' => "\\n"
  | '\\' => "\\\\"
  | '"' => "\\\""
  | _ =>
    if isGraphemeExtend c || !isPrintable c then "\\u\x7b" ++ lowerHex c.toNat ++ "\x7d"
    else c.toString

/-- Text in double quotes, each character written as `debugEscape` says. -/
def debugQuote (s : String) : String :=
  "\"" ++ String.join (s.toList.map debugEscape) ++ "\""

end TranscriptTest.Unicode
