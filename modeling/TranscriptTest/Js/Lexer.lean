import TranscriptTest.Js.Syntax
import TranscriptTest.Js.Utf16
import TranscriptTest.Unicode.Property
import TranscriptTest.Unicode.Blank

/-!
# Reading a script into tokens

The reader walks the script's characters once, from left to right. Blanks and comments only
matter through the flag that records a line break before the next token. A template literal is
read in pieces: the text up to a substitution, then the substitution's own tokens, then, at the
`}` that closes it, the text after it; a stack counts the braces opened inside each
substitution, so the reader knows which `}` closes one.
-/

namespace TranscriptTest.Js

/-- Characters that end a line. -/
def isLineBreak (c : Char) : Bool :=
  c == '\n' || c == '\r' || c == '\u2028' || c == '\u2029'

/-- Characters that separate tokens on a line: tab, vertical tab, form feed, the byte-order mark,
and the space separators. -/
def isSpace (c : Char) : Bool :=
  c == '\t' || c == '\x0B' || c == '\x0C' || c == ' ' || c == '\uFEFF' ||
    (c.toNat > 127 && Unicode.isBlank c && c != '\x85' && !isLineBreak c)

/-- What trimming a string removes: spaces and line breaks. -/
def isTrimmed (c : Char) : Bool :=
  isSpace c || isLineBreak c

/-- The ID_Start property. -/
def idStartTable : Unicode.RangeTable :=
  (Unicode.property? "ID_Start").getD default

/-- The ID_Continue property. -/
def idContinueTable : Unicode.RangeTable :=
  (Unicode.property? "ID_Continue").getD default

/-- Characters that may start a name. -/
def isNameStart (c : Char) : Bool :=
  c.isAlpha || c == '$' || c == '_' || (c.toNat > 127 && idStartTable.contains c)

/-- Characters that may continue a name. -/
def isNamePart (c : Char) : Bool :=
  isNameStart c || c.isDigit || c == '\u200C' || c == '\u200D' ||
    (c.toNat > 127 && idContinueTable.contains c)

/-- The reserved words, and the literals `true`, `false` and `null`. -/
def reservedWords : List String :=
  ["break", "case", "catch", "class", "const", "continue", "debugger", "default", "delete", "do",
   "else", "export", "extends", "finally", "for", "function", "if", "import", "in",
   "instanceof", "new", "return", "super", "switch", "this", "throw", "try", "typeof", "var",
   "void", "while", "with", "true", "false", "null", "enum"]

/-- Punctuators, longest first, so that the first that fits is the longest. -/
def punctuators : List String :=
  [">>>=", "...", "===", "!==", "**=", "<<=", ">>=", ">>>", "&&=", "||=", "??=", "=>", "==",
   "!=", "<=", ">=", "&&", "||", "??", "?.", "++", "--", "+=", "-=", "*=", "/=", "%=", "&=",
   "|=", "^=", "**", "<<", ">>", "\x7b", "\x7d", "(", ")", "[", "]", ";", ",", "<", ">", "+", "-",
   "*", "/", "%", "&", "|", "^", "!", "~", "?", ":", "=", "."]

/-- The character at `i`, or a NUL past the end. -/
def charAt (src : Array Char) (i : Nat) : Char :=
  src.getD i '\x00'

/-- The characters from `i` to `j`. -/
def slice (src : Array Char) (i j : Nat) : String :=
  String.ofList ((src.extract i j).toList)

/-! ## Blanks and comments -/

/-- Skips to the end of a line comment. -/
def skipLine (src : Array Char) (i : Nat) : Nat :=
  if h : i < src.size then
    if isLineBreak src[i] then i else skipLine src (i + 1)
  else i
  termination_by src.size - i

/-- Skips a block comment's body; the result is where it ends (after its `*/`), whether it
held a line break, and whether it was closed at all. -/
def skipBlock (src : Array Char) (i : Nat) (broke : Bool) : Nat × Bool × Bool :=
  if h : i < src.size then
    if src[i] == '*' && charAt src (i + 1) == '/' then (i + 2, broke, true)
    else skipBlock src (i + 1) (broke || isLineBreak src[i])
  else (i, broke, false)
  termination_by src.size - i

/-- Skips blanks and comments from `i`: where the next token starts, whether a line break came
before it, and whether everything skipped was well formed. -/
def skipBlanks (src : Array Char) (i : Nat) (broke : Bool) : Nat × Bool × Bool :=
  if h : i < src.size then
    let c := src[i]
    if isSpace c then skipBlanks src (i + 1) broke
    else if isLineBreak c then skipBlanks src (i + 1) true
    else if c == '/' && charAt src (i + 1) == '/' then
      let j := skipLine src (i + 2)
      if j > i then skipBlanks src j broke else (i, broke, true)
    else if c == '/' && charAt src (i + 1) == '*' then
      match skipBlock src (i + 2) broke with
      | (j, broke', true) => if j > i then skipBlanks src j broke' else (i, broke, true)
      | (j, broke', false) => (j, broke', false)
    else (i, broke, true)
  else (i, broke, true)
  termination_by src.size - i

/-! ## Names -/

/-- The end of a name that starts before `i`. -/
def nameEnd (src : Array Char) (i : Nat) : Nat :=
  if h : i < src.size then
    if isNamePart src[i] then nameEnd src (i + 1) else i
  else i
  termination_by src.size - i

/-! ## Numbers -/

/-- Value of a digit in bases up to 36. -/
def digitValue (c : Char) : Option Nat :=
  if c.isDigit then some (c.toNat - '0'.toNat)
  else if 'a' <= c && c <= 'z' then some (c.toNat - 'a'.toNat + 10)
  else if 'A' <= c && c <= 'Z' then some (c.toNat - 'A'.toNat + 10)
  else none

/-- Whether a character is a digit of the base. -/
def isDigitIn (base : Nat) (c : Char) : Bool :=
  match digitValue c with
  | some d => d < base
  | none => false

/-- Reads digits of a base from `i`: the digits read and where they end. -/
def digitsFrom (src : Array Char) (base : Nat) (i : Nat) (acc : List Char) : List Char × Nat :=
  if h : i < src.size then
    let c := src[i]
    if isDigitIn base c then digitsFrom src base (i + 1) (c :: acc) else (acc.reverse, i)
  else (acc.reverse, i)
  termination_by src.size - i

/-- Reads digits of a base from `i`, where an underscore may stand between two digits: the
digits read and where they end. -/
def separatedDigits (src : Array Char) (base : Nat) (i : Nat) (acc : List Char)
    (afterSeparator : Bool) : Except SyntaxIssue (List Char × Nat) :=
  if h : i < src.size then
    let c := src[i]
    if isDigitIn base c then separatedDigits src base (i + 1) (c :: acc) false
    else if c == '_' then
      if charAt src (i + 1) == '_' then .error .continuousSeparator
      else separatedDigits src base (i + 1) acc true
    else if afterSeparator then .error .trailingSeparator
    else .ok (acc.reverse, i)
  else if afterSeparator then .error .trailingSeparator
  else .ok (acc.reverse, i)
  termination_by src.size - i

/-- The value of digits in a base. -/
def digitsValue (base : Nat) (ds : List Char) : Nat :=
  ds.foldl (fun acc c => acc * base + (digitValue c).getD 0) 0

/-- The double nearest to `m · 10^e`; exponents far beyond the range of doubles give zero or
infinity without computing the power. -/
def scientific (m : Nat) (e : Int) : Float :=
  if m == 0 then 0
  else if e > 400 then Float.ofScientific 1 false 400
  else if e + Int.ofNat (toString m).length < -400 then 0
  else if e >= 0 then Float.ofScientific m false e.toNat
  else Float.ofScientific m true (-e).toNat

/-- The fraction and exponent of a decimal number from `j`, after its integer digits, read with
`digits` (separators or not): its value and where it ends. -/
def decimalTail (src : Array Char) (intDigits : List Char) (j : Nat)
    (digits : Nat → Except SyntaxIssue (List Char × Nat)) : Except SyntaxIssue (Float × Nat) := do
  let (fracDigits, k) <-
    if charAt src j == '.' then
      if charAt src (j + 1) == '_' then throw .invalidToken
      digits (j + 1)
    else pure ([], j)
  let (expValue, stop) <-
    if charAt src k == 'e' || charAt src k == 'E' then
      let signAt := charAt src (k + 1)
      let (neg, digitsAt) :=
        if signAt == '+' then (false, k + 2) else if signAt == '-' then (true, k + 2)
        else (false, k + 1)
      if !(charAt src digitsAt).isDigit then throw .invalidToken
      let (es, stop) <- digits digitsAt
      let e := Int.ofNat (digitsValue 10 es)
      pure (if neg then -e else e, stop)
    else pure ((0 : Int), k)
  let m := digitsValue 10 (intDigits ++ fracDigits)
  pure (scientific m (expValue - Int.ofNat fracDigits.length), stop)

/-- Reads a number starting at `i`, whose first character is a digit or a point followed by a
digit: its value and where it ends. -/
def scanNumber (src : Array Char) (i : Nat) : Except SyntaxIssue (Float × Nat) := do
  let c := charAt src i
  let next := charAt src (i + 1)
  let base := if c != '0' then 10
    else if next == 'x' || next == 'X' then 16
    else if next == 'o' || next == 'O' then 8
    else if next == 'b' || next == 'B' then 2
    else 10
  if base != 10 then
    if !isDigitIn base (charAt src (i + 2)) then throw .invalidToken
    let (ds, j) <- separatedDigits src base (i + 2) [] false
    pure ((digitsValue base ds).toFloat, j)
  else if c == '0' && next.isDigit then
    let (ds, j) := digitsFrom src 10 (i + 1) []
    if charAt src j == '_' then throw .invalidToken
    if ds.all (fun d => d.toNat < '8'.toNat) then pure ((digitsValue 8 ds).toFloat, j)
    else decimalTail src ds j fun k => pure (digitsFrom src 10 k [])
  else if c == '0' && next == '_' then throw .zeroSeparator
  else
    let (intDigits, j) <- separatedDigits src 10 i [] false
    decimalTail src intDigits j fun k => separatedDigits src 10 k [] false

/-- Reads an integer literal starting at `i`: digits, in a base when `0x`, `0o` or `0b` comes
first, ended by `n`. -/
def scanBigInt (src : Array Char) (i : Nat) : Option (Nat × Nat) :=
  let c := charAt src i
  let next := charAt src (i + 1)
  let base := if c != '0' then 10
    else if next == 'x' || next == 'X' then 16
    else if next == 'o' || next == 'O' then 8
    else if next == 'b' || next == 'B' then 2
    else 10
  let start := if base == 10 then i else i + 2
  if base == 10 && c == '0' && next != 'n' then none
  else if !isDigitIn base (charAt src start) then none
  else
    match separatedDigits src base start [] false with
    | .ok (ds, j) => if charAt src j == 'n' then some (digitsValue base ds, j + 1) else none
    | .error _ => none

/-- Reads a number token starting at `i`. -/
def readNumber (src : Array Char) (i : Nat) : TokenKind × Nat :=
  let followed (j : Nat) : Bool :=
    let after := charAt src j
    j < src.size && (isNameStart after || after.isDigit || after == '\\')
  match scanBigInt src i with
  | some (v, j) => if followed j then (.illegal .invalidToken, j) else (.bigint v, j)
  | none =>
  match scanNumber src i with
  | .error issue => (.illegal issue, i)
  | .ok (v, j) =>
    let after := charAt src j
    if j < src.size && (isNameStart after || after.isDigit || after == '\\') then
      (.illegal .invalidToken, j)
    else (.num v, j)

/-! ## Strings and templates -/

/-- Reads `n` hexadecimal digits at `i`. -/
def hexDigits (src : Array Char) (i n : Nat) : Option Nat :=
  (List.range n).foldl (fun acc k =>
    acc.bind fun v => (digitValue (charAt src (i + k))).bind fun d =>
      if d < 16 then some (v * 16 + d) else none) (some 0)

/-- The character of a code point or UTF-16 unit; a surrogate becomes its stand-in. -/
def codePointChar (n : Nat) : Char := unitChar n

/-- Reads the code point of a `\u` escape whose digits start at `i`: the code point and where
the escape ends. -/
def unicodeEscape (src : Array Char) (i : Nat) : Option (Nat × Nat) :=
  if charAt src i == '{' then
    let (ds, j) := digitsFrom src 16 (i + 1) []
    if !ds.isEmpty && charAt src j == '}' then some (digitsValue 16 ds, j + 1) else none
  else (hexDigits src i 4).map fun v => (v, i + 4)

/-- Reads the escape after a backslash at `i - 1`: the characters it stands for, where it ends,
or what is wrong with it. -/
def readEscape (src : Array Char) (i : Nat) (inTemplate : Bool) :
    Except SyntaxIssue (List Char × Nat) :=
  let c := charAt src i
  if c == 'n' then .ok (['\n'], i + 1)
  else if c == 't' then .ok (['\t'], i + 1)
  else if c == 'r' then .ok (['\r'], i + 1)
  else if c == 'b' then .ok (['\x08'], i + 1)
  else if c == 'f' then .ok (['\x0C'], i + 1)
  else if c == 'v' then .ok (['\x0B'], i + 1)
  else if c == '\r' then .ok ([], if charAt src (i + 1) == '\n' then i + 2 else i + 1)
  else if isLineBreak c then .ok ([], i + 1)
  else if c == 'x' then
    match hexDigits src (i + 1) 2 with
    | some v => .ok ([Char.ofNat v], i + 3)
    | none => .error .invalidHexEscape
  else if c == 'u' && charAt src (i + 1) == '{' &&
      digitsValue 16 (digitsFrom src 16 (i + 2) []).1 > 0x10FFFF then .error .undefinedCodePoint
  else if c == 'u' then
    match unicodeEscape src (i + 1) with
    | some (v, j) =>
      if 0xD800 ≤ v && v < 0xDC00 && charAt src j == '\\' && charAt src (j + 1) == 'u' then
        match unicodeEscape src (j + 2) with
        | some (w, k) =>
          if 0xDC00 ≤ w && w < 0xE000 then
            .ok ([Char.ofNat (0x10000 + (v - 0xD800) * 0x400 + (w - 0xDC00))], k)
          else .ok ([codePointChar v], j)
        | none => .ok ([codePointChar v], j)
      else .ok ([codePointChar v], j)
    | none => .error .invalidUnicodeEscape
  else if c == '0' && !(charAt src (i + 1)).isDigit then .ok (['\x00'], i + 1)
  else if '0' ≤ c && c ≤ '7' && !inTemplate then
    -- an old-style octal escape: up to three digits, at most 255
    let d0 := c.toNat - '0'.toNat
    let c1 := charAt src (i + 1)
    if '0' ≤ c1 && c1 ≤ '7' then
      let d1 := d0 * 8 + (c1.toNat - '0'.toNat)
      let c2 := charAt src (i + 2)
      if '0' ≤ c2 && c2 ≤ '7' && d1 * 8 + (c2.toNat - '0'.toNat) < 256 then
        .ok ([Char.ofNat (d1 * 8 + (c2.toNat - '0'.toNat))], i + 3)
      else .ok ([Char.ofNat d1], i + 2)
    else .ok ([Char.ofNat d0], i + 1)
  else if inTemplate && c.isDigit then .error .invalidToken
  else .ok ([c], i + 1)

/-- Reads a quoted string's body from `i` up to the closing `quote`: its text and where it
ends. -/
def readString (src : Array Char) (quote : Char) (i : Nat) (acc : List Char) :
    Except SyntaxIssue (String × Nat) :=
  if h : i < src.size then
    let c := src[i]
    if c == quote then .ok (String.ofList acc.reverse, i + 1)
    else if c == '\n' || c == '\r' then .error .invalidToken
    else if c == '\\' then
      match readEscape src (i + 1) false with
      | .ok (cs, j) => if j > i then readString src quote j (cs.reverse ++ acc) else .error .invalidToken
      | .error e => .error e
    else readString src quote (i + 1) (c :: acc)
  else .error .invalidToken
  termination_by src.size - i

/-- Reads template text from `i`: its cooked text, where it ends, and whether a substitution
follows (`${`) rather than the closing backquote. -/
def readTemplateText (src : Array Char) (i : Nat) (acc : List Char) :
    Except SyntaxIssue (String × Nat × Bool) :=
  if h : i < src.size then
    let c := src[i]
    if c == '\x60' then .ok (String.ofList acc.reverse, i + 1, false)
    else if c == '$' && charAt src (i + 1) == '{' then .ok (String.ofList acc.reverse, i + 2, true)
    else if c == '\r' then
      if charAt src (i + 1) == '\n' then readTemplateText src (i + 2) ('\n' :: acc)
      else readTemplateText src (i + 1) ('\n' :: acc)
    else if c == '\\' then
      match readEscape src (i + 1) true with
      | .ok (cs, j) =>
        if j > i then readTemplateText src j (cs.reverse ++ acc) else .error .invalidToken
      | .error e => .error e
    else readTemplateText src (i + 1) (c :: acc)
  else .error .unterminatedTemplate
  termination_by src.size - i

/-! ## Regular expression literals -/

/-- Reads a regular expression literal's body from `i`, after its opening slash, up to the
slash that closes it outside escapes and classes; a line break or the end first gives nothing. -/
def readPatternBody (src : Array Char) (i : Nat) (inClass : Bool) (acc : List Char) :
    Option (String × Nat) :=
  if h : i < src.size then
    let c := src[i]
    if isLineBreak c then none
    else if c == '\\' then
      let d := charAt src (i + 1)
      if i + 1 < src.size && !isLineBreak d then readPatternBody src (i + 2) inClass (d :: c :: acc)
      else none
    else if c == '/' && !inClass then some (String.ofList acc.reverse, i + 1)
    else if c == '[' then readPatternBody src (i + 1) true (c :: acc)
    else if c == ']' then readPatternBody src (i + 1) false (c :: acc)
    else readPatternBody src (i + 1) inClass (c :: acc)
  else none
  termination_by src.size - i

/-- Reads a regular expression literal whose opening slash is at `i`: the token and where it
ends. -/
def readPattern (src : Array Char) (i : Nat) : TokenKind × Nat :=
  match readPatternBody src (i + 1) false [] with
  | none => (.illegal (.badPattern "Invalid regular expression: missing /"), i + 1)
  | some (body, j) =>
    let k := nameEnd src j
    if charAt src k == '\\' then (.illegal (.badPattern "Invalid regular expression flags"), k)
    else (.pattern body (slice src j k), k)

/-- Whether a slash after this token starts a regular expression rather than a division: after
operators, opening brackets and reserved words that are not values. -/
def TokenKind.beforePattern : TokenKind -> Bool
  | .punct p => !([")", "]", "\x7d", "++", "--"].contains p)
  | .keyword w => !(["this", "super", "true", "false", "null"].contains w)
  | .templateHead _ => true
  | .templateMiddle _ => true
  | _ => false

/-! ## Tokens -/

/-- The punctuator at `i`, if one starts there; `?.` before a digit is `?` (a conditional). -/
def punctuatorAt (src : Array Char) (i : Nat) : Option String :=
  punctuators.find? fun p =>
    let cs := p.toList
    (cs.zipIdx.all fun (c, k) => charAt src (i + k) == c) &&
      !(p == "?." && (charAt src (i + 2)).isDigit)

/-- A name or a reserved word. -/
def wordKind (w : String) : TokenKind :=
  if reservedWords.contains w then .keyword w else .ident w

/-- Reads the token at `i` (not a blank), given the open substitutions' brace counts and whether a
slash starts a regular expression: its kind, its end and the new brace counts. -/
def readToken (src : Array Char) (i : Nat) (braces : List Nat) (patternOk : Bool) :
    TokenKind × Nat × List Nat :=
  let c := charAt src i
  let text (r : Except SyntaxIssue (String × Nat × Bool)) (first : Bool) (rest : List Nat) :
      TokenKind × Nat × List Nat :=
    match r with
    | .ok (s, j, true) => (if first then .templateHead s else .templateMiddle s, j, 0 :: rest)
    | .ok (s, j, false) => (if first then .templateFull s else .templateTail s, j, rest)
    | .error e => (.illegal e, i + 1, rest)
  if isNameStart c then
    let j := nameEnd src (i + 1)
    (wordKind (slice src i j), j, braces)
  else if c.isDigit || (c == '.' && (charAt src (i + 1)).isDigit) then
    let (k, j) := readNumber src i
    (k, j, braces)
  else if c == '"' || c == '\'' then
    match readString src c (i + 1) [] with
    | .ok (s, j) => (.str s, j, braces)
    | .error e => (.illegal e, i + 1, braces)
  else if c == '\x60' then text (readTemplateText src (i + 1) []) true braces
  else if c == '#' && isNameStart (charAt src (i + 1)) then
    let j := nameEnd src (i + 2)
    (.privateName (slice src (i + 1) j), j, braces)
  else if c == '/' && patternOk then
    let (k, j) := readPattern src i
    (k, j, braces)
  else if c == '}' then
    match braces with
    | 0 :: rest => text (readTemplateText src (i + 1) []) false rest
    | (n + 1) :: rest => (.punct "\x7d", i + 1, n :: rest)
    | [] => (.punct "\x7d", i + 1, [])
  else
    match punctuatorAt src i with
    | some p =>
      let braces := if p == "\x7b" then
          match braces with
          | n :: rest => (n + 1) :: rest
          | [] => []
        else braces
      (.punct p, i + p.length, braces)
    | none => (.illegal .invalidToken, i + 1, braces)

/-- Whether a token ends the token list. -/
def TokenKind.isLast : TokenKind -> Bool
  | .illegal _ => true
  | .eof => true
  | _ => false

/-- Reads tokens from `i` on; the list ends with `eof` or with an `illegal` token. -/
def readTokens (src : Array Char) (i : Nat) (braces : List Nat) (acc : Array Token) : Array Token :=
  match skipBlanks src i false with
  | (j, broke, false) => acc.push ⟨.illegal .invalidToken, j, j, broke⟩
  | (j, broke, true) =>
    if j < src.size then
      let patternOk := (acc.back?.map (·.kind.beforePattern)).getD true
      let (kind, stop, braces') := readToken src j braces patternOk
      let acc := acc.push ⟨kind, j, stop, broke⟩
      if kind.isLast then acc
      else if _ : i < stop ∧ i < src.size then readTokens src stop braces' acc
      else acc.push ⟨.illegal .invalidToken, stop, stop, false⟩
    else acc.push ⟨.eof, src.size, src.size, broke⟩
  termination_by src.size - i
  decreasing_by omega

/-- The tokens of a script. -/
def tokenize (src : Array Char) : Array Token :=
  let start := if charAt src 0 == '#' && charAt src 1 == '!' then skipLine src 2 else 0
  readTokens src start [] #[]

end TranscriptTest.Js
