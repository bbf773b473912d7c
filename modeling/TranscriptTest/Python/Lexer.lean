import TranscriptTest.Decimal.Format
import TranscriptTest.Unicode.Category

/-!
# Reading Python source into tokens

Source is cut into names, numbers, strings, operators and the layout tokens of Python: the end
of a logical line, and the indentation and dedentation around a suite. Inside brackets, and
after a backslash at the end of a line, lines join. Blank lines and comments carry no tokens.
Indentation counts a tab as reaching the next multiple of eight columns; a dedent must return to
an indentation seen before.
-/

namespace TranscriptTest.Python

/-- A token of Python source. -/
inductive Token where
  | name (s : String)
  | int (n : Int)
  | float (x : Float)
  | str (s : String)
  /-- A formatted string literal, as written between its quotes, and whether it is raw. -/
  | fstr (body : String) (raw : Bool)
  | op (s : String)
  | newline
  | indent
  | dedent
  | eof
  deriving Inhabited, BEq

/-- The operators and delimiters, longest first. -/
def operators : List String :=
  ["**=", "//=", ">>=", "<<=", "...", "->", ":=", "**", "//", "<<", ">>", "<=", ">=", "==", "!=",
   "+=", "-=", "*=", "/=", "%=", "&=", "|=", "^=", "@=", "+", "-", "*", "/", "%", "@", "&", "|",
   "^", "~", "<", ">", "(", ")", "[", "]", "\x7b", "\x7d", ",", ":", ".", ";", "="]

def letterCategories : Unicode.RangeTable := (Unicode.category? "L").getD default
def markCategories : Unicode.RangeTable := (Unicode.category? "M").getD default
def digitCategories : Unicode.RangeTable := (Unicode.category? "Nd").getD default

/-- Whether a character may start a name. -/
def isNameStart (c : Char) : Bool :=
  c.isAlpha || c == '_' || (c.toNat >= 0x80 && letterCategories.contains c)

/-- Whether a character may continue a name. -/
def isNameChar (c : Char) : Bool :=
  isNameStart c || c.isDigit ||
    (c.toNat >= 0x80 && (markCategories.contains c || digitCategories.contains c))

/-- The value of a hexadecimal digit. -/
def hexDigit? (c : Char) : Option Nat :=
  if c.isDigit then some (c.toNat - '0'.toNat)
  else if 'a' <= c && c <= 'f' then some (c.toNat - 'a'.toNat + 10)
  else if 'A' <= c && c <= 'F' then some (c.toNat - 'A'.toNat + 10)
  else none

/-- The value of digits in a base. -/
def digitsValue (base : Nat) (cs : List Char) : Option Nat :=
  cs.foldl (fun acc c => match acc, hexDigit? c with
    | some v, some d => if d < base then some (v * base + d) else none
    | _, _ => none) (some 0)

/-- Reads an escape after a backslash in a non-raw string: the characters it stands for and
the rest. -/
def readEscape : List Char -> List Char × List Char
  | [] => (['\\'], [])
  | c :: rest =>
    match c with
    | 'n' => (['\n'], rest)
    | 't' => (['\t'], rest)
    | 'r' => (['\r'], rest)
    | '\\' => (['\\'], rest)
    | '\'' => (['\''], rest)
    | '"' => (['"'], rest)
    | 'a' => (['\x07'], rest)
    | 'b' => (['\x08'], rest)
    | 'f' => (['\x0c'], rest)
    | 'v' => (['\x0b'], rest)
    | '\n' => ([], rest)
    | 'x' =>
      let hex := rest.take 2
      match digitsValue 16 hex with
      | some v => if hex.length == 2 then ([Char.ofNat v], rest.drop 2) else (['\\', 'x'], rest)
      | none => (['\\', 'x'], rest)
    | 'u' =>
      let hex := rest.take 4
      match digitsValue 16 hex with
      | some v => if hex.length == 4 then ([Char.ofNat v], rest.drop 4) else (['\\', 'u'], rest)
      | none => (['\\', 'u'], rest)
    | 'U' =>
      let hex := rest.take 8
      match digitsValue 16 hex with
      | some v => if hex.length == 8 then ([Char.ofNat v], rest.drop 8) else (['\\', 'U'], rest)
      | none => (['\\', 'U'], rest)
    | _ =>
      if '0' ≤ c && c ≤ '7' then
        let octal := (c :: rest).takeWhile (fun d => '0' <= d && d <= '7') |>.take 3
        ([Char.ofNat ((digitsValue 8 octal).getD 0)], (c :: rest).drop octal.length)
      else (['\\', c], rest)

/-- Reads escapes through a whole string body. -/
def unescape (cs : List Char) : List Char :=
  let rec go : Nat -> List Char -> List Char
    | 0, rest => rest
    | _, [] => []
    | fuel + 1, '\\' :: rest =>
      let (out, rest) := readEscape rest
      out ++ go fuel rest
    | fuel + 1, c :: rest => c :: go fuel rest
  go (cs.length + 1) cs

/-- Reads the body of a string literal up to its closing quote(s): the body as written and the
rest after the closing quote, or nothing if the literal does not end. -/
def stringBody (quote : Char) (triple : Bool) : List Char → Option (List Char × List Char) :=
  let rec go : Nat -> List Char -> List Char -> Option (List Char × List Char)
    | 0, _, _ => none
    | _, _, [] => none
    | fuel + 1, acc, '\\' :: c :: rest => go fuel (c :: '\\' :: acc) rest
    | fuel + 1, acc, c :: rest =>
      if c == quote then
        if !triple then some (acc.reverse, rest)
        else match rest with
          | q2 :: q3 :: tail => if q2 == quote && q3 == quote then some (acc.reverse, tail)
            else go fuel (c :: acc) rest
          | _ => go fuel (c :: acc) rest
      else if c == '\n' && !triple then none
      else go fuel (c :: acc) rest
  fun cs => go (cs.length + 1) [] cs

/-- Reads a number: an integer (decimal, hexadecimal, octal or binary, with underscores) or a
floating-point literal. -/
def readNumber (cs : List Char) : Option (Token × List Char) :=
  let isDigitish (c : Char) := c.isDigit || c == '_'
  match cs with
  | '0' :: x :: rest =>
    let base := if x == 'x' || x == 'X' then 16 else if x == 'o' || x == 'O' then 8
      else if x == 'b' || x == 'B' then 2 else 0
    if base != 0 then
      let digits := rest.takeWhile fun c => (hexDigit? c).isSome || c == '_'
      match digitsValue base (digits.filter (· != '_')) with
      | some v => if digits.isEmpty then none else some (.int v, rest.drop digits.length)
      | none => none
    else readDecimal cs isDigitish
  | _ => readDecimal cs isDigitish
where
  readDecimal (cs : List Char) (isDigitish : Char → Bool) : Option (Token × List Char) :=
    let whole := cs.takeWhile isDigitish
    let rest := cs.drop whole.length
    let (fraction, rest, dotted) := match rest with
      | '.' :: more => let f := more.takeWhile isDigitish; (f, more.drop f.length, true)
      | _ => ([], rest, false)
    let (exponent, rest) := match rest with
      | e :: more =>
        if e == 'e' || e == 'E' then
          let (sign, more') := match more with
            | '+' :: m => (['+'], m)
            | '-' :: m => (['-'], m)
            | _ => ([], more)
          let digits := more'.takeWhile isDigitish
          if digits.isEmpty then ([], rest) else (e :: sign ++ digits, more'.drop digits.length)
        else ([], rest)
      | [] => ([], rest)
    if whole.isEmpty && fraction.isEmpty then none
    else if !dotted && exponent.isEmpty then
      some (.int ((String.ofList (whole.filter (· != '_'))).toNat!), rest)
    else
      let text := (whole ++ (if dotted then '.' :: fraction else []) ++ exponent).filter (· != '_')
      let text := if whole.isEmpty then '0' :: text else text
      let (x, _, _) := Decimal.readDoublePrefix text
      some (.float x, rest)

/-- Reads a string literal after its prefix letters. -/
def readString (lowerPrefix : String) (cs : List Char) : Option (Token × List Char) :=
  match cs with
  | q :: rest =>
    let triple := rest.take 2 == [q, q]
    let rest := if triple then rest.drop 2 else rest
    match stringBody q triple rest with
    | some (body, after) =>
      let raw := lowerPrefix.contains 'r'
      if lowerPrefix.contains 'f' then some (.fstr (String.ofList body) raw, after)
      else some (.str (String.ofList (if raw then body else unescape body)), after)
    | none => none
  | [] => none

/-- What the lexer keeps while reading: the indentation stack and bracket depth. -/
structure LexState where
  indents : List Nat := [0]
  depth : Nat := 0
  /-- Whether the next character starts a logical line. -/
  atLineStart : Bool := true

/-- The width of leading blanks, a tab reaching the next multiple of eight. -/
def indentWidth (cs : List Char) : Nat × List Char :=
  let rec go : Nat -> List Char -> Nat × List Char
    | w, ' ' :: rest => go (w + 1) rest
    | w, '\t' :: rest => go ((w / 8 + 1) * 8) rest
    | w, '\x0c' :: rest => go w rest
    | w, rest => (w, rest)
  go 0 cs

/-- Cuts source into tokens, or gives the message of a syntax error. -/
def tokenize (source : String) : Except String (List Token) :=
  go (2 * source.length + 4) {} [] source.toList
where
  go : Nat -> LexState -> List Token -> List Char -> Except String (List Token)
    | 0, _, _, _ => .error "source too long"
    | fuel + 1, st, acc, cs =>
      if st.atLineStart && st.depth == 0 then
        let (width, rest) := indentWidth cs
        match rest with
        | [] =>
          let closing := (st.indents.filter (· > 0)).map fun _ => Token.dedent
          let acc := if acc.head? == some .newline || acc.isEmpty then acc else .newline :: acc
          .ok ((acc.reverse ++ closing) ++ [.eof])
        | '\n' :: more => go fuel st acc more
        | '\r' :: more => go fuel st acc more
        | '#' :: _ => go fuel { st with atLineStart := false } acc rest
        | '\\' :: '\n' :: more => go fuel st acc more
        | _ =>
          let top := st.indents.headD 0
          if width > top then
            go fuel { st with indents := width :: st.indents, atLineStart := false } (.indent :: acc) rest
          else if width == top then go fuel { st with atLineStart := false } acc rest
          else
            let kept := st.indents.dropWhile (· > width)
            if kept.headD 0 != width then
              .error "unindent does not match any outer indentation level"
            else
              let dedents := (st.indents.length - kept.length).fold (fun _ _ l => Token.dedent :: l) []
              go fuel { st with indents := kept, atLineStart := false } (dedents ++ acc) rest
      else
        match cs with
        | [] =>
          if st.depth > 0 then .error "unexpected EOF while parsing"
          else go fuel { st with atLineStart := true } (if acc.head? == some .newline then acc else .newline :: acc) []
        | '\n' :: rest =>
          if st.depth > 0 then go fuel st acc rest
          else
            let acc := if acc.head? == some .newline || acc.isEmpty then acc else .newline :: acc
            go fuel { st with atLineStart := true } acc rest
        | '\\' :: '\n' :: rest => go fuel st acc rest
        | '#' :: rest => go fuel st acc (rest.dropWhile (· != '\n'))
        | c :: rest =>
          if c == ' ' || c == '\t' || c == '\r' || c == '\x0c' then go fuel st acc rest
          else if c.isDigit || (c == '.' && (rest.head?.map Char.isDigit).getD false) then
            match readNumber (c :: rest) with
            | some (t, after) =>
              if (after.head?.map isNameChar).getD false then .error "invalid decimal literal"
              else go fuel st (t :: acc) after
            | none => .error "invalid number literal"
          else if isNameStart c then
            let word := (c :: rest).takeWhile isNameChar
            let after := (c :: rest).drop word.length
            let lower := String.ofList (word.map Char.toLower)
            let isPrefix := ["r", "u", "b", "f", "rb", "br", "fr", "rf"].contains lower
            match after with
            | q :: _ =>
              if isPrefix && (q == '\'' || q == '"') then
                match readString lower after with
                | some (t, after') => go fuel st (t :: acc) after'
                | none => .error "unterminated string literal"
              else go fuel st (.name (String.ofList word) :: acc) after
            | [] => go fuel st (.name (String.ofList word) :: acc) after
          else if c == '\'' || c == '"' then
            match readString "" (c :: rest) with
            | some (t, after) => go fuel st (t :: acc) after
            | none => .error "unterminated string literal"
          else
            match operators.find? fun o => o.toList.isPrefixOf (c :: rest) with
            | some o =>
              let depth := if o == "(" || o == "[" || o == "\x7b" then st.depth + 1
                else if o == ")" || o == "]" || o == "\x7d" then st.depth - 1 else st.depth
              go fuel { st with depth } (.op o :: acc) ((c :: rest).drop o.length)
            | none => .error ("invalid character '" ++ c.toString ++ "'")

end TranscriptTest.Python
