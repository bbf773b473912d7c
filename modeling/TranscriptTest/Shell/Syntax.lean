import TranscriptTest.Text.Bytes

/-!
# Shell scripts

The command language of `sh -c` and `bash -c`: simple commands with assignments and
redirections, joined by `;`, newlines, `&&`, `||` and `|`, the compound commands
`while`/`until`, `if`, `case`, `for`, `{ … }` and `( … )`, and function definitions
`name() command`. Bash adds `function name`, the conditional command `[[ … ]]`, the arithmetic
command `((…))` and the arithmetic `for ((…; …; …))`.
-/

namespace TranscriptTest.Shell

/-- A piece of a word. -/
inductive Piece where
  /-- Literal characters; `quoted` ones are not split or matched as patterns. -/
  | text (s : String) (quoted : Bool)
  /-- A parameter, such as `$l` or `${l}`. -/
  | param (name : String) (quoted : Bool)
  /-- `${name op word}`: a default, an assignment, an alternative or an error for an unset or
  empty parameter, or a prefix or suffix pattern removed. -/
  | paramOp (name : String) (op : String) (word : String) (quoted : Bool)
  /-- `${#name}`: the length of a parameter's value. -/
  | length (name : String) (quoted : Bool)
  /-- `${name:offset}` or `${name:offset:length}`: part of a parameter's value, the offset and
  length being arithmetic expressions. -/
  | substring (name : String) (offset : String) (length : Option String) (quoted : Bool)
  /-- A `${…}` that is not an expansion: using it is an error. -/
  | badSubst (quoted : Bool)
  /-- `$(script)` or a backquoted script: its output. -/
  | subst (script : String) (quoted : Bool)
  /-- `$((expression))`. -/
  | arith (expr : String) (quoted : Bool)
  deriving Inhabited, BEq

/-- Whether a piece is quoted. -/
def Piece.quoted : Piece -> Bool
  | .text _ q | .param _ q | .paramOp _ _ _ q | .length _ q | .subst _ q | .arith _ q => q
  | .substring _ _ _ q | .badSubst q => q

/-- A word: pieces written next to each other. -/
abbrev Word := List Piece

/-- A redirection of a file descriptor. -/
inductive Redirect where
  /-- `n> file`, `n>> file`, `n>| file`, `n< file` or `n<> file`. -/
  | file (fd : Nat) (op : String) (target : Word)
  /-- `n>&m` or `n<&m`: a copy of another descriptor, or `-` to close it. -/
  | dup (fd : Nat) (target : Word)
  /-- A here-document or here-string: the descriptor reads the text of the word. -/
  | heredoc (fd : Nat) (body : Word)
  deriving Inhabited, BEq

/-- The test of a conditional command `[[ … ]]`. -/
inductive CondExpr where
  /-- A word alone: true when it is not empty. -/
  | test (w : Word)
  /-- A unary test such as `-z word` or `-d path`. -/
  | unary (op : String) (w : Word)
  /-- A binary test: `==` and `!=` match a pattern, `=~` a regular expression, `<` and `>`
  compare strings, `-eq` and the like compare numbers. -/
  | binary (op : String) (lhs rhs : Word)
  | not (e : CondExpr)
  | and (a b : CondExpr)
  | or (a b : CondExpr)
  deriving Inhabited

/-- An assignment before a command: `name=value`, or in bash `name+=value` appending,
`name[index]=value` setting an element, and `name=(words)` making an array. -/
structure Assignment where
  name : String
  /-- The subscript of `name[index]=value`. -/
  index : Option Word := none
  append : Bool := false
  value : Word := []
  /-- The words of an array `name=(…)`. -/
  elements : Option (List Word) := none
  deriving Inhabited, BEq

/-- A command. -/
inductive Command where
  | simple (assigns : List Assignment) (words : List Word) (redirects : List Redirect)
  | seq (first second : Command)
  | andThen (first second : Command)
  | orElse (first second : Command)
  | pipe (first second : Command)
  | negate (c : Command)
  | loop (cond body : Command) (untilTrue : Bool)
  | branch (cond yes : Command) (no : Option Command)
  | choose (subject : Word) (arms : List (List Word × Command))
  | each (name : String) (items : List Word) (body : Command)
  /-- A compound command with redirections. -/
  | redirected (c : Command) (redirects : List Redirect)
  /-- `( … )`: a command whose variables do not outlive it. -/
  | subshell (c : Command)
  /-- `name() body`: defines a function. -/
  | define (name : String) (body : Command)
  /-- `[[ … ]]`. -/
  | cond (e : CondExpr)
  /-- `((expression))`: true when the value is not zero. -/
  | arith (expr : String)
  /-- `for ((init; test; step))`. -/
  | arithFor (init test step : String) (body : Command)
  | nothing
  deriving Inhabited

/-- A token of a script. -/
inductive Token where
  | word (w : Word) (plain : String)
  | op (s : String)
  /-- The digits of a file descriptor right before a redirection operator. -/
  | io (fd : Nat)
  | newline
  /-- A here-document with its text. -/
  | heredoc (body : Word)
  /-- `((expression))` in bash. -/
  | arith (expr : String)
  deriving Inhabited, BEq

/-- Whether a character ends a word. -/
def isBreak (c : Char) : Bool :=
  c == ' ' || c == '\t' || c == '\n' || c == ';' || c == '&' || c == '|' || c == '(' ||
    c == ')' || c == '<' || c == '>'

/-- Whether a character may be part of a parameter name. -/
def isNameChar (c : Char) : Bool := c.isAlphanum || c == '_'

/-- Why a script cannot be read. -/
inductive ScriptError where
  | unterminatedQuote
  | unexpected (token : String)
  | unexpectedEnd
  deriving Inhabited, BEq

/-- The backquote, which starts and ends an old-style command substitution. -/
def backquote : Char := Char.ofNat 96

/-- The text up to the `)` that closes a `$(`, with what follows it: parentheses nest, and
quoted text and escaped characters do not count. -/
def closingParen : Nat -> Nat -> List Char -> List Char -> Option (List Char × List Char)
  | 0, _, _, _ => none
  | _, _, _, [] => none
  | fuel + 1, depth, acc, c :: rest =>
    if c == ')' then
      if depth == 0 then some (acc.reverse, rest) else closingParen fuel (depth - 1) (c :: acc) rest
    else if c == '(' then closingParen fuel (depth + 1) (c :: acc) rest
    else if c == '\\' then
      match rest with
      | d :: more => closingParen fuel depth (d :: c :: acc) more
      | [] => none
    else if c == '\'' then
      let inner := rest.takeWhile (· != '\'')
      match rest.dropWhile (· != '\'') with
      | q :: more => closingParen fuel depth (q :: inner.reverse ++ c :: acc) more
      | [] => none
    else if c == '"' then
      let rec dq : Nat -> List Char -> List Char -> Option (List Char × List Char)
        | 0, _, _ => none
        | _, acc, [] => some (acc, [])
        | k + 1, acc, '\\' :: d :: more => dq k (d :: '\\' :: acc) more
        | _, acc, '"' :: more => some ('"' :: acc, more)
        | k + 1, acc, d :: more => dq k (d :: acc) more
      match dq (rest.length + 1) (c :: acc) rest with
      | some (acc, more) => closingParen fuel depth acc more
      | none => none
    else closingParen fuel depth (c :: acc) rest

/-- The text up to the `))` that closes a `$((`, with what follows it. -/
def closingArith : Nat -> Nat -> List Char -> List Char -> Option (List Char × List Char)
  | 0, _, _, _ => none
  | _, _, _, [] => none
  | fuel + 1, depth, acc, c :: rest =>
    if c == ')' then
      if depth == 0 then
        match rest with
        | ')' :: more => some (acc.reverse, more)
        | _ => none
      else closingArith fuel (depth - 1) (c :: acc) rest
    else if c == '(' then closingArith fuel (depth + 1) (c :: acc) rest
    else closingArith fuel depth (c :: acc) rest

/-- The text up to the `}` that closes a `${`, with what follows it: inner `${` nest, and
quoted text and escaped characters do not count. -/
def closingBrace : Nat -> Nat -> List Char -> List Char -> Option (List Char × List Char)
  | 0, _, _, _ => none
  | _, _, _, [] => none
  | fuel + 1, depth, acc, c :: rest =>
    if c == '}' then
      if depth == 0 then some (acc.reverse, rest) else closingBrace fuel (depth - 1) (c :: acc) rest
    else if c == '$' && rest.head? == some '{' then
      closingBrace fuel (depth + 1) ('{' :: c :: acc) rest.tail
    else if c == '\\' then
      match rest with
      | d :: more => closingBrace fuel depth (d :: c :: acc) more
      | [] => none
    else if c == '\'' then
      let inner := rest.takeWhile (· != '\'')
      match rest.dropWhile (· != '\'') with
      | q :: more => closingBrace fuel depth (q :: inner.reverse ++ c :: acc) more
      | [] => none
    else closingBrace fuel depth (c :: acc) rest

/-- Whether a character names a special parameter. -/
def isSpecialParam (c : Char) : Bool :=
  c == '?' || c == '#' || c == '$' || c == '@' || c == '*' || c == '!' || c == '-' || c == '0'

/-- The operators of `${name op word}`, longest first: the POSIX ones, and bash's replacements
`/` and `//` and case changes `^`, `^^`, `,` and `,,`. -/
def braceOperators : List String :=
  [":-", ":=", ":+", ":?", "##", "%%", "//", "^^", ",,", "-", "=", "+", "?", "#", "%", "/", "^", ","]

/-- The piece of the inside of `${…}`. -/
def bracePiece (inner : List Char) (quoted : Bool) : Piece :=
  let nameOf (cs : List Char) : Option (String × List Char) :=
    match cs with
    | c :: rest =>
      if c.isDigit then
        let ds := cs.takeWhile Char.isDigit
        some (String.ofList ds, cs.drop ds.length)
      else if isSpecialParam c then some (c.toString, rest)
      else if c.isAlpha || c == '_' then
        let name := cs.takeWhile isNameChar
        let after := cs.dropWhile isNameChar
        -- an array element `name[subscript]`
        match after with
        | '[' :: more =>
          let sub := more.takeWhile (· != ']')
          match more.drop sub.length with
          | ']' :: rest => some (String.ofList name ++ "[" ++ String.ofList sub ++ "]", rest)
          | _ => some (String.ofList name, after)
        | _ => some (String.ofList name, after)
      else none
    | [] => none
  match inner with
  | ['#'] => .param "#" quoted
  | '!' :: rest@(c :: _) =>
    if c.isAlpha || c == '_' then
      match nameOf rest with
      | some (name, []) => .paramOp name "!" "" quoted
      | _ => .badSubst quoted
    else .badSubst quoted
  | '#' :: rest =>
    match nameOf rest with
    | some (name, []) => .length name quoted
    | _ => .badSubst quoted
  | _ =>
    match nameOf inner with
    | some (name, []) => .param name quoted
    | some (name, rest) =>
      match braceOperators.find? (fun op => rest.take op.length == op.toList) with
      | some op => .paramOp name op (String.ofList (rest.drop op.length)) quoted
      | none =>
        match rest with
        | ':' :: spec =>
          let offset := spec.takeWhile (· != ':')
          let length := match spec.dropWhile (· != ':') with
            | _ :: len => some (String.ofList len)
            | [] => none
          .substring name (String.ofList offset) length quoted
        | _ => .badSubst quoted
    | none => .badSubst quoted

/-- Reads what follows a `$`: a parameter, a braced expansion, a command substitution or an
arithmetic expansion. -/
def readDollar (quoted : Bool) (cs : List Char) : Option (Piece × List Char) :=
  match cs with
  | '(' :: '(' :: rest =>
    match closingArith (rest.length + 1) 0 [] rest with
    | some (expr, after) => some (.arith (String.ofList expr) quoted, after)
    | none =>
      match closingParen (cs.length + 1) 0 [] cs.tail with
      | some (script, after) => some (.subst (String.ofList script) quoted, after)
      | none => none
  | '(' :: rest =>
    match closingParen (rest.length + 1) 0 [] rest with
    | some (script, after) => some (.subst (String.ofList script) quoted, after)
    | none => none
  | '{' :: rest =>
    match closingBrace (rest.length + 1) 0 [] rest with
    | some (inner, after) => some (bracePiece inner quoted, after)
    | none => none
  | c :: rest =>
    if c.isDigit || isSpecialParam c then some (.param c.toString quoted, rest)
    else if c.isAlpha || c == '_' then
      some (.param (String.ofList (cs.takeWhile isNameChar)) quoted, cs.dropWhile isNameChar)
    else none
  | [] => none

/-- The script of a backquoted substitution, up to the closing backquote: a backslash before a
backquote, a dollar sign or a backslash is dropped. -/
def readBackquoted : Nat -> List Char -> List Char -> Option (String × List Char)
  | 0, _, _ => none
  | _, _, [] => none
  | fuel + 1, acc, '\\' :: c :: rest =>
    if c == backquote || c == '$' || c == '\\' then readBackquoted fuel (c :: acc) rest
    else readBackquoted fuel (c :: '\\' :: acc) rest
  | fuel + 1, acc, c :: rest =>
    if c == backquote then some (String.ofList acc.reverse, rest)
    else readBackquoted fuel (c :: acc) rest

/-- The quoted text read so far (kept in reverse), as a piece unless it is empty. -/
def quotedText (acc : List Char) : Word :=
  if acc.isEmpty then [] else [.text (String.ofList acc.reverse) true]

/-- Reads the inside of double quotes, up to the closing quote; `fuel` bounds the steps. -/
def readDoubleQuoted : Nat -> List Char -> Word -> List Char -> Except ScriptError (Word × List Char)
  | 0, _, _, _ => throw .unterminatedQuote
  | _ + 1, _, _, [] => throw .unterminatedQuote
  | _ + 1, acc, pieces, '"' :: rest =>
    -- empty text is kept only when nothing else is quoted, so that "$@" can give no field
    if acc.isEmpty && !pieces.isEmpty then pure (pieces, rest)
    else pure (pieces ++ [.text (String.ofList acc.reverse) true], rest)
  | fuel + 1, acc, pieces, '\\' :: c :: rest =>
    if c == '"' || c == '\\' || c == '$' || c == backquote then readDoubleQuoted fuel (c :: acc) pieces rest
    else if c == '\n' then readDoubleQuoted fuel acc pieces rest
    else readDoubleQuoted fuel (c :: '\\' :: acc) pieces rest
  | fuel + 1, acc, pieces, '$' :: rest =>
    match readDollar true rest with
    | some (piece, after) =>
      readDoubleQuoted fuel [] (pieces ++ quotedText acc ++ [piece]) after
    | none => readDoubleQuoted fuel ('$' :: acc) pieces rest
  | fuel + 1, acc, pieces, c :: rest =>
    if c == backquote then
      match readBackquoted (rest.length + 1) [] rest with
      | some (script, after) =>
        readDoubleQuoted fuel [] (pieces ++ quotedText acc ++ [.subst script true]) after
      | none => throw .unterminatedQuote
    else readDoubleQuoted fuel (c :: acc) pieces rest

/-- The text of bash's `$'…'` up to its closing quote, escapes replaced: control escapes, `\e`,
octal and hexadecimal bytes, `\u` and `\U` code points in UTF-8, and `\c` controls. -/
def readAnsiQuoted : Nat -> List Char -> List Char -> Option (String × List Char)
  | 0, _, _ => none
  | _ + 1, _, [] => none
  | _ + 1, acc, '\'' :: rest => some (String.ofList acc.reverse, rest)
  | fuel + 1, acc, '\\' :: c :: rest =>
    let digits (base count : Nat) (cs : List Char) : Nat × List Char :=
      let ds := (cs.take count).takeWhile fun d =>
        (if d.isDigit then d.toNat - 48 else if 'a' ≤ d && d ≤ 'f' then d.toNat - 87
          else if 'A' <= d && d <= 'F' then d.toNat - 55 else 99) < base
      (ds.foldl (fun n d => n * base + (if d.isDigit then d.toNat - 48
        else if 'a' <= d && d <= 'f' then d.toNat - 87 else d.toNat - 55)) 0, cs.drop ds.length)
    let byte (n : Nat) : Char := Text.byteChar n
    let point (n : Nat) : List Char :=
      (Char.ofNat n).toString.toUTF8.toList.reverse.map fun b => byte b.toNat
    match c with
    | 'a' => readAnsiQuoted fuel ('\x07' :: acc) rest
    | 'b' => readAnsiQuoted fuel ('\x08' :: acc) rest
    | 'e' | 'E' => readAnsiQuoted fuel ('\x1b' :: acc) rest
    | 'f' => readAnsiQuoted fuel ('\x0c' :: acc) rest
    | 'n' => readAnsiQuoted fuel ('\n' :: acc) rest
    | 'r' => readAnsiQuoted fuel ('\r' :: acc) rest
    | 't' => readAnsiQuoted fuel ('\t' :: acc) rest
    | 'v' => readAnsiQuoted fuel ('\x0b' :: acc) rest
    | 'x' =>
      match digits 16 2 rest with
      | (_, after) => if after.length == rest.length then readAnsiQuoted fuel ('x' :: '\\' :: acc) rest
        else readAnsiQuoted fuel (byte (digits 16 2 rest).1 :: acc) after
    | 'u' =>
      let (n, after) := digits 16 4 rest
      if after.length == rest.length then readAnsiQuoted fuel ('u' :: '\\' :: acc) rest
      else readAnsiQuoted fuel (point n ++ acc) after
    | 'U' =>
      let (n, after) := digits 16 8 rest
      if after.length == rest.length then readAnsiQuoted fuel ('U' :: '\\' :: acc) rest
      else readAnsiQuoted fuel (point n ++ acc) after
    | 'c' =>
      match rest with
      | d :: more => readAnsiQuoted fuel (Char.ofNat (d.toUpper.toNat % 32) :: acc) more
      | [] => readAnsiQuoted fuel ('c' :: '\\' :: acc) rest
    | '\\' | '\'' | '"' | '?' => readAnsiQuoted fuel (c :: acc) rest
    | _ =>
      if '0' ≤ c && c ≤ '7' then
        let (n, after) := digits 8 3 (c :: rest)
        readAnsiQuoted fuel (byte n :: acc) after
      else readAnsiQuoted fuel (c :: '\\' :: acc) rest
  | fuel + 1, acc, c :: rest => readAnsiQuoted fuel (c :: acc) rest

/-- Reads the rest of a word; `fuel` bounds the steps. -/
def readWord (bash : Bool) : Nat -> List Char -> Word -> Bool -> List Char -> Except ScriptError (Word × Option String × List Char)
  | 0, acc, pieces, plain, cs =>
    let w := pieces ++ [.text (String.ofList acc.reverse) false]
    pure (w, if plain then some (String.ofList acc.reverse) else none, cs)
  | fuel + 1, acc, pieces, plain, cs =>
    let finish (rest : List Char) : Except ScriptError (Word × Option String × List Char) :=
      let w := (pieces ++ [Piece.text (String.ofList acc.reverse) false]).filter (· != Piece.text "" false)
      pure (w, if plain then some (String.ofList acc.reverse) else none, rest)
    match cs with
    | [] => finish []
    | '\'' :: rest =>
      let inner := rest.takeWhile (· != '\'')
      match rest.dropWhile (· != '\'') with
      | '\'' :: after =>
        readWord bash fuel [] (pieces ++ [.text (String.ofList acc.reverse) false, .text (String.ofList inner) true]) false after
      | _ => throw .unterminatedQuote
    | '"' :: rest => do
      let (inner, after) <- readDoubleQuoted (rest.length + 1) [] [] rest
      readWord bash fuel [] (pieces ++ [.text (String.ofList acc.reverse) false] ++ inner) false after
    | '\\' :: '\n' :: rest => readWord bash fuel acc pieces plain rest
    | '\\' :: c :: rest =>
      readWord bash fuel [] (pieces ++ [.text (String.ofList acc.reverse) false, .text c.toString true]) false rest
    | '$' :: '\'' :: rest =>
      if bash then
        match readAnsiQuoted (rest.length + 1) [] rest with
        | some (text, after) =>
          readWord bash fuel [] (pieces ++ [.text (String.ofList acc.reverse) false, .text text true]) false after
        | none => throw .unterminatedQuote
      else
        match readDollar false ('\'' :: rest) with
        | some (piece, after) =>
          readWord bash fuel [] (pieces ++ [.text (String.ofList acc.reverse) false, piece]) false after
        | none => readWord bash fuel ('$' :: acc) pieces plain ('\'' :: rest)
    | '$' :: rest =>
      match readDollar false rest with
      | some (piece, after) =>
        readWord bash fuel [] (pieces ++ [.text (String.ofList acc.reverse) false, piece]) false after
      | none => readWord bash fuel ('$' :: acc) pieces plain rest
    | c :: rest =>
      if c == backquote then
        match readBackquoted (rest.length + 1) [] rest with
        | some (script, after) =>
          readWord bash fuel [] (pieces ++ [.text (String.ofList acc.reverse) false, .subst script false]) false after
        | none => throw .unterminatedQuote
      else if isBreak c then finish (c :: rest) else readWord bash fuel (c :: acc) pieces plain rest

/-- The operators of the language, longest first. -/
def operators : List String :=
  ["&>>", ";;", "&&", "||", ">>", ">&", "<&", ">|", "<>", "&>", ";", "&", "|", "(", ")", "<", ">"]

/-- Reads the text of a here-document whose word is not quoted: expansions and backquotes as
inside double quotes, and a backslash escaping only `$`, a backquote, a backslash or a line
feed. -/
def readHeredocBody : Nat -> List Char -> Word -> List Char -> Word
  | 0, acc, pieces, _ => pieces ++ [.text (String.ofList acc.reverse) true]
  | _ + 1, acc, pieces, [] => pieces ++ [.text (String.ofList acc.reverse) true]
  | fuel + 1, acc, pieces, '\\' :: c :: rest =>
    if c == '$' || c == '\\' || c == backquote then readHeredocBody fuel (c :: acc) pieces rest
    else if c == '\n' then readHeredocBody fuel acc pieces rest
    else readHeredocBody fuel (c :: '\\' :: acc) pieces rest
  | fuel + 1, acc, pieces, '$' :: rest =>
    match readDollar true rest with
    | some (piece, after) =>
      readHeredocBody fuel [] (pieces ++ [.text (String.ofList acc.reverse) true, piece]) after
    | none => readHeredocBody fuel ('$' :: acc) pieces rest
  | fuel + 1, acc, pieces, c :: rest =>
    if c == backquote then
      match readBackquoted (rest.length + 1) [] rest with
      | some (script, after) =>
        readHeredocBody fuel [] (pieces ++ [.text (String.ofList acc.reverse) true, .subst script true]) after
      | none => readHeredocBody fuel (c :: acc) pieces rest
    else readHeredocBody fuel (c :: acc) pieces rest

/-- The lines of a here-document up to its delimiter line (leading tabs stripped with `<<-`),
each with its line feed, and the text after the delimiter line. -/
def heredocLines (delim : String) (strip : Bool) : Nat -> List Char -> List Char -> List Char × List Char
  | 0, acc, rest => (acc.reverse, rest)
  | _ + 1, acc, [] => (acc.reverse, [])
  | fuel + 1, acc, cs =>
    let line := cs.takeWhile (· != '\n')
    let after := (cs.drop line.length).drop 1
    let line := if strip then line.dropWhile (· == '\t') else line
    if String.ofList line == delim then (acc.reverse, after)
    else heredocLines delim strip fuel ('\n' :: line.reverse ++ acc) after

/-- The delimiter of a here-document as written, its quotes removed, and whether any of it was
quoted. -/
def heredocDelimiter (w : Word) : String × Bool :=
  (String.join (w.map fun
    | .text s _ => s
    | .param n _ => "$" ++ n
    | _ => ""), w.any Piece.quoted)

/-- Reads a here-document after `<<` or `<<-`: its word, and its text from the line after the
current one. -/
def readHeredoc (cs : List Char) : Except ScriptError (Token × List Char) := do
  let (strip, cs) := match cs with
    | '-' :: rest => (true, rest)
    | _ => (false, cs)
  let cs := cs.dropWhile fun c => c == ' ' || c == '\t'
  let (w, _, after) <- readWord false (cs.length + 1) [] [] true cs
  let (delim, quoted) := heredocDelimiter w
  let line := after.takeWhile (· != '\n')
  match after.drop line.length with
  | [] => pure (.heredoc [], after)
  | _ :: more =>
    let (body, rest) := heredocLines delim strip (more.length + 1) [] more
    let text := if quoted then [Piece.text (String.ofList body) true]
      else readHeredocBody (body.length + 1) [] [] body
    pure (.heredoc text, line ++ '\n' :: rest)

/-- Splits a script into tokens; `fuel` bounds the steps. -/
def tokenize (bash : Bool) : Nat -> List Char -> Except ScriptError (List Token)
  | 0, _ => pure []
  | _ + 1, [] => pure []
  | fuel + 1, c :: rest =>
    if c == ' ' || c == '\t' then tokenize bash fuel rest
    else if c == '\n' then (Token.newline :: ·) <$> tokenize bash fuel rest
    else if c == '#' then tokenize bash fuel (rest.dropWhile (· != '\n'))
    else if c == '<' && rest.take 2 == ['<', '<'] then
      (Token.op "<<<" :: ·) <$> tokenize bash fuel (rest.drop 2)
    else if c == '<' && rest.head? == some '<' then do
      let (t, after) <- readHeredoc rest.tail
      (t :: ·) <$> tokenize bash fuel after
    else if bash && c == '(' && rest.head? == some '(' then
      match closingArith (rest.length + 1) 0 [] rest.tail with
      | some (expr, after) => (Token.arith (String.ofList expr) :: ·) <$> tokenize bash fuel after
      | none => (Token.op "(" :: ·) <$> tokenize bash fuel rest
    else
      match operators.find? (fun op => (c :: rest).take op.length == op.toList) with
      | some op => (Token.op op :: ·) <$> tokenize bash fuel ((c :: rest).drop op.length)
      | none => do
        let (w, plain, after) <- readWord bash ((c :: rest).length + 1) [] [] true (c :: rest)
        let io := match plain, after with
          | some p, '<' :: _ | some p, '>' :: _ => if p.all Char.isDigit then p.toNat? else none
          | _, _ => none
        match io with
        | some fd => (Token.io fd :: ·) <$> tokenize bash fuel after
        | none =>
          if bash && after.head? == some '(' && (plain.getD "").endsWith "=" then
            -- bash's array assignment: the parenthesis belongs to the word before it
            (fun ts => Token.word w (plain.getD "\x00") :: Token.op "=(" :: ts) <$> tokenize bash fuel (after.drop 1)
          else (Token.word w (plain.getD "\x00") :: ·) <$> tokenize bash fuel after

/-! ## Parsing -/

/-- Words that end a list of commands. -/
def closers : List String := ["do", "done", "then", "fi", "elif", "else", "esac", "\x7d", "in"]

/-- Whether a token ends a list of commands. -/
def Token.closes : Token -> Bool
  | .word _ p => closers.contains p
  | .op s => s == ")" || s == ";;"
  | _ => false

/-- How a token is named in an error. -/
def Token.describe : Token -> String
  | .word _ p => p
  | .op s => s
  | .io fd => toString fd
  | .newline => "newline"
  | .heredoc _ => "<<"
  | .arith _ => "(("

/-- Whether a token is a given plain word. -/
def Token.isWord (t : Token) (s : String) : Bool :=
  match t with
  | .word _ p => p == s
  | _ => false

/-- Drops newlines. -/
def skipNewlines : List Token -> List Token
  | .newline :: rest => skipNewlines rest
  | ts => ts

/-- Drops newlines and semicolons. -/
def skipSeparators : List Token -> List Token
  | .newline :: rest => skipSeparators rest
  | .op ";" :: rest => skipSeparators rest
  | ts => ts

/-- Expects a reserved word. -/
def expectWord (w : String) : List Token -> Except ScriptError (List Token)
  | .word _ p :: rest => if p == w then pure rest else throw (.unexpected p)
  | t :: _ => throw (.unexpected t.describe)
  | [] => throw .unexpectedEnd

/-- Whether an operator redirects. -/
def isRedirectOperator (op : String) : Bool :=
  op == ">" || op == ">>" || op == ">|" || op == "<" || op == "<>" || op == ">&" || op == "<&" ||
    op == "&>" || op == "&>>"

/-- A redirection at the front of the tokens, with the tokens after it. -/
def redirectOf? (ts : List Token) : Option (Redirect × List Token) :=
  let make (fd : Nat) (op : String) (w : Word) (rest : List Token) : Option (Redirect × List Token) :=
    if op == ">&" || op == "<&" then some (.dup fd w, rest) else some (.file fd op w, rest)
  match ts with
  | .io fd :: .heredoc w :: rest => some (.heredoc fd w, rest)
  | .heredoc w :: rest => some (.heredoc 0 w, rest)
  | .io fd :: .op "<<<" :: .word w _ :: rest => some (.heredoc fd (w ++ [.text "\n" true]), rest)
  | .op "<<<" :: .word w _ :: rest => some (.heredoc 0 (w ++ [.text "\n" true]), rest)
  | .io fd :: .op op :: .word w _ :: rest => if isRedirectOperator op then make fd op w rest else none
  | .op op :: .word w _ :: rest =>
    if isRedirectOperator op then make (if op.startsWith "<" then 0 else 1) op w rest else none
  | _ => none

/-- The redirections at the front of the tokens. -/
def redirectsOf : Nat -> List Token -> List Redirect × List Token
  | 0, ts => ([], ts)
  | fuel + 1, ts =>
    match redirectOf? ts with
    | some (r, rest) =>
      let (more, after) := redirectsOf fuel rest
      (r :: more, after)
    | none => ([], ts)

/-- A compound command followed by its redirections, if it has any. -/
def withRedirects (c : Command) (ts : List Token) : Command × List Token :=
  match redirectsOf ts.length ts with
  | ([], ts) => (c, ts)
  | (rs, ts) => (.redirected c rs, ts)

/-- Whether a word is an assignment: `name=value`, or `name+=value`, `name[index]=value`. -/
def assignmentOf? (w : Word) : Option Assignment :=
  match w with
  | .text s false :: rest =>
    let cs := s.toList
    let name := cs.takeWhile isNameChar
    if name.isEmpty || (name.headD '0').isDigit then none
    else
      let value (after : List Char) (more : Word) : Word :=
        (if after.isEmpty then [] else [Piece.text (String.ofList after) false]) ++ more
      let finish (index : Option Word) (after : List Char) (more : Word) : Option Assignment :=
        match after with
        | '=' :: v => some { name := String.ofList name, index, value := value v more }
        | '+' :: '=' :: v => some { name := String.ofList name, index, append := true, value := value v more }
        | _ => none
      match cs.drop name.length with
      | '[' :: inside =>
        -- the subscript runs to a `]` followed by `=` or `+=`, perhaps in a later piece
        let sub := inside.takeWhile (· != ']')
        match inside.drop sub.length with
        | ']' :: after => finish (some [.text (String.ofList sub) false]) after rest
        | _ =>
          let tail := rest.takeWhile fun
            | .text t false => !t.contains ']'
            | _ => true
          match rest.drop tail.length with
          | .text t false :: more =>
            let before := t.toList.takeWhile (· != ']')
            let after := (t.toList.drop before.length).drop 1
            finish (some ([.text (String.ofList sub) false] ++ tail ++ [.text (String.ofList before) false])) after more
          | _ => none
      | after => finish none after rest
  | _ => none

/-- The unary tests of `[[ … ]]`. -/
def condUnaryOps : List String :=
  ["-z", "-n", "-e", "-f", "-d", "-r", "-w", "-x", "-s", "-L", "-h", "-a", "-b", "-c", "-p", "-S",
   "-t", "-v", "-o", "-u", "-g", "-k", "-O", "-G", "-N"]

/-- The binary tests of `[[ … ]]` written as words. -/
def condBinaryOps : List String :=
  ["==", "=", "!=", "=~", "-eq", "-ne", "-lt", "-le", "-gt", "-ge", "-nt", "-ot", "-ef"]

/-- A token inside `[[ … ]]` as a word: an operator stands for itself. -/
def Token.condWord : Token -> Word
  | .word w _ => w
  | .op s => [.text s false]
  | .io fd => [.text (toString fd) false]
  | .newline => []
  | .heredoc _ => []
  | .arith e => [.text ("((" ++ e ++ "))") false]

/-- The pattern after `=~`: the tokens up to the end of the test, written together, with
parentheses nesting. -/
def regexWord : Nat -> Nat -> List Token -> Word × List Token
  | 0, _, ts => ([], ts)
  | _ + 1, _, [] => ([], [])
  | fuel + 1, depth, t :: rest =>
    let take (depth : Nat) :=
      let (w, after) := regexWord fuel depth rest
      (t.condWord ++ w, after)
    match t with
    | .op "&&" | .op "||" => if depth == 0 then ([], t :: rest) else take depth
    | .op ")" => if depth == 0 then ([], t :: rest) else take (depth - 1)
    | .op "(" => take (depth + 1)
    | .word _ "]]" => ([], t :: rest)
    | _ => take depth

mutual

/-- Tests joined by `||`. -/
def condOr : Nat -> List Token -> Except ScriptError (CondExpr × List Token)
  | 0, _ => throw .unexpectedEnd
  | fuel + 1, ts => do
    let (a, rest) <- condAnd fuel ts
    match rest with
    | .op "||" :: more => do
      let (b, rest) <- condOr fuel (skipNewlines more)
      pure (.or a b, rest)
    | _ => pure (a, rest)

/-- Tests joined by `&&`. -/
def condAnd : Nat -> List Token -> Except ScriptError (CondExpr × List Token)
  | 0, _ => throw .unexpectedEnd
  | fuel + 1, ts => do
    let (a, rest) <- condNot fuel ts
    match rest with
    | .op "&&" :: more => do
      let (b, rest) <- condAnd fuel (skipNewlines more)
      pure (.and a b, rest)
    | _ => pure (a, rest)

/-- A test, perhaps negated by `!`. -/
def condNot : Nat -> List Token -> Except ScriptError (CondExpr × List Token)
  | 0, _ => throw .unexpectedEnd
  | fuel + 1, ts =>
    match ts with
    | .word _ "!" :: rest => do
      let (e, rest) <- condNot fuel rest
      pure (.not e, rest)
    | _ => condPrimary fuel ts

/-- A test in parentheses, a unary or binary test, or a word alone. -/
def condPrimary : Nat -> List Token -> Except ScriptError (CondExpr × List Token)
  | 0, _ => throw .unexpectedEnd
  | fuel + 1, ts =>
    match ts with
    | .op "(" :: rest => do
      let (e, rest) <- condOr fuel rest
      match rest with
      | .op ")" :: rest => pure (e, rest)
      | _ => throw (.unexpected "(")
    | .word w p :: rest =>
      match rest with
      | .word _ "=~" :: more =>
        let (r, after) := regexWord (more.length + 1) 0 more
        pure (.binary "=~" w r, after)
      | .word w2 op :: more2 =>
        let unaryOrTest : Except ScriptError (CondExpr × List Token) :=
          if condUnaryOps.contains p && op != "]]" then pure (.unary p w2, more2) else pure (.test w, rest)
        match more2 with
        | .word r _ :: more => if condBinaryOps.contains op then pure (.binary op w r, more) else unaryOrTest
        | _ => unaryOrTest
      | .op "<" :: .word r _ :: more => pure (.binary "<" w r, more)
      | .op ">" :: .word r _ :: more => pure (.binary ">" w r, more)
      | _ => pure (.test w, rest)
    | t :: _ => throw (.unexpected t.describe)
    | [] => throw .unexpectedEnd

end

mutual

/-- Reads a list of commands up to a closing word or the end. -/
def parseList : Nat -> List Token -> Except ScriptError (Command × List Token)
  | 0, _ => throw .unexpectedEnd
  | fuel + 1, ts =>
    match skipSeparators ts with
    | [] => pure (.nothing, [])
    | t :: rest =>
      if t.closes then pure (.nothing, t :: rest)
      else do
        let (first, after) <- parseAndOr fuel (t :: rest)
        match after with
        | .op ";" :: more | .newline :: more | .op "&" :: more => do
          let (next, after) <- parseList fuel more
          pure (match next with
            | .nothing => first
            | n => .seq first n, after)
        | _ => pure (first, after)

/-- Reads commands joined by `&&` and `||`. -/
def parseAndOr : Nat -> List Token -> Except ScriptError (Command × List Token)
  | 0, _ => throw .unexpectedEnd
  | fuel + 1, ts => do
    let (first, after) <- parsePipeline fuel ts
    let rec more : Nat -> Command -> List Token -> Except ScriptError (Command × List Token)
      | 0, c, ts => pure (c, ts)
      | k + 1, c, .op "&&" :: rest => do
        let (next, after) <- parsePipeline fuel (skipNewlines rest)
        more k (.andThen c next) after
      | k + 1, c, .op "||" :: rest => do
        let (next, after) <- parsePipeline fuel (skipNewlines rest)
        more k (.orElse c next) after
      | _ + 1, c, ts => pure (c, ts)
    more after.length first after

/-- Reads commands joined by `|`, with an optional `!`. -/
def parsePipeline : Nat -> List Token -> Except ScriptError (Command × List Token)
  | 0, _ => throw .unexpectedEnd
  | fuel + 1, ts => do
    let (negated, ts) := match ts with
      | .word _ "!" :: rest => (true, rest)
      | ts => (false, ts)
    let (first, after) <- parseCommand fuel ts
    let (c, after) <- match after with
      | .op "|" :: rest => do
        let (second, after) <- parsePipeline fuel (skipNewlines rest)
        pure (Command.pipe first second, after)
      | _ => pure (first, after)
    pure (if negated then .negate c else c, after)

/-- Reads one command: a compound command or a simple one. -/
def parseCommand : Nat -> List Token -> Except ScriptError (Command × List Token)
  | 0, _ => throw .unexpectedEnd
  | fuel + 1, ts =>
    match ts with
    | .word _ "while" :: rest | .word _ "until" :: rest => do
      let untilTrue := match ts with
        | .word _ "until" :: _ => true
        | _ => false
      let (cond, after) <- parseList fuel rest
      let after <- expectWord "do" after
      let (body, after) <- parseList fuel after
      let after <- expectWord "done" after
      pure (withRedirects (.loop cond body untilTrue) after)
    | .word _ "if" :: rest => do
      let (c, after) <- parseIf fuel rest
      pure (withRedirects c after)
    | .word _ "case" :: .word subject _ :: rest => do
      let after <- expectWord "in" (skipNewlines rest)
      let (arms, after) <- parseArms fuel (skipNewlines after)
      pure (withRedirects (.choose subject arms) after)
    | .word _ "for" :: .word _ name :: rest => do
      let (items, after) <- match skipNewlines rest with
        | .word _ "in" :: more =>
          let items := more.takeWhile fun
            | .word _ _ => true
            | _ => false
          pure (items.filterMap (fun
            | .word w _ => some w
            | _ => none), more.drop items.length)
        | more => pure ([], more)
      let after <- expectWord "do" (skipSeparators after)
      let (body, after) <- parseList fuel after
      let after <- expectWord "done" after
      pure (withRedirects (.each name items body) after)
    | .word _ "\x7b" :: rest => do
      let (body, after) <- parseList fuel rest
      let after <- expectWord "\x7d" after
      pure (withRedirects body after)
    | .op "(" :: rest => do
      let (body, after) <- parseList fuel rest
      match after with
      | .op ")" :: after => pure (withRedirects (.subshell body) after)
      | _ => throw .unexpectedEnd
    | .word _ "[[" :: rest => do
      let inner := rest.takeWhile (!·.isWord "]]")
      match rest.drop inner.length with
      | _ :: after => do
        let (e, left) <- condOr (4 * inner.length + 8) inner
        if !left.isEmpty then throw .unexpectedEnd
        pure (withRedirects (.cond e) after)
      | [] => throw .unexpectedEnd
    | .arith e :: rest => pure (withRedirects (.arith e) rest)
    | .word _ "for" :: .arith e :: rest => do
      let parts := e.splitOn ";"
      let after := skipSeparators rest
      let after <- expectWord "do" after
      let (body, after) <- parseList fuel after
      let after <- expectWord "done" after
      pure (withRedirects (.arithFor (parts.getD 0 "") (parts.getD 1 "") (parts.getD 2 "") body) after)
    | .word _ "function" :: .word _ name :: rest => do
      let rest := match rest with
        | .op "(" :: .op ")" :: more => more
        | more => more
      let (body, after) <- parseCommand fuel (skipNewlines rest)
      pure (.define name body, after)
    | .word _ name :: .op "(" :: .op ")" :: rest =>
      if name.isEmpty || !name.all (fun c => isNameChar c || c == '-' || c == '.') then
        throw (.unexpected "(")
      else do
        let (body, after) <- parseCommand fuel (skipNewlines rest)
        pure (.define name body, after)
    | _ => parseSimple fuel [] [] [] ts

/-- Reads `if` after its keyword. -/
def parseIf : Nat -> List Token -> Except ScriptError (Command × List Token)
  | 0, _ => throw .unexpectedEnd
  | fuel + 1, ts => do
    let (cond, after) <- parseList fuel ts
    let after <- expectWord "then" after
    let (yes, after) <- parseList fuel after
    match after with
    | .word _ "elif" :: rest => do
      let (no, after) <- parseIf fuel rest
      pure (.branch cond yes (some no), after)
    | .word _ "else" :: rest => do
      let (no, after) <- parseList fuel rest
      let after <- expectWord "fi" after
      pure (.branch cond yes (some no), after)
    | _ => do
      let after <- expectWord "fi" after
      pure (.branch cond yes none, after)

/-- Reads the arms of `case` up to `esac`. -/
def parseArms : Nat -> List Token -> Except ScriptError (List (List Word × Command) × List Token)
  | 0, _ => throw .unexpectedEnd
  | fuel + 1, ts =>
    match skipNewlines ts with
    | .word _ "esac" :: rest => pure ([], rest)
    | ts => do
      let ts := match ts with
        | .op "(" :: rest => rest
        | ts => ts
      let (patterns, after) <- parsePatterns fuel ts
      let (body, after) <- parseList fuel after
      let after := match skipNewlines after with
        | .op ";;" :: rest => rest
        | rest => rest
      let (arms, after) <- parseArms fuel after
      pure ((patterns, body) :: arms, after)

/-- Reads the patterns of one arm, up to its `)`. -/
def parsePatterns : Nat -> List Token -> Except ScriptError (List Word × List Token)
  | 0, _ => throw .unexpectedEnd
  | fuel + 1, ts =>
    match ts with
    | .word w _ :: .op ")" :: rest => pure ([w], rest)
    | .word w _ :: .op "|" :: rest => do
      let (more, after) <- parsePatterns fuel rest
      pure (w :: more, after)
    | t :: _ => throw (.unexpected t.describe)
    | [] => throw .unexpectedEnd

/-- Reads a simple command: assignments, words and redirections. -/
def parseSimple : Nat -> List Assignment -> List Word -> List Redirect -> List Token ->
    Except ScriptError (Command × List Token)
  | 0, _, _, _, _ => throw .unexpectedEnd
  | fuel + 1, assigns, words, redirects, ts =>
    match redirectOf? ts with
    | some (r, rest) => parseSimple fuel assigns words (redirects ++ [r]) rest
    | none =>
      match ts with
      | .word w _ :: rest =>
        match words.isEmpty, assignmentOf? w, rest with
        | true, some a, .op "=(" :: more =>
          if a.value.isEmpty && a.index.isNone then
            -- an array: the words up to the closing parenthesis
            let inner := more.takeWhile (fun t => t != .op ")")
            let elements := inner.filterMap fun
              | .word w _ => some w
              | _ => none
            match more.drop inner.length with
            | _ :: after => parseSimple fuel (assigns ++ [{ a with elements := some elements }]) words redirects after
            | [] => throw .unexpectedEnd
          else parseSimple fuel (assigns ++ [a]) words redirects rest
        | true, some a, _ => parseSimple fuel (assigns ++ [a]) words redirects rest
        | _, _, _ => parseSimple fuel assigns (words ++ [w]) redirects rest
      | ts =>
        if assigns.isEmpty && words.isEmpty && redirects.isEmpty then
          match ts with
          | .op s :: _ => throw (.unexpected s)
          | .io fd :: _ => throw (.unexpected (toString fd))
          | _ => throw .unexpectedEnd
        else pure (.simple assigns words redirects, ts)

end

/-- Reads a whole script, as bash reads it when `bash` is set. -/
def parseScript (bash : Bool) (text : String) : Except ScriptError Command := do
  let tokens <- tokenize bash (text.length + 1) text.toList
  -- every level of nesting takes at least one token and four steps
  let (c, rest) <- parseList (4 * tokens.length + 8) tokens
  match rest with
  | [] => pure c
  | t :: _ => throw (.unexpected t.describe)

/-- Reads the word inside a braced expansion: quotes and expansions as in any word, and the
characters that would end a word taken as they are. -/
def readInnerWord (s : String) : Word :=
  let rec go : Nat -> List Char -> Word
    | 0, _ => []
    | _, [] => []
    | fuel + 1, cs =>
      match readWord false (cs.length + 1) [] [] true cs with
      | .ok (w, _, c :: rest) => w ++ [.text c.toString false] ++ go fuel rest
      | .ok (w, _, []) => w
      | .error _ => [.text (String.ofList cs) false]
  go (s.length + 1) s.toList

end TranscriptTest.Shell
