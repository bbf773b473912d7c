import TranscriptTest.Python.Syntax
import TranscriptTest.Python.Lexer

/-!
# Parsing Python

A recursive-descent parser over the tokens of `Python.Lexer`, following the grammar of Python:
statements and suites by their layout tokens, expressions by precedence from conditional
expressions and lambdas down through `or`, `and`, `not`, comparisons, the bitwise and arithmetic
operators, unary signs and powers to primaries with their calls, subscripts and attributes.
Targets of assignments and loops are read as expressions.
-/

namespace TranscriptTest.Python

/-- The parser: the tokens are read-only, the state is the position of the next one. -/
abbrev Parser := ReaderT (Array Token) (StateT Nat (Except String))

/-- The words that cannot be names. -/
def keywords : List String :=
  ["False", "None", "True", "and", "as", "assert", "async", "await", "break", "class", "continue",
   "def", "del", "elif", "else", "except", "finally", "for", "from", "global", "if", "import",
   "in", "is", "lambda", "nonlocal", "not", "or", "pass", "raise", "return", "try", "while",
   "with", "yield"]

/-- The token `k` places ahead. -/
def peekAt (k : Nat) : Parser Token := do
  pure ((<- read).getD ((<- get) + k) .eof)

/-- The next token. -/
def peek : Parser Token := peekAt 0

/-- Moves past the next token. -/
def advance : Parser Unit := modify (· + 1)

/-- Whether the next token is an operator. -/
def atOp (s : String) : Parser Bool := do
  pure ((<- peek) == .op s)

/-- Whether the next token is a keyword. -/
def atKeyword (s : String) : Parser Bool := do
  pure ((<- peek) == .name s)

/-- Fails with a syntax error. -/
def syntaxError {α : Type} (what : String) : Parser α :=
  throw ("invalid syntax: " ++ what)

/-- Takes an operator that must come next. -/
def expectOp (s : String) : Parser Unit := do
  if <- atOp s then advance else syntaxError ("expected '" ++ s ++ "'")

/-- Takes a keyword that must come next. -/
def expectKeyword (s : String) : Parser Unit := do
  if <- atKeyword s then advance else syntaxError ("expected '" ++ s ++ "'")

/-- Takes an operator if it comes next. -/
def acceptOp (s : String) : Parser Bool := do
  if <- atOp s then advance; pure true else pure false

/-- Takes a keyword if it comes next. -/
def acceptKeyword (s : String) : Parser Bool := do
  if <- atKeyword s then advance; pure true else pure false

/-- Takes a name that must come next. -/
def expectName : Parser String := do
  match <- peek with
  | .name n => if keywords.contains n then syntaxError n else do advance; pure n
  | _ => syntaxError "expected a name"

/-- A dotted module name. -/
def dottedName : Parser String := do
  let first <- expectName
  let rec more : Nat -> String -> Parser String
    | 0, acc => pure acc
    | fuel + 1, acc => do
      if <- acceptOp "." then more fuel (acc ++ "." ++ (<- expectName)) else pure acc
  more 64 first

/-- The binary operators of each precedence level, loosest first. -/
def levelOps : Nat -> List (String × BinOp)
  | 0 => [("|", .bitOr)]
  | 1 => [("^", .bitXor)]
  | 2 => [("&", .bitAnd)]
  | 3 => [("<<", .lshift), (">>", .rshift)]
  | 4 => [("+", .add), ("-", .sub)]
  | _ => [("*", .mul), ("/", .div), ("//", .floorDiv), ("%", .mod), ("@", .matMul)]

/-- The augmented assignment operators. -/
def augmentedOps : List (String × BinOp) :=
  [("+=", .add), ("-=", .sub), ("*=", .mul), ("/=", .div), ("//=", .floorDiv), ("%=", .mod),
   ("**=", .pow), ("@=", .matMul), ("<<=", .lshift), (">>=", .rshift), ("&=", .bitAnd),
   ("|=", .bitOr), ("^=", .bitXor)]

/-- A comparison operator that comes next, with the tokens it takes. -/
def comparisonAhead : Parser (Option (CmpOp × Nat)) := do
  match <- peek with
  | .op "==" => pure (some (.eq, 1))
  | .op "!=" => pure (some (.ne, 1))
  | .op "<" => pure (some (.lt, 1))
  | .op "<=" => pure (some (.le, 1))
  | .op ">" => pure (some (.gt, 1))
  | .op ">=" => pure (some (.ge, 1))
  | .name "in" => pure (some (.isIn, 1))
  | .name "not" => if (<- peekAt 1) == .name "in" then pure (some (.notIn, 2)) else pure none
  | .name "is" => if (<- peekAt 1) == .name "not" then pure (some (.isNot, 2)) else pure (some (.is, 1))
  | _ => pure none

/-- Cuts a formatted string literal into literal text and fields, each the text of its
expression, conversion and format specification (`{{` and `}}` are braces). -/
def formatPieces (body : List Char) : Except String (List (Sum String (String × String × String))) :=
  go (body.length + 1) [] [] body
where
  flush (lit : List Char) (acc : List (Sum String (String × String × String))) :=
    if lit.isEmpty then acc else .inl (String.ofList lit.reverse) :: acc
  go : Nat -> List Char -> List (Sum String (String × String × String)) -> List Char ->
      Except String (List (Sum String (String × String × String)))
    | 0, _, _, _ => .error "f-string too long"
    | _, lit, acc, [] => .ok (flush lit acc).reverse
    | fuel + 1, lit, acc, '\x7b' :: '\x7b' :: rest => go fuel ('\x7b' :: lit) acc rest
    | fuel + 1, lit, acc, '\x7d' :: '\x7d' :: rest => go fuel ('\x7d' :: lit) acc rest
    | fuel + 1, lit, acc, '\x7b' :: rest =>
      -- the field runs to the brace that closes it, past nested brackets and strings
      let rec field : Nat -> Nat -> Option Char -> List Char -> List Char -> Option (List Char × List Char)
        | 0, _, _, _, _ => none
        | _, _, _, _, [] => none
        | f + 1, depth, quote, got, c :: more =>
          match quote with
          | some q => field f depth (if c == q then none else some q) (c :: got) more
          | none =>
            if c == '\'' || c == '"' then field f depth (some c) (c :: got) more
            else if c == '(' || c == '[' || c == '\x7b' then field f (depth + 1) none (c :: got) more
            else if (c == ')' || c == ']' || c == '\x7d') && depth > 0 then
              field f (depth - 1) none (c :: got) more
            else if c == '\x7d' then some (got.reverse, more)
            else field f depth none (c :: got) more
      match field (rest.length + 1) 0 none [] rest with
      | none => .error "f-string: expecting '\x7d'"
      | some (inside, after) =>
        -- split off `!conversion` and `:spec` at the top level of the field
        let rec cut : Nat -> Nat -> List Char -> List Char -> (List Char × List Char)
          | 0, _, got, more => (got.reverse, more)
          | _, _, got, [] => (got.reverse, [])
          | f + 1, depth, got, c :: more =>
            if c == '(' || c == '[' || c == '\x7b' then cut f (depth + 1) (c :: got) more
            else if c == ')' || c == ']' || c == '\x7d' then cut f (depth - 1) (c :: got) more
            else if depth == 0 && (c == ':' || (c == '!' && more.head? != some '=')) then
              (got.reverse, c :: more)
            else cut f depth (c :: got) more
        let (expr, tail) := cut (inside.length + 1) 0 [] inside
        let (conversion, spec) := match tail with
          | '!' :: c :: more => ([c], match more with
            | ':' :: s => s
            | _ => [])
          | ':' :: s => ([], s)
          | _ => ([], [])
        -- `{x=}` shows the expression's text before its value
        let (lit, expr, conversion) :=
          let trimmed := String.ofList (expr.reverse.dropWhile Char.isWhitespace).reverse
          if trimmed.endsWith "=" && !trimmed.endsWith "==" && !trimmed.endsWith "!=" &&
              !trimmed.endsWith "<=" && !trimmed.endsWith ">=" then
            ((String.ofList expr).toList.reverse ++ lit, trimmed.toList.dropLast,
              if conversion.isEmpty && spec.isEmpty then ['r'] else conversion)
          else (lit, expr, conversion)
        go fuel [] (.inr (String.ofList expr, String.ofList conversion, String.ofList spec) ::
          flush lit acc) after
    | fuel + 1, lit, acc, c :: rest => go fuel (c :: lit) acc rest

mutual

/-- Expressions separated by commas, as a tuple when there is a comma: the right side of an
assignment and the value of `return`. -/
def starExpressions : Nat -> Parser Expr
  | 0 => syntaxError "too deep"
  | fuel + 1 => do
    let first <- starExpression fuel
    if !(<- atOp ",") then return first
    let mut acc := [first]
    for _ in [0:100000] do
      if !(<- acceptOp ",") then break
      if <- endsExpressionList then break
      acc := acc ++ [<- starExpression fuel]
    pure (.tuple acc)

/-- Whether the next token cannot start an expression: the end of a list of them. -/
def endsExpressionList : Parser Bool := do
  match <- peek with
  | .op s => pure ([")", "]", "\x7d", "=", ":", ";"].contains s || (augmentedOps.lookup s).isSome)
  | .newline | .eof | .dedent | .indent => pure true
  | .name n => pure (n == "in" || n == "for" || n == "if" || n == "else")
  | _ => pure false

/-- An expression, or `*` and one to unpack. -/
def starExpression : Nat -> Parser Expr
  | 0 => syntaxError "too deep"
  | fuel + 1 => do
    if <- acceptOp "*" then pure (.starred (<- binary fuel 0)) else namedExpression fuel

/-- An expression, or an assignment expression `name := value`. -/
def namedExpression : Nat -> Parser Expr
  | 0 => syntaxError "too deep"
  | fuel + 1 => do
    match <- peek, <- peekAt 1 with
    | .name n, .op ":=" =>
      if keywords.contains n then syntaxError n
      advance; advance
      pure (.walrus n (<- expression fuel))
    | _, _ => expression fuel

/-- A conditional expression or a lambda. -/
def expression : Nat -> Parser Expr
  | 0 => syntaxError "too deep"
  | fuel + 1 => do
    if ← acceptKeyword "lambda" then
      let params <- parameters fuel ":"
      expectOp ":"
      return .lambda params (<- expression fuel)
    let e <- disjunction fuel
    if ← acceptKeyword "if" then
      let cond <- disjunction fuel
      expectKeyword "else"
      pure (.ifElse cond e (<- expression fuel))
    else pure e

/-- A parameter list up to a closing token: names with defaults, `*`, `*args`, `**kwargs`, and
annotations when the list is in parentheses. -/
def parameters : Nat -> String -> Parser (List (String × ParamKind × Option Expr))
  | 0, _ => syntaxError "too deep"
  | fuel + 1, closing => do
    let annotated := closing == ")"
    let mut acc : List (String × ParamKind × Option Expr) := []
    let mut afterStar := false
    for _ in [0:1000] do
      if <- atOp closing then break
      let param ← do
        if ← acceptOp "**" then
          let n <- expectName
          if annotated then if <- acceptOp ":" then let _ <- expression fuel
          pure (some (n, ParamKind.restKeywords, none))
        else if ← acceptOp "*" then
          match <- peek with
          | .name _ =>
            let n <- expectName
            if annotated then if <- acceptOp ":" then let _ <- expression fuel
            pure (some (n, ParamKind.rest, none))
          | _ => pure none
        else if <- acceptOp "/" then pure (some ("/", ParamKind.plain, none))
        else
          let n <- expectName
          if annotated then if <- acceptOp ":" then let _ <- expression fuel
          let dflt <- if <- acceptOp "=" then some <$> expression fuel else pure none
          pure (some (n, if afterStar then ParamKind.keywordOnly else .plain, dflt))
      match param with
      | some ("/", _, _) => pure ()
      | some p =>
        acc := acc ++ [p]
        if p.2.1 == .rest then afterStar := true
      | none => afterStar := true
      if !(<- acceptOp ",") then break
    pure acc

/-- `or` chains. -/
def disjunction : Nat -> Parser Expr
  | 0 => syntaxError "too deep"
  | fuel + 1 => do
    let mut e <- conjunction fuel
    for _ in [0:100000] do
      if <- acceptKeyword "or" then e := .or e (<- conjunction fuel) else break
    pure e

/-- `and` chains. -/
def conjunction : Nat -> Parser Expr
  | 0 => syntaxError "too deep"
  | fuel + 1 => do
    let mut e <- inversion fuel
    for _ in [0:100000] do
      if <- acceptKeyword "and" then e := .and e (<- inversion fuel) else break
    pure e

/-- `not`. -/
def inversion : Nat -> Parser Expr
  | 0 => syntaxError "too deep"
  | fuel + 1 => do
    if <- acceptKeyword "not" then pure (.unary .not (<- inversion fuel)) else comparison fuel

/-- A chain of comparisons. -/
def comparison : Nat -> Parser Expr
  | 0 => syntaxError "too deep"
  | fuel + 1 => do
    let first <- binary fuel 0
    let mut rest : List (CmpOp × Expr) := []
    for _ in [0:100000] do
      match <- comparisonAhead with
      | some (op, n) =>
        for _ in List.range n do advance
        rest := rest ++ [(op, <- binary fuel 0)]
      | none => break
    pure (if rest.isEmpty then first else .compare first rest)

/-- The binary operators from level `level` down. -/
def binary : Nat -> Nat -> Parser Expr
  | 0, _ => syntaxError "too deep"
  | fuel + 1, level => do
    if level >= 6 then return (<- factor fuel)
    let mut e <- binary fuel (level + 1)
    for _ in [0:100000] do
      let op? <- match <- peek with
        | .op s => pure ((levelOps level).lookup s)
        | _ => pure none
      match op? with
      | some op =>
        advance
        e := .binary op e (<- binary fuel (level + 1))
      | none => break
    pure e

/-- Unary signs, then a power. -/
def factor : Nat -> Parser Expr
  | 0 => syntaxError "too deep"
  | fuel + 1 => do
    if <- acceptOp "-" then pure (.unary .neg (<- factor fuel))
    else if <- acceptOp "+" then pure (.unary .pos (<- factor fuel))
    else if <- acceptOp "~" then pure (.unary .invert (<- factor fuel))
    else
      let base <- primary fuel
      if <- acceptOp "**" then pure (.binary .pow base (<- factor fuel)) else pure base

/-- An atom with its calls, subscripts and attributes. -/
def primary : Nat -> Parser Expr
  | 0 => syntaxError "too deep"
  | fuel + 1 => do
    let mut e <- atom fuel
    for _ in [0:100000] do
      if <- acceptOp "." then e := .attr e (<- expectName)
      else if ← acceptOp "(" then e := .call e (← arguments fuel)
      else if ← acceptOp "[" then
        let index <- subscripts fuel
        expectOp "]"
        e := .subscript e index
      else break
    pure e

/-- The arguments of a call, after its `(`, through its `)`. -/
def arguments : Nat -> Parser (List (ArgKind × Expr))
  | 0 => syntaxError "too deep"
  | fuel + 1 => do
    let mut acc : List (ArgKind × Expr) := []
    for _ in [0:100000] do
      if <- acceptOp ")" then return acc
      let arg ← do
        if <- acceptOp "**" then pure (ArgKind.doubleStar, <- expression fuel)
        else if <- acceptOp "*" then pure (ArgKind.star, <- expression fuel)
        else match <- peek, <- peekAt 1 with
          | .name n, .op "=" =>
            if keywords.contains n then syntaxError n
            advance; advance
            pure (ArgKind.keyword n, <- expression fuel)
          | _, _ =>
            let e <- namedExpression fuel
            if ← atKeyword "for" then
              pure (ArgKind.positional, .comp .generator e none (<- clauses fuel))
            else pure (ArgKind.positional, e)
      acc := acc ++ [arg]
      if !(← acceptOp ",") then
        expectOp ")"
        return acc
    pure acc

/-- The index of a subscript: one slice or expression, or several as a tuple. -/
def subscripts : Nat -> Parser Expr
  | 0 => syntaxError "too deep"
  | fuel + 1 => do
    let first <- sliceItem fuel
    if !(<- atOp ",") then return first
    let mut acc := [first]
    for _ in [0:100000] do
      if !(<- acceptOp ",") then break
      if <- atOp "]" then break
      acc := acc ++ [<- sliceItem fuel]
    pure (.tuple acc)

/-- A slice `lo:hi:step` (each part optional) or an expression. -/
def sliceItem : Nat -> Parser Expr
  | 0 => syntaxError "too deep"
  | fuel + 1 => do
    let part : Parser (Option Expr) := do
      if (<- atOp ":") || (<- atOp "]") || (<- atOp ",") then pure none
      else some <$> expression fuel
    let lo <- if <- atOp ":" then pure none else some <$> starExpression fuel
    if !(← acceptOp ":") then
      match lo with
      | some e => return e
      | none => syntaxError "empty subscript"
    let hi <- part
    let step <- if <- acceptOp ":" then part else pure none
    pure (.slice lo hi step)

/-- The `for` and `if` clauses of a comprehension. -/
def clauses : Nat -> Parser (List (Option Expr × Expr))
  | 0 => syntaxError "too deep"
  | fuel + 1 => do
    let mut acc : List (Option Expr × Expr) := []
    for _ in [0:10000] do
      if ← acceptKeyword "for" then
        let target <- targetList fuel
        expectKeyword "in"
        acc := acc ++ [(some target, <- disjunction fuel)]
      else if ← acceptKeyword "if" then
        acc := acc ++ [(none, <- disjunction fuel)]
      else break
    pure acc

/-- The targets of a `for`: expressions up to `in`, as a tuple when there is a comma. -/
def targetList : Nat -> Parser Expr
  | 0 => syntaxError "too deep"
  | fuel + 1 => do
    let one : Parser Expr := do
      if <- acceptOp "*" then pure (.starred (<- binary fuel 0)) else binary fuel 0
    let first <- one
    if !(<- atOp ",") then return first
    let mut acc := [first]
    for _ in [0:10000] do
      if !(<- acceptOp ",") then break
      if <- atKeyword "in" then break
      if <- atOp "=" then break
      acc := acc ++ [<- one]
    pure (.tuple acc)

/-- A formatted string literal as literal parts and fields. -/
def formattedString : Nat -> String -> Bool -> Parser (List Expr)
  | 0, _, _ => syntaxError "too deep"
  | fuel + 1, body, raw => do
    match formatPieces body.toList with
    | .error e => throw e
    | .ok pieces =>
      let mut parts : List Expr := []
      for piece in pieces do
        match piece with
        | .inl text =>
          let text := if raw then text else String.ofList (unescape text.toList)
          parts := parts ++ [.str text]
        | .inr (source, conversion, spec) =>
          let value <- match tokenize ("(" ++ source ++ ")") with
            | .error e => throw e
            | .ok toks =>
              match ((starExpressions fuel).run toks.toArray).run 0 with
              | .ok (e, _) => pure e
              | .error e => throw e
          let specParts <- formattedString fuel spec raw
          parts := parts ++ [.formatted value conversion (.joined specParts)]
      pure parts

/-- An atom: a name, a constant, a string, or a display in brackets. -/
def atom : Nat -> Parser Expr
  | 0 => syntaxError "too deep"
  | fuel + 1 => do
    match <- peek with
    | .name "True" => advance; pure (.bool true)
    | .name "False" => advance; pure (.bool false)
    | .name "None" => advance; pure .none
    | .name n =>
      if keywords.contains n then syntaxError n
      advance; pure (.name n)
    | .int n => advance; pure (.int n)
    | .float x => advance; pure (.float x)
    | .str _ | .fstr _ _ =>
      -- adjacent literals join
      let mut parts : List Expr := []
      let mut anyFormatted := false
      for _ in [0:100000] do
        match <- peek with
        | .str s => advance; parts := parts ++ [.str s]
        | .fstr body raw =>
          advance
          parts := parts ++ (<- formattedString fuel body raw)
          anyFormatted := true
        | _ => break
      if anyFormatted then pure (.joined parts)
      else pure (.str (String.join (parts.map fun p => match p with
        | .str s => s
        | _ => "")))
    | .op "..." => advance; pure .ellipsis
    | .op "(" =>
      advance
      if <- acceptOp ")" then return .tuple []
      let first <- starExpression fuel
      if ← atKeyword "for" then
        let cs <- clauses fuel
        expectOp ")"
        return .comp .generator first none cs
      if <- acceptOp ")" then return first
      let mut acc := [first]
      for _ in [0:1000000] do
        if <- acceptOp ")" then break
        expectOp ","
        if <- acceptOp ")" then break
        acc := acc ++ [<- starExpression fuel]
      pure (.tuple acc)
    | .op "[" =>
      advance
      if <- acceptOp "]" then return .list []
      let first <- starExpression fuel
      if ← atKeyword "for" then
        let cs <- clauses fuel
        expectOp "]"
        return .comp .list first none cs
      let mut acc := [first]
      for _ in [0:1000000] do
        if <- acceptOp "]" then break
        expectOp ","
        if <- acceptOp "]" then break
        acc := acc ++ [<- starExpression fuel]
      pure (.list acc)
    | .op "\x7b" =>
      advance
      if <- acceptOp "\x7d" then return .dict []
      -- a dictionary when the first item has a key or is `**`, else a set
      if ← acceptOp "**" then
        let first := (none, <- binary fuel 0)
        return .dict (<- dictItems fuel [first])
      let first <- starExpression fuel
      if ← acceptOp ":" then
        let value <- expression fuel
        if ← atKeyword "for" then
          let cs <- clauses fuel
          expectOp "\x7d"
          return .comp .dict first (some value) cs
        return .dict (<- dictItems fuel [(some first, value)])
      if ← atKeyword "for" then
        let cs <- clauses fuel
        expectOp "\x7d"
        return .comp .set first none cs
      let mut acc := [first]
      for _ in [0:1000000] do
        if <- acceptOp "\x7d" then break
        expectOp ","
        if <- acceptOp "\x7d" then break
        acc := acc ++ [<- starExpression fuel]
      pure (.set acc)
    | _ => syntaxError "unexpected token"

/-- The rest of a dictionary display after its first entry. -/
def dictItems : Nat -> List (Option Expr × Expr) -> Parser (List (Option Expr × Expr))
  | 0, _ => syntaxError "too deep"
  | fuel + 1, firsts => do
    let mut acc := firsts
    for _ in [0:1000000] do
      if <- acceptOp "\x7d" then break
      expectOp ","
      if <- acceptOp "\x7d" then break
      if <- acceptOp "**" then acc := acc ++ [(none, <- binary fuel 0)]
      else
        let k <- expression fuel
        expectOp ":"
        acc := acc ++ [(some k, <- expression fuel)]
    pure acc

end

mutual

/-- The statements of a suite or of the whole program, up to a dedent or the end. -/
def statements : Nat -> Parser (List Stmt)
  | 0 => syntaxError "too deep"
  | fuel + 1 => do
    let mut acc : List Stmt := []
    for _ in [0:10000000] do
      match <- peek with
      | .dedent | .eof => break
      | .newline => advance
      | _ => acc := acc ++ (<- statement fuel)
    pure acc

/-- A suite after a `:`: an indented block on the lines after, or simple statements on the
same line. -/
def block : Nat -> Parser (List Stmt)
  | 0 => syntaxError "too deep"
  | fuel + 1 => do
    if ← atNewline then
      advance
      match <- peek with
      | .indent =>
        advance
        let body <- statements fuel
        match <- peek with
        | .dedent => advance
        | .eof => pure ()
        | _ => syntaxError "expected a dedent"
        if body.isEmpty then syntaxError "expected an indented block" else pure body
      | _ => syntaxError "expected an indented block"
    else simpleStatements fuel

/-- Whether the next token ends a logical line. -/
def atNewline : Parser Bool := do
  pure ((<- peek) == .newline)

/-- One statement: a compound statement, or a line of simple ones. -/
def statement : Nat -> Parser (List Stmt)
  | 0 => syntaxError "too deep"
  | fuel + 1 => do
    match <- peek with
    | .name "if" =>
      advance
      let cond <- namedExpression fuel
      expectOp ":"
      let body <- block fuel
      let mut branches := [(cond, body)]
      let mut orelse : List Stmt := []
      for _ in [0:100000] do
        if ← acceptKeyword "elif" then
          let c <- namedExpression fuel
          expectOp ":"
          branches := branches ++ [(c, <- block fuel)]
        else if ← acceptKeyword "else" then
          expectOp ":"
          orelse <- block fuel
          break
        else break
      pure [.ifs branches orelse]
    | .name "while" =>
      advance
      let cond <- namedExpression fuel
      expectOp ":"
      let body <- block fuel
      let orelse <- if <- acceptKeyword "else" then do expectOp ":"; block fuel else pure []
      pure [.whileLoop cond body orelse]
    | .name "for" =>
      advance
      let target <- targetList fuel
      expectKeyword "in"
      let iter <- starExpressions fuel
      expectOp ":"
      let body <- block fuel
      let orelse <- if <- acceptKeyword "else" then do expectOp ":"; block fuel else pure []
      pure [.forLoop target iter body orelse]
    | .name "def" => definition fuel []
    | .name "class" => definition fuel []
    | .op "@" =>
      let mut decorators : List Expr := []
      for _ in [0:1000] do
        if ← acceptOp "@" then
          let d <- namedExpression fuel
          if !(<- atNewline) then syntaxError "expected a new line"
          advance
          decorators := decorators ++ [d]
        else break
      definition fuel decorators
    | .name "try" =>
      advance
      expectOp ":"
      let body <- block fuel
      let mut hs : List (Option Expr × Option String × List Stmt) := []
      for _ in [0:10000] do
        if ← acceptKeyword "except" then
          if <- acceptOp ":" then hs := hs ++ [(none, none, <- block fuel)]
          else
            let cls <- expression fuel
            let name <- if <- acceptKeyword "as" then some <$> expectName else pure none
            expectOp ":"
            hs := hs ++ [(some cls, name, <- block fuel)]
        else break
      let orelse <- if <- acceptKeyword "else" then do expectOp ":"; block fuel else pure []
      let final <- if <- acceptKeyword "finally" then do expectOp ":"; block fuel else pure []
      if hs.isEmpty && final.isEmpty then syntaxError "expected 'except' or 'finally' block"
      pure [.tryStmt body hs orelse final]
    | .name "with" =>
      advance
      let mut its : List (Expr × Option Expr) := []
      for _ in [0:1000] do
        let e <- expression fuel
        let target <- if <- acceptKeyword "as" then some <$> targetList fuel else pure none
        its := its ++ [(e, target)]
        if !(<- acceptOp ",") then break
      expectOp ":"
      pure [.withStmt its (<- block fuel)]
    | _ => simpleStatements fuel

/-- A `def` or `class` with its decorators. -/
def definition : Nat -> List Expr -> Parser (List Stmt)
  | 0, _ => syntaxError "too deep"
  | fuel + 1, decorators => do
    if ← acceptKeyword "def" then
      let name <- expectName
      expectOp "("
      let params <- parameters fuel ")"
      expectOp ")"
      if <- acceptOp "->" then let _ <- expression fuel
      expectOp ":"
      pure [.define name params (<- block fuel) decorators]
    else if ← acceptKeyword "class" then
      let name <- expectName
      let bases ← if ← acceptOp "(" then do
          let args <- arguments fuel
          pure (args.filterMap fun (k, e) => if k == .positional then some e else none)
        else pure []
      expectOp ":"
      pure [.classDef name bases (<- block fuel) decorators]
    else syntaxError "expected 'def' or 'class'"

/-- Simple statements separated by `;` up to the end of the line. -/
def simpleStatements : Nat -> Parser (List Stmt)
  | 0 => syntaxError "too deep"
  | fuel + 1 => do
    let mut acc : List Stmt := []
    for _ in [0:10000] do
      acc := acc ++ [<- simpleStatement fuel]
      if ← acceptOp ";" then
        if (← atNewline) || (← peek) == .eof then
          if <- atNewline then advance
          return acc
      else
        match <- peek with
        | .newline => advance; return acc
        | .eof => return acc
        | _ => syntaxError "expected the end of the line"
    pure acc

/-- One simple statement. -/
def simpleStatement : Nat -> Parser Stmt
  | 0 => syntaxError "too deep"
  | fuel + 1 => do
    match <- peek with
    | .name "pass" => advance; pure .pass
    | .name "break" => advance; pure .brk
    | .name "continue" => advance; pure .cont
    | .name "return" =>
      advance
      if (<- atNewline) || (<- atOp ";") || (<- peek) == .eof then pure (.ret none)
      else pure (.ret (some (<- starExpressions fuel)))
    | .name "import" =>
      advance
      let mut names : List (String × Option String) := []
      for _ in [0:1000] do
        let m <- dottedName
        let asName <- if <- acceptKeyword "as" then some <$> expectName else pure none
        names := names ++ [(m, asName)]
        if !(<- acceptOp ",") then break
      pure (.importModules names)
    | .name "from" =>
      advance
      let mut prefix_ := ""
      for _ in [0:1000] do
        if <- acceptOp "." then prefix_ := prefix_ ++ "."
        else if <- acceptOp "..." then prefix_ := prefix_ ++ "..."
        else break
      let m <- if <- atKeyword "import" then pure "" else dottedName
      expectKeyword "import"
      if <- acceptOp "*" then return .importFrom (prefix_ ++ m) [("*", none)]
      let parens ← acceptOp "("
      let mut ns : List (String × Option String) := []
      for _ in [0:10000] do
        if parens then if <- atOp ")" then break
        let n <- expectName
        let asName <- if <- acceptKeyword "as" then some <$> expectName else pure none
        ns := ns ++ [(n, asName)]
        if !(<- acceptOp ",") then break
      if parens then expectOp ")"
      pure (.importFrom (prefix_ ++ m) ns)
    | .name "raise" =>
      advance
      if (<- atNewline) || (<- atOp ";") || (<- peek) == .eof then return .raise none none
      let e <- expression fuel
      let cause <- if <- acceptKeyword "from" then some <$> expression fuel else pure none
      pure (.raise (some e) cause)
    | .name "yield" =>
      advance
      if <- acceptKeyword "from" then pure (.yieldFrom (<- expression fuel))
      else if (<- atNewline) || (<- atOp ";") || (<- peek) == .eof then pure (.yieldValue none)
      else pure (.yieldValue (some (<- starExpressions fuel)))
    | .name "global" =>
      advance
      pure (.global (<- nameList 100 []))
    | .name "nonlocal" =>
      advance
      pure (.nonlocal (<- nameList 100 []))
    | .name "del" =>
      advance
      match <- targetList fuel with
      | .tuple items => pure (.del items)
      | t => pure (.del [t])
    | .name "assert" =>
      advance
      let cond <- expression fuel
      let msg <- if <- acceptOp "," then some <$> expression fuel else pure none
      pure (.assert cond msg)
    | _ =>
      let first <- starExpressions fuel
      match <- peek with
      | .op "=" =>
        let mut all := [first]
        for _ in [0:10000] do
          if <- acceptOp "=" then all := all ++ [<- starExpressions fuel] else break
        match all.getLast? with
        | some value => pure (.assign all.dropLast value)
        | none => syntaxError "assignment"
      | .op ":" =>
        advance
        let _ <- expression fuel
        if <- acceptOp "=" then pure (.assign [first] (<- starExpressions fuel))
        else pure (.annotated first)
      | .op s =>
        match augmentedOps.lookup s with
        | some op =>
          advance
          pure (.augAssign first op (<- starExpressions fuel))
        | none => pure (.expr first)
      | _ => pure (.expr first)

/-- Names separated by commas. -/
def nameList : Nat -> List String -> Parser (List String)
  | 0, acc => pure acc.reverse
  | fuel + 1, acc => do
    let n <- expectName
    if <- acceptOp "," then nameList fuel (n :: acc) else pure (n :: acc).reverse

end

/-- The fuel of a parse: the deepest nesting a program may have. -/
def parseFuel : Nat := 2000

/-- Parses a whole program, or gives the message of its syntax error. -/
def parseProgram (source : String) : Except String (List Stmt) := do
  let toks <- tokenize source
  match ((statements parseFuel).run toks.toArray).run 0 with
  | .ok (body, pos) =>
    match toks.toArray.getD pos .eof with
    | .eof => pure body
    | _ => throw "invalid syntax"
  | .error e => throw e

end TranscriptTest.Python
