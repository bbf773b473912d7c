import TranscriptTest.Js.Lexer
import TranscriptTest.Js.Number
import TranscriptTest.Js.Declared
import TranscriptTest.Js.Regex.Syntax

/-!
# Reading tokens into a syntax tree

A recursive-descent parser over the token array, one function per grammar level, from
comma expressions down to primary expressions, and from statement lists down to single
statements. Every function takes a fuel argument that shrinks on each nested call; it is
computed from the number of tokens, so it only runs out on nesting no script here reaches.
-/

namespace TranscriptTest.Js

/-- Where the parser stands. -/
structure ParseContext where
  toks : Array Token
  src : Array Char
  inFunction : Bool := false
  inLoop : Bool := false
  inSwitch : Bool := false
  /-- Labels in scope, each with whether it labels a loop. -/
  labels : List (String × Bool) := []
  superProperty : Bool := false
  superCall : Bool := false
  /-- Inside the head of a `for` loop, where `in` ends an expression. -/
  noIn : Bool := false
  /-- Inside a function that is not an arrow, where `new.target` may stand. -/
  newTarget : Bool := false
  /-- Inside strict code: a script or function that opens with `"use strict"`, or a class. -/
  strict : Bool := false
  /-- Inside a generator's body, where `yield` is an operator. -/
  inGenerator : Bool := false
  /-- Inside an `async` function's body, where `await` is an operator. -/
  inAsync : Bool := false

/-- Parsing: read the context, move through the tokens, fail with a syntax issue. -/
abbrev Parser := ReaderT ParseContext (StateT Nat (Except SyntaxIssue))

/-- The token at the current place. -/
def peekTok : Parser Token := do
  let c <- read
  let i <- get
  pure (c.toks.getD i ⟨.eof, c.src.size, c.src.size, false⟩)

/-- The token before the current one. -/
def prevTok : Parser Token := do
  let c <- read
  let i <- get
  pure (c.toks.getD (i - 1) ⟨.eof, 0, 0, false⟩)

/-- The line and column of a character of the source. -/
def Site.ofOffset (src : Array Char) (start : Nat) : Site :=
  let (line, lineStart, _) := (src.extract 0 start).foldl
    (fun (acc : Nat × Nat × Nat) c =>
      if c == '\n' then (acc.1 + 1, acc.2.2 + 1, acc.2.2 + 1) else (acc.1, acc.2.1, acc.2.2 + 1))
    (1, 0, 0)
  ⟨line, start - lineStart + 1⟩

/-- Where a token starts, as a line and a column. -/
def siteOf (t : Token) : Parser Site := do
  pure (Site.ofOffset (<- read).src t.start)

/-- Where stack traces place a call whose `(` is the current token: at the name called when
the callee ends with one, else at the `(`. -/
def callSite : Parser Site := do
  let prev <- prevTok
  match prev.kind with
  | .ident _ | .keyword _ => siteOf prev
  | _ => siteOf (<- peekTok)

/-- The token after the current one. -/
def peekSecond : Parser Token := do
  let c <- read
  let i <- get
  pure (c.toks.getD (i + 1) ⟨.eof, c.src.size, c.src.size, false⟩)

/-- Moves past the current token. -/
def bump : Parser Unit :=
  modify (· + 1)

/-- Where the previous token ends. -/
def lastStop : Parser Nat := do
  let c <- read
  let i <- get
  pure ((c.toks.getD (i - 1) default).stop)

/-- The text between two places of the script. -/
def sourceText (start stop : Nat) : Parser String := do
  pure (slice (<- read).src start stop)

/-- Whether a token is the punctuator `p`. -/
def TokenKind.isPunct (p : String) : TokenKind -> Bool
  | .punct q => p == q
  | _ => false

/-- Whether a token is the reserved word `w`. -/
def TokenKind.isKeyword (w : String) : TokenKind -> Bool
  | .keyword k => w == k
  | _ => false

/-- Whether a token is the name `n`. -/
def TokenKind.isName (n : String) : TokenKind -> Bool
  | .ident m => n == m
  | _ => false

/-- Whether a token ends an expression rather than starting one: a closing bracket, a
separator, the rest of a template, or the end. -/
def TokenKind.endsOperand : TokenKind -> Bool
  | .punct p => [")", "]", "\x7d", ",", ";", ":"].contains p
  | .templateMiddle _ | .templateTail _ | .eof => true
  | _ => false

/-- The issue of finding this token where it does not fit. -/
def TokenKind.issue : TokenKind -> SyntaxIssue
  | .eof => .unexpectedEnd
  | .num _ => .unexpectedNumber
  | .bigint _ => .unexpectedNumber
  | .str _ => .unexpectedString
  | .ident n => .unexpectedIdentifier n
  | .keyword w => if w == "enum" then .unexpectedReserved else .unexpectedToken w
  | .templateFull _ => .unexpectedTemplate
  | .templateHead _ => .unexpectedTemplate
  | .templateMiddle _ => .unexpectedTemplate
  | .templateTail _ => .unexpectedTemplate
  | .pattern _ _ => .unexpectedPattern
  | .privateName n => .unexpectedIdentifier ("#" ++ n)
  | .punct p => .unexpectedToken p
  | .illegal i => i

/-- Fails at the current token. -/
def unexpected {α : Type} : Parser α := do
  throw (<- peekTok).kind.issue

/-- Takes the punctuator `p` or fails. -/
def expectPunct (p : String) : Parser Unit := do
  if (<- peekTok).kind.isPunct p then bump else unexpected

/-- Whether the current token is the punctuator `p`. -/
def atPunct (p : String) : Parser Bool := do
  pure ((<- peekTok).kind.isPunct p)

/-- Takes the punctuator `p` if it is there. -/
def eatPunct (p : String) : Parser Bool := do
  if (<- atPunct p) then bump; pure true else pure false

/-- Ends a statement: a semicolon, or nothing before `}`, the end, or a line break. -/
def endStatement : Parser Unit := do
  let t <- peekTok
  if t.kind.isPunct ";" then bump
  else if t.kind.isPunct "\x7d" || t.newlineBefore then pure ()
  else match t.kind with
    | .eof => pure ()
    | _ => unexpected

/-- A property name after `.` or in a literal: any name or reserved word. -/
def TokenKind.propertyName? : TokenKind -> Option String
  | .ident n => some n
  | .keyword w => some w
  | _ => none

/-- The text of a named key. -/
def Key.nameText? : Key -> Option String
  | .named n => some n
  | .computed _ => none
  | .privateName n => some ("#" ++ n)

/-- Assignment operators. -/
def assignOps : List String :=
  ["=", "+=", "-=", "*=", "/=", "%=", "**=", "<<=", ">>=", ">>>=", "&=", "|=", "^=", "&&=",
   "||=", "??="]

/-- The binding power of a binary operator; `in` counts only outside a `for` head. -/
def binaryPrecedence (k : TokenKind) (noIn : Bool) : Option Nat :=
  match k with
  | .punct p =>
    if p == "??" then some 1
    else if p == "||" then some 2
    else if p == "&&" then some 3
    else if p == "|" then some 4
    else if p == "^" then some 5
    else if p == "&" then some 6
    else if p == "==" || p == "!=" || p == "===" || p == "!==" then some 7
    else if p == "<" || p == ">" || p == "<=" || p == ">=" then some 8
    else if p == "<<" || p == ">>" || p == ">>>" then some 9
    else if p == "+" || p == "-" then some 10
    else if p == "*" || p == "/" || p == "%" then some 11
    else if p == "**" then some 12
    else none
  | .keyword "instanceof" => some 8
  | .keyword "in" => if noIn then none else some 8
  | _ => none

/-- The operator text of a binary operator token. -/
def TokenKind.operatorText : TokenKind -> String
  | .punct p => p
  | .keyword w => w
  | _ => ""

/-- Where the bracket opened at `i` closes, counting all three kinds of brackets. -/
def closingBracket (toks : Array Token) (i : Nat) (depth : Nat) : Option Nat :=
  if h : i < toks.size then
    match toks[i].kind with
    | .punct p =>
      if p == "(" || p == "[" || p == "\x7b" then closingBracket toks (i + 1) (depth + 1)
      else if p == ")" || p == "]" || p == "\x7d" then
        if depth <= 1 then some i else closingBracket toks (i + 1) (depth - 1)
      else closingBracket toks (i + 1) depth
    | .templateHead _ => closingBracket toks (i + 1) (depth + 1)
    | .templateMiddle _ => closingBracket toks (i + 1) depth
    | .templateTail _ => closingBracket toks (i + 1) (depth - 1)
    | .eof => none
    | .illegal _ => none
    | _ => closingBracket toks (i + 1) depth
  else none
  termination_by toks.size - i

/-- Whether an arrow function starts at the current token: a name or a parenthesized list
followed by `=>`. -/
def arrowAhead : Parser Bool := do
  let c <- read
  let i <- get
  let t <- peekTok
  match t.kind with
  | .ident _ => pure ((<- peekSecond).kind.isPunct "=>")
  | .punct "(" =>
    match closingBracket c.toks i 0 with
    | some j => pure ((c.toks.getD (j + 1) default).kind.isPunct "=>")
    | none => pure false
  | _ => pure false

/-- Whether an `async` arrow function starts at the current token: `async` and, on the same
line, a name or a parenthesized list followed by `=>`. -/
def asyncArrowAhead : Parser Bool := do
  let t <- peekTok
  if !t.kind.isName "async" then return false
  let second <- peekSecond
  if second.newlineBefore then return false
  let c <- read
  let i <- get
  match second.kind with
  | .ident _ => pure ((c.toks.getD (i + 2) default).kind.isPunct "=>")
  | .punct "(" =>
    match closingBracket c.toks (i + 1) 0 with
    | some j => pure ((c.toks.getD (j + 1) default).kind.isPunct "=>")
    | none => pure false
  | _ => pure false

/-- Whether a token after `await`, on the same line, starts an operand, which makes `await`
an operator where it may not stand. -/
def Token.startsOperand (t : Token) : Bool :=
  !t.newlineBefore && match t.kind with
    | .ident _ | .num _ | .bigint _ | .str _ => true
    | .keyword w => ["this", "null", "true", "false", "function", "class", "new", "typeof", "void",
        "delete"].contains w
    | _ => false

/-- An expression that can be assigned to directly: a name or a member. -/
def Expr.isSimpleTarget : Expr -> Bool
  | .ident _ => true
  | .member _ _ false => true
  | .index _ _ false => true
  | .privateMember _ _ false => true
  | _ => false

mutual

/-- The pattern an expression stands for on the left of `=`. -/
def Expr.toPattern (nested : Bool) : Expr -> Except SyntaxIssue Pattern
  | .ident n => .ok (.name n)
  | .member o n false => .ok (.expr (.member o n false))
  | .index o k false => .ok (.expr (.index o k false))
  | .privateMember o n false => .ok (.expr (.privateMember o n false))
  | .array items => do
    let (ps, rest) <- itemsToPatterns items
    .ok (.array ps rest)
  | .object props => do
    let (ps, rest) <- propsToPatterns props
    .ok (.object ps rest)
  | .assign "=" target value => if nested then .ok (.withDefault target value)
    else .error .invalidAssignmentTarget
  | _ => .error (if nested then .invalidDestructuringTarget else .invalidAssignmentTarget)

/-- The patterns of an array literal's items; a spread must come last. -/
def itemsToPatterns : List Item -> Except SyntaxIssue (List (Option Pattern) × Option Pattern)
  | [] => .ok ([], none)
  | [.spread e] => do
    let p <- e.toPattern true
    .ok ([], some p)
  | .spread _ :: _ => .error .invalidDestructuringTarget
  | .hole :: rest => do
    let (ps, r) <- itemsToPatterns rest
    .ok (none :: ps, r)
  | .one e :: rest => do
    let p <- e.toPattern true
    let (ps, r) <- itemsToPatterns rest
    .ok (some p :: ps, r)

/-- The patterns of an object literal's members; a spread of a name must come last. -/
def propsToPatterns : List Property -> Except SyntaxIssue (List (Key × Pattern) × Option String)
  | [] => .ok ([], none)
  | [.spread (.ident n)] => .ok ([], some n)
  | .spread _ :: _ => .error .invalidDestructuringTarget
  | .field k v :: rest => do
    let p <- v.toPattern true
    let (ps, r) <- propsToPatterns rest
    .ok ((k, p) :: ps, r)
  | _ :: _ => .error .invalidDestructuringTarget

end

/-- Lifts a check into the parser. -/
def liftCheck {α : Type} (r : Except SyntaxIssue α) : Parser α :=
  match r with
  | .ok a => pure a
  | .error e => throw e

/-- Checks a statement's declarations against those its block has seen: lexical names may not
repeat any name, and `var` names may not repeat a lexical one. -/
def checkDeclarations (inBlock : Bool) (s : Stmt) (seenLex seenVar : List String) :
    Except SyntaxIssue (List String × List String) := do
  let lex := s.lexicalNames inBlock
  let vars := s.topVarNames inBlock
  let mut seenLex := seenLex
  for n in lex do
    if seenLex.contains n || seenVar.contains n then throw (.alreadyDeclared n)
    seenLex := n :: seenLex
  for n in vars do
    if seenLex.contains n then throw (.alreadyDeclared n)
  pure (seenLex, vars ++ seenVar)

/-! ## Strict code -/

/-- Whether a token that follows an expression statement's string can go on with the
expression, so that the string is not a statement of its own. -/
def TokenKind.continuesExpression : TokenKind -> Bool
  | .punct p => !(["\x7b", "\x7d", ";", "!", "~", "++", "--"].contains p)
  | .keyword w => w == "in" || w == "instanceof"
  | .templateFull _ => true
  | .templateHead _ => true
  | _ => false

/-- Whether the statements from token `i` open with a `"use strict"` directive: the first of
the statements made of a string alone, written without escapes. -/
def opensStrict (toks : Array Token) (i : Nat) : Bool :=
  let rec go : Nat -> Nat -> Bool
    | 0, _ => false
    | fuel + 1, k =>
      match toks[k]? with
      | some ⟨.str s, start, stop, _⟩ =>
        let next := toks.getD (k + 1) ⟨.eof, stop, stop, false⟩
        let alone := match next.kind with
          | .eof => true
          | .punct ";" => true
          | .punct "\x7d" => true
          | k => next.newlineBefore && !k.continuesExpression
        if !alone then false
        else if s == "use strict" && stop - start == 12 then true
        else go fuel (if next.kind.isPunct ";" then k + 2 else k + 1)
      | _ => false
  go toks.size i

/-- Names strict code may not bind or assign. -/
def isEvalOrArguments (n : String) : Bool :=
  n == "eval" || n == "arguments"

/-- Words strict code keeps for itself. -/
def strictReservedWords : List String :=
  ["implements", "interface", "let", "package", "private", "protected", "public", "static", "yield"]

/-- What strict code refuses in a number or string token's source: a number with a leading zero,
or a string with an octal escape, `\8` or `\9`. -/
def strictLiteralIssue (src : Array Char) (t : Token) : Option SyntaxIssue :=
  let raw := (src.extract t.start t.stop).toList
  match t.kind with
  | .num _ =>
    match raw with
    | '0' :: d :: _ =>
      if !d.isDigit then none
      else if raw.all fun c => '0' <= c && c <= '7' then some .strictOctal
      else some .strictLeadingZero
    | _ => none
  | .str _ =>
    let rec scan : List Char -> Option SyntaxIssue
      | '\\' :: d :: rest =>
        if d == '8' || d == '9' then some .strictEightNine
        else if '1' <= d && d <= '7' then some .strictOctalEscape
        else if d == '0' && (rest.head?.map Char.isDigit).getD false then some .strictOctalEscape
        else scan rest
      | _ :: rest => scan rest
      | [] => none
    scan raw
  | _ => none

/-- Fails on a literal token strict code does not allow. -/
def checkStrictLiteral (t : Token) : Parser Unit := do
  let c <- read
  if c.strict then
    match strictLiteralIssue c.src t with
    | some issue => throw issue
    | none => pure ()

/-- Fails on a name strict code may not bind or assign. -/
def checkStrictBinding (n : String) : Parser Unit := do
  if (← read).strict then
    if isEvalOrArguments n then throw .strictEvalArguments
    if strictReservedWords.contains n then throw .strictReserved

/-- Whether a parameter is a plain name. -/
def Pattern.isName : Pattern -> Bool
  | .name _ => true
  | _ => false

/-- The rules a finished function's parameters and name keep: no name twice unless
`allowDuplicates`, and in strict code no `eval`, `arguments` or reserved word. -/
def checkParameters (names : List String) (fname : Option String) (strict allowDuplicates : Bool) :
    Parser Unit := do
  if !allowDuplicates && names.eraseDups.length != names.length then throw .duplicateParameter
  if strict then
    if names.any isEvalOrArguments then throw .strictEvalArguments
    if names.any strictReservedWords.contains then throw .strictReserved
    match fname with
    | some n =>
      if isEvalOrArguments n then throw .strictEvalArguments
      if strictReservedWords.contains n then throw .strictReserved
    | none => pure ()

/-- The kind of accessor a function is, which fixes how many parameters it takes. -/
inductive AccessorKind where
  | getter
  | setter

/-- Fails when an accessor's parameters do not fit it: a getter takes none, a setter one that is
not a rest parameter. -/
def checkAccessorArity (kind : Option AccessorKind) (params : List Pattern) (rest : Option Pattern) :
    Parser Unit := do
  match kind with
  | some .getter => if !params.isEmpty || rest.isSome then throw .getterArity
  | some .setter =>
    if params.length + (if rest.isSome then 1 else 0) != 1 then throw .setterArity
    if rest.isSome then throw .setterRest
  | none => pure ()

/-- `new.target`, at `new`. -/
def newTargetExpr : Parser Expr := do
  bump
  bump
  if (← peekTok).kind.isName "target" then
    bump
    if !(<- read).newTarget then throw .newTargetOutside
    pure .newTarget
  else unexpected

/-- The raw text of a template piece: what stands between its delimiters, with each line break
written as a line feed. -/
def rawText (t : Token) : Parser String := do
  let closing := match t.kind with
    | .templateHead _ => 2
    | .templateMiddle _ => 2
    | _ => 1
  let text <- sourceText (t.start + 1) (t.stop - closing)
  pure ((text.replace "\r\n" "\n").replace "\r" "\n")

/-- The context of a function body: no loops, labels or `for` head around it. -/
def ParseContext.forFunction (c : ParseContext) (isArrow isMethod derived : Bool) : ParseContext :=
  { c with inFunction := true, inLoop := false, inSwitch := false, labels := [], noIn := false,
           inGenerator := false, inAsync := false,
           superProperty := if isArrow then c.superProperty else isMethod,
           superCall := if isArrow then c.superCall else derived,
           newTarget := if isArrow then c.newTarget else true }

mutual

/-- A comma expression. -/
def expression : Nat -> Parser Expr
  | 0 => throw .tooDeep
  | fuel + 1 => do
    let e <- assignment fuel
    expressionRest fuel e

/-- The rest of a comma expression after its first part. -/
def expressionRest : Nat -> Expr -> Parser Expr
  | 0, _ => throw .tooDeep
  | fuel + 1, e => do
    if (← atPunct ",") then
      bump
      let e2 <- assignment fuel
      expressionRest fuel (.seq e e2)
    else pure e

/-- An assignment expression: an arrow function, an assignment, or a conditional. -/
def assignment : Nat -> Parser Expr
  | 0 => throw .tooDeep
  | fuel + 1 => do
    if (<- read).inGenerator && (<- peekTok).kind.isName "yield" then yieldExpression fuel
    else if (← asyncArrowAhead) then
      let start := (<- peekTok).start
      bump
      arrowFunction fuel true start
    else if (<- arrowAhead) then arrowFunction fuel false (<- peekTok).start
    else
      let lhs <- conditional fuel
      let t <- peekTok
      match t.kind with
      | .punct op =>
        if assignOps.contains op then
          let target <- if op == "=" then liftCheck (lhs.toPattern false)
            else if lhs.isSimpleTarget then pure (.expr lhs)
            else throw .invalidAssignmentTarget
          let target := match target with
            | .expr (.ident n) => .name n
            | p => p
          for n in target.names do checkStrictBinding n
          bump
          let rhs <- assignment fuel
          pure (.assign op target rhs)
        else pure lhs
      | _ => pure lhs

/-- A `yield` expression, at `yield`: `yield*` and its operand, or `yield` with an operand
unless the line or the expression ends right after it. -/
def yieldExpression : Nat -> Parser Expr
  | 0 => throw .tooDeep
  | fuel + 1 => do
    bump
    let t <- peekTok
    if !t.newlineBefore && t.kind.isPunct "*" then
      bump
      pure (.yieldExpr (some (<- assignment fuel)) true)
    else if t.newlineBefore || t.kind.endsOperand then pure (.yieldExpr none false)
    else pure (.yieldExpr (some (<- assignment fuel)) false)

/-- An arrow function, at its name or opening parenthesis. -/
def arrowFunction : Nat -> Bool -> Nat -> Parser Expr
  | 0, _, _ => throw .tooDeep
  | fuel + 1, async, start => do
    let (params, rest) <- match (<- peekTok).kind with
      | .ident n => do bump; pure ([Pattern.name n], none)
      | _ => do bump; parameters fuel []
    let arrowTok <- peekTok
    if arrowTok.newlineBefore then unexpected
    expectPunct "=>"
    let ctx <- read
    let names := params.flatMap Pattern.names ++ (rest.map Pattern.names).getD []
    let simple := rest.isNone && params.all Pattern.isName
    if (← atPunct "\x7b") then
      let (body, strict) <- withReader
        (fun c => { c.forFunction true false false with inAsync := async })
        (functionBody fuel names simple)
      checkParameters names none strict false
      let src <- sourceText start (<- lastStop)
      pure (.func (.mk none params rest body none true false src strict false async))
    else
      let body <- withReader
        (fun c => { c.forFunction true false false with noIn := ctx.noIn, inAsync := async })
        (assignment fuel)
      checkParameters names none ctx.strict false
      let src <- sourceText start (<- lastStop)
      pure (.func (.mk none params rest [] (some body) true false src ctx.strict false async))

/-- A conditional expression. -/
def conditional : Nat -> Parser Expr
  | 0 => throw .tooDeep
  | fuel + 1 => do
    let test <- binary fuel 0 ""
    if (← atPunct "?") then
      bump
      let yes <- withReader (fun c => { c with noIn := false }) (assignment fuel)
      expectPunct ":"
      let no <- assignment fuel
      pure (.cond test yes no)
    else pure test

/-- Binary operators binding tighter than `minPrec`. -/
def binary : Nat -> Nat -> String -> Parser Expr
  | 0, _, _ => throw .tooDeep
  | fuel + 1, minPrec, within => do
    let first <- peekTok
    let lhs <- unary fuel
    -- only an operand written with its unary operator bare may not be raised to a power
    let bare := match first.kind with
      | .punct "(" => false
      | _ => true
    match lhs, (<- peekTok).kind with
    | .unary _ _, .punct "**" => if bare then throw .unaryBeforeExponent else pure ()
    | _, _ => pure ()
    binaryRest fuel minPrec lhs within ""

/-- Continues a binary expression after its left operand. -/
def binaryRest : Nat -> Nat -> Expr -> String -> String -> Parser Expr
  | 0, _, _, _, _ => throw .tooDeep
  | fuel + 1, minPrec, lhs, within, last => do
    let t <- peekTok
    match binaryPrecedence t.kind (<- read).noIn with
    | some prec =>
      if prec > minPrec then
        let op := t.kind.operatorText
        let logical := op == "&&" || op == "||"
        if (logical && within == "??") || (op == "??" && (last == "&&" || last == "||")) then
          unexpected
        bump
        -- `**` groups to the right, the others to the left
        let rhs <- if op == "**" then binary fuel (prec - 1) op else binary fuel prec op
        let e := if logical || op == "??" then Expr.logical op lhs rhs
          else Expr.binary op lhs rhs
        binaryRest fuel minPrec e within op
      else pure lhs
    | none => pure lhs

/-- A unary expression. -/
def unary : Nat -> Parser Expr
  | 0 => throw .tooDeep
  | fuel + 1 => do
    let t <- peekTok
    match t.kind with
    | .punct p =>
      if p == "!" || p == "~" || p == "+" || p == "-" then
        bump
        let arg <- unary fuel
        pure (.unary p arg)
      else if p == "++" || p == "--" then
        bump
        let arg <- unary fuel
        if !arg.isSimpleTarget then throw .invalidPrefixTarget
        if let .ident n := arg then checkStrictBinding n
        pure (.update p true arg)
      else updateExpression fuel
    | .keyword w =>
      if w == "typeof" || w == "void" || w == "delete" then
        bump
        let arg <- unary fuel
        if w == "delete" then
          match arg with
          | .privateMember .. => throw .deletePrivate
          | .ident _ => if (<- read).strict then throw .strictDelete
          | _ => pure ()
        pure (.unary w arg)
      else updateExpression fuel
    | .ident "await" =>
      if (← read).inAsync then
        bump
        pure (.awaitExpr (<- unary fuel))
      else if (<- peekSecond).startsOperand then throw .awaitOutsideAsync
      else updateExpression fuel
    | _ => updateExpression fuel

/-- A postfix update, or a call or member expression. -/
def updateExpression : Nat -> Parser Expr
  | 0 => throw .tooDeep
  | fuel + 1 => do
    let e <- leftHandSide fuel
    let t <- peekTok
    if !t.newlineBefore && (t.kind.isPunct "++" || t.kind.isPunct "--") then
      if !e.isSimpleTarget then throw .invalidPostfixTarget
      if let .ident n := e then checkStrictBinding n
      bump
      pure (.update t.kind.operatorText false e)
    else pure e

/-- A call or member expression, with `new`. -/
def leftHandSide : Nat -> Parser Expr
  | 0 => throw .tooDeep
  | fuel + 1 => do
    let base ← if (← peekTok).kind.isKeyword "new" then
        if (<- peekSecond).kind.isPunct "." then newTargetExpr else newExpression fuel
      else primary fuel
    memberRest fuel base true false

/-- A `new` expression, at `new`. -/
def newExpression : Nat -> Parser Expr
  | 0 => throw .tooDeep
  | fuel + 1 => do
    let place <- siteOf (<- peekTok)
    bump
    let callee <- if (<- peekTok).kind.isKeyword "new" then newExpression fuel
      else do
        let p <- primary fuel
        memberRest fuel p false false
    if (← atPunct "(") then
      bump
      let args <- arguments fuel []
      pure (.new callee args place)
    else pure (.new callee [] place)

/-- Member accesses and calls after an expression; `optional` records a `?.` seen so far, and
the chain is wrapped when it ends. -/
def memberRest : Nat -> Expr -> Bool -> Bool -> Parser Expr
  | 0, _, _, _ => throw .tooDeep
  | fuel + 1, e, allowCall, optional => do
    let t <- peekTok
    let finish := if optional then Expr.chain e else e
    match t.kind with
    | .punct "." =>
      bump
      match (<- peekTok).kind with
      | .privateName n => bump; memberRest fuel (.privateMember e n false) allowCall optional
      | k => match k.propertyName? with
        | some n => bump; memberRest fuel (.member e n false) allowCall optional
        | none => unexpected
    | .punct "?." =>
      if !allowCall then pure finish
      else
        bump
        let t2 <- peekTok
        if t2.kind.isPunct "(" then
          let place <- siteOf t2
          bump
          let args <- arguments fuel []
          memberRest fuel (.call e args true place) allowCall true
        else if t2.kind.isPunct "[" then
          bump
          let k <- withReader (fun c => { c with noIn := false }) (expression fuel)
          expectPunct "]"
          memberRest fuel (.index e k true) allowCall true
        else match t2.kind with
          | .privateName n => bump; memberRest fuel (.privateMember e n true) allowCall true
          | k => match k.propertyName? with
            | some n => bump; memberRest fuel (.member e n true) allowCall true
            | none => unexpected
    | .punct "[" =>
      bump
      let k <- withReader (fun c => { c with noIn := false }) (expression fuel)
      expectPunct "]"
      memberRest fuel (.index e k false) allowCall optional
    | .punct "(" =>
      if allowCall then
        let place <- callSite
        bump
        let args <- arguments fuel []
        memberRest fuel (.call e args false place) allowCall optional
      else pure finish
    | .templateFull s =>
      if optional then throw .taggedOnChain
      let place <- siteOf t
      bump
      let strings := Expr.templateStrings [s] [<- rawText t]
      memberRest fuel (.call e [.one strings] false place) allowCall optional
    | .templateHead s =>
      if optional then throw .taggedOnChain
      let place <- siteOf t
      bump
      let (pieces, raws, parts) <- templateRest fuel [s] [<- rawText t] []
      let strings := Expr.templateStrings pieces raws
      memberRest fuel (.call e (.one strings :: parts.map .one) false place) allowCall optional
    | _ => pure finish

/-- Arguments after `(` up to and with `)`. -/
def arguments : Nat -> List Item -> Parser (List Item)
  | 0, _ => throw .tooDeep
  | fuel + 1, acc => do
    if (<- atPunct ")") then bump; pure acc.reverse
    else
      let item ← withReader (fun c => { c with noIn := false }) do
        if (← atPunct "...") then
          bump
          pure (Item.spread (<- assignment fuel))
        else pure (Item.one (<- assignment fuel))
      if (← atPunct ",") then
        bump
        arguments fuel (item :: acc)
      else if (← atPunct ")") then
        bump
        pure (item :: acc).reverse
      else throw .missingParenAfterArgs

/-- A primary expression. -/
def primary : Nat -> Parser Expr
  | 0 => throw .tooDeep
  | fuel + 1 => do
    let t <- peekTok
    match t.kind with
    | .ident n =>
      let second <- peekSecond
      if n == "async" && second.kind.isKeyword "function" && !second.newlineBefore then
        bump
        bump
        if (<- atPunct "*") then unexpected
        let name <- match (<- peekTok).kind with
          | .ident n => do bump; pure (some n)
          | _ => pure none
        let f <- functionRest fuel name t.start false false none false true
        return .func f
      if (<- read).strict && strictReservedWords.contains n then throw .strictReserved
      bump; pure (.ident n)
    | .num v => checkStrictLiteral t; bump; pure (.num v)
    | .bigint v => bump; pure (.bigint v)
    | .str s => checkStrictLiteral t; bump; pure (.str s)
    | .templateFull s => bump; pure (.template [s] [])
    | .templateHead s =>
      bump
      let (pieces, _, parts) <- templateRest fuel [s] [<- rawText t] []
      pure (.template pieces parts)
    | .privateName n =>
      if (<- peekSecond).kind.isKeyword "in" then bump; pure (.privateName n) else unexpected
    | .pattern body flags =>
      match Regex.Flags.read? flags with
      | none => throw (.badPattern "Invalid regular expression flags")
      | some fs =>
        match Regex.Program.read body fs with
        | .error why => throw (.badPattern (Regex.invalidMessage body flags why))
        | .ok _ => bump; pure (.pattern body flags)
    | .keyword "this" => bump; pure .this
    | .keyword "null" => bump; pure .null
    | .keyword "true" => bump; pure (.bool true)
    | .keyword "false" => bump; pure (.bool false)
    | .keyword "function" =>
      let start := t.start
      bump
      let generator <- atPunct "*"
      if generator then bump
      let name <- match (<- peekTok).kind with
        | .ident n => do bump; pure (some n)
        | _ => pure none
      let f <- functionRest fuel name start false false none generator false
      pure (.func f)
    | .keyword "class" => pure (.classExpr (<- classDef fuel))
    | .keyword "super" =>
      bump
      let ctx <- read
      if (← atPunct "(") then
        if !ctx.superCall then throw .unexpectedSuper
        bump
        let args <- arguments fuel []
        pure (.superCall args)
      else if (← atPunct ".") then
        if !ctx.superProperty then throw .unexpectedSuper
        bump
        match (<- peekTok).kind.propertyName? with
        | some n => bump; pure (.superMember n)
        | none => unexpected
      else throw .unexpectedSuper
    | .punct "(" =>
      bump
      let e <- withReader (fun c => { c with noIn := false }) (expression fuel)
      expectPunct ")"
      pure e
    | .punct "[" =>
      bump
      let items <- withReader (fun c => { c with noIn := false }) (arrayItems fuel [])
      pure (.array items)
    | .punct "\x7b" =>
      bump
      let props <- withReader (fun c => { c with noIn := false }) (objectMembers fuel [] false)
      pure (.object props)
    | .keyword "import" => throw .importOutsideModule
    | _ => unexpected

/-- The rest of a template literal after a substitution's start: the cooked and raw texts of its
pieces and the substitutions. -/
def templateRest : Nat -> List String -> List String -> List Expr ->
    Parser (List String × List String × List Expr)
  | 0, _, _, _ => throw .tooDeep
  | fuel + 1, pieces, raws, parts => do
    let e <- withReader (fun c => { c with noIn := false }) (expression fuel)
    let t <- peekTok
    match t.kind with
    | .templateMiddle s =>
      bump
      templateRest fuel (s :: pieces) ((<- rawText t) :: raws) (e :: parts)
    | .templateTail s =>
      bump
      pure ((s :: pieces).reverse, ((<- rawText t) :: raws).reverse, (e :: parts).reverse)
    | _ => unexpected

/-- The items of an array literal after `[` up to and with `]`. -/
def arrayItems : Nat -> List Item -> Parser (List Item)
  | 0, _ => throw .tooDeep
  | fuel + 1, acc => do
    if (<- atPunct "]") then bump; pure acc.reverse
    else if (<- atPunct ",") then bump; arrayItems fuel (.hole :: acc)
    else
      let item <- if (<- atPunct "...") then do bump; pure (Item.spread (<- assignment fuel))
        else pure (Item.one (<- assignment fuel))
      if (<- atPunct ",") then bump; arrayItems fuel (item :: acc)
      else if (<- atPunct "]") then bump; pure (item :: acc).reverse
      else unexpected

/-- The members of an object literal after `{` up to and with `}`. -/
def objectMembers : Nat -> List Property -> Bool -> Parser (List Property)
  | 0, _, _ => throw .tooDeep
  | fuel + 1, acc, seenProto => do
    if (<- atPunct "\x7d") then bump; pure acc.reverse
    else
      -- `__proto__: value` sets the prototype, and only once
      let t <- peekTok
      let isProto := (t.kind.isName "__proto__" || match t.kind with
          | .str "__proto__" => true
          | _ => false) && (<- peekSecond).kind.isPunct ":"
      if isProto && seenProto then throw .duplicateProto
      let p <- objectMember fuel
      if (<- atPunct ",") then bump; objectMembers fuel (p :: acc) (seenProto || isProto)
      else if (<- atPunct "\x7d") then bump; pure (p :: acc).reverse
      else unexpected

/-- One member of an object literal. -/
def objectMember : Nat -> Parser Property
  | 0 => throw .tooDeep
  | fuel + 1 => do
    let t <- peekTok
    if t.kind.isPunct "..." then
      bump
      pure (.spread (<- assignment fuel))
    else
      let second <- peekSecond
      let accessor := (t.kind.isName "get" || t.kind.isName "set") &&
        !(second.kind.isPunct "(" || second.kind.isPunct ":" || second.kind.isPunct "," ||
          second.kind.isPunct "\x7d" || second.kind.isPunct "=")
      if accessor then
        bump
        let keyStart := (<- peekTok).start
        let key <- propertyKey fuel
        let kind := if t.kind.isName "get" then AccessorKind.getter else .setter
        let f <- functionRest fuel (key.nameText?.map (fun n => (if t.kind.isName "get" then "get " else "set ") ++ n)) t.start false true (some kind) false false
        let _ := keyStart
        pure (if t.kind.isName "get" then .getter key f else .setter key f)
      else if t.kind.isName "async" && !second.newlineBefore &&
          !(second.kind.isPunct "(" || second.kind.isPunct ":" || second.kind.isPunct "," ||
            second.kind.isPunct "\x7d" || second.kind.isPunct "=") then
        bump
        if (<- atPunct "*") then unexpected
        let key <- propertyKey fuel
        let f <- functionRest fuel key.nameText? t.start false true none false true
        pure (.field key (.func f))
      else if t.kind.isPunct "*" then
        bump
        let key <- propertyKey fuel
        let f <- functionRest fuel key.nameText? t.start false true none true false
        pure (.field key (.func f))
      else
        let key <- propertyKey fuel
        let t2 <- peekTok
        if t2.kind.isPunct ":" then
          bump
          pure (.field key (<- assignment fuel))
        else if t2.kind.isPunct "(" then
          let f <- functionRest fuel key.nameText? t.start false true none false false
          pure (.field key (.func f))
        else match t.kind with
          | .ident n =>
            if t2.kind.isPunct "=" then throw .invalidShorthandInitializer
            else if t2.kind.isPunct "," || t2.kind.isPunct "\x7d" then pure (.field key (.ident n))
            else unexpected
          | _ => unexpected

/-- A property key: a name, a string, a number or `[expression]`. -/
def propertyKey : Nat -> Parser Key
  | 0 => throw .tooDeep
  | fuel + 1 => do
    let t <- peekTok
    match t.kind with
    | .str s => checkStrictLiteral t; bump; pure (.named s)
    | .num v => checkStrictLiteral t; bump; pure (.named (numberText v))
    | .bigint v => bump; pure (.named (toString v))
    | .punct "[" =>
      bump
      let e <- withReader (fun c => { c with noIn := false }) (assignment fuel)
      expectPunct "]"
      pure (.computed e)
    | k => match k.propertyName? with
      | some n => bump; pure (.named n)
      | none => unexpected

/-- A function's parameters and body, at `(`; `start` is where its text begins. -/
def functionRest : Nat -> Option String -> Nat -> Bool -> Bool -> Option AccessorKind -> Bool -> Bool ->
    Parser Func
  | 0, _, _, _, _, _, _, _ => throw .tooDeep
  | fuel + 1, name, start, derived, isMethod, accessor, generator, async => do
    expectPunct "("
    let (params, rest) <- parameters fuel []
    checkAccessorArity accessor params rest
    let names := params.flatMap Pattern.names ++ (rest.map Pattern.names).getD []
    let simple := rest.isNone && params.all Pattern.isName
    let (body, strict) <- withReader
      (fun c => { c.forFunction false isMethod derived with inGenerator := generator, inAsync := async })
      (functionBody fuel names simple)
    checkParameters names name strict (!strict && simple && !isMethod && !generator && !async)
    let src <- sourceText start (<- lastStop)
    pure (.mk name params rest body none false isMethod src strict generator async)

/-- Parameters after `(` up to and with `)`: the plain ones and the rest parameter. -/
def parameters : Nat -> List Pattern -> Parser (List Pattern × Option Pattern)
  | 0, _ => throw .tooDeep
  | fuel + 1, acc => do
    if (<- atPunct ")") then bump; pure (acc.reverse, none)
    else if (← atPunct "...") then
      bump
      let r <- bindingTarget fuel
      if !(<- atPunct ")") then throw .restNotLast
      bump
      pure (acc.reverse, some r)
    else
      let p <- bindingElement fuel
      if (<- atPunct ",") then bump; parameters fuel (p :: acc)
      else if (<- atPunct ")") then bump; pure ((p :: acc).reverse, none)
      else unexpected

/-- A function body `{ … }`; its lexical names may not repeat `params`, and `simple` tells
whether the parameters are plain names, as a strict body needs. -/
def functionBody : Nat -> List String -> Bool -> Parser (List Stmt × Bool)
  | 0, _, _ => throw .tooDeep
  | fuel + 1, params, simple => do
    expectPunct "\x7b"
    let ctx <- read
    let directive := opensStrict ctx.toks (<- get)
    if directive && !simple then throw .strictNonSimple
    let strict := ctx.strict || directive
    let body <- withReader (fun c => { c with strict := strict }) (statementList fuel false [] params [])
    expectPunct "\x7d"
    pure (body, strict)

/-- A binding name or destructuring pattern. -/
def bindingTarget : Nat -> Parser Pattern
  | 0 => throw .tooDeep
  | fuel + 1 => do
    let t <- peekTok
    match t.kind with
    | .ident n => checkStrictBinding n; bump; pure (.name n)
    | .punct "[" => bump; arrayPattern fuel []
    | .punct "\x7b" => bump; objectPattern fuel []
    | _ => unexpected

/-- A binding target with an optional default. -/
def bindingElement : Nat -> Parser Pattern
  | 0 => throw .tooDeep
  | fuel + 1 => do
    let p <- bindingTarget fuel
    if (← atPunct "=") then
      bump
      let d <- withReader (fun c => { c with noIn := false }) (assignment fuel)
      pure (.withDefault p d)
    else pure p

/-- An array pattern's elements after `[` up to and with `]`. -/
def arrayPattern : Nat -> List (Option Pattern) -> Parser Pattern
  | 0, _ => throw .tooDeep
  | fuel + 1, acc => do
    if (<- atPunct "]") then bump; pure (.array acc.reverse none)
    else if (<- atPunct ",") then bump; arrayPattern fuel (none :: acc)
    else if (← atPunct "...") then
      bump
      let r <- bindingTarget fuel
      expectPunct "]"
      pure (.array acc.reverse (some r))
    else
      let p <- bindingElement fuel
      if (<- atPunct ",") then bump; arrayPattern fuel (some p :: acc)
      else if (<- atPunct "]") then bump; pure (.array (some p :: acc).reverse none)
      else unexpected

/-- An object pattern's members after `{` up to and with `}`. -/
def objectPattern : Nat -> List (Key × Pattern) -> Parser Pattern
  | 0, _ => throw .tooDeep
  | fuel + 1, acc => do
    if (<- atPunct "\x7d") then bump; pure (.object acc.reverse none)
    else if (← atPunct "...") then
      bump
      match (<- peekTok).kind with
      | .ident n =>
        bump
        expectPunct "\x7d"
        pure (.object acc.reverse (some n))
      | _ => unexpected
    else
      let t <- peekTok
      let key <- propertyKey fuel
      let p <- if (<- atPunct ":") then do bump; bindingElement fuel
        else match t.kind with
          | .ident n =>
            checkStrictBinding n
            if (← atPunct "=") then do
              bump
              let d <- withReader (fun c => { c with noIn := false }) (assignment fuel)
              pure (Pattern.withDefault (.name n) d)
            else pure (Pattern.name n)
          | _ => unexpected
      if (<- atPunct ",") then bump; objectPattern fuel ((key, p) :: acc)
      else if (<- atPunct "\x7d") then bump; pure (.object ((key, p) :: acc).reverse none)
      else unexpected

/-- A class, at `class`. -/
def classDef : Nat -> Parser ClassDef
  | 0 => throw .tooDeep
  | fuel + 1 => withReader (fun c => { c with strict := true }) do
    let start := (<- peekTok).start
    bump
    let name <- match (<- peekTok).kind with
      | .ident n => do checkStrictBinding n; bump; pure (some n)
      | _ => pure none
    let parent ← if (← peekTok).kind.isKeyword "extends" then do
        bump
        pure (some (<- leftHandSide fuel))
      else pure none
    expectPunct "\x7b"
    let (ctor, members) <- classMembers fuel parent.isSome none []
    expectPunct "\x7d"
    let src <- sourceText start (<- lastStop)
    pure (.mk name parent ctor members src)

/-- A class body's members up to `}`: the constructor, if any, and the others. -/
def classMembers : Nat -> Bool -> Option Func -> List ClassMember ->
    Parser (Option Func × List ClassMember)
  | 0, _, _, _ => throw .tooDeep
  | fuel + 1, derived, ctor, acc => do
    let t <- peekTok
    if t.kind.isPunct "\x7d" then pure (ctor, acc.reverse)
    else if t.kind.isPunct ";" then bump; classMembers fuel derived ctor acc
    else
      let second <- peekSecond
      let isStatic := t.kind.isName "static" && !(second.kind.isPunct "(" || second.kind.isPunct "=")
      if isStatic then bump
      if isStatic && (← atPunct "\x7b") then
        let start := (<- peekTok).start
        let body <- withReader (fun c => { c.forFunction false true false with inFunction := false })
          (block fuel [])
        let src <- sourceText start (<- lastStop)
        let f := Func.mk none [] none body none false true src true false false
        return (<- classMembers fuel derived ctor (.staticBlock f :: acc))
      let t <- peekTok
      let second <- peekSecond
      let async := t.kind.isName "async" && !second.newlineBefore &&
        !(second.kind.isPunct "(" || second.kind.isPunct "=" || second.kind.isPunct ";" ||
          second.kind.isPunct "\x7d")
      if async then bump
      let generator <- atPunct "*"
      if generator then
        if async then unexpected
        bump
      let t <- peekTok
      let second <- peekSecond
      let accessor := !generator && !async && (t.kind.isName "get" || t.kind.isName "set") &&
        !(second.kind.isPunct "(" || second.kind.isPunct "=" || second.kind.isPunct ";" ||
          second.kind.isPunct "\x7d")
      if accessor then bump
      let key <- match (<- peekTok).kind with
        | .privateName n => do bump; pure (Key.privateName n)
        | _ => propertyKey fuel
      let isCtor := !isStatic && key.nameText? == some "constructor"
      if (← atPunct "(") then
        if isCtor then
          if accessor then throw .accessorConstructor
          if generator then throw .generatorConstructor
          if async then throw .asyncConstructor
          if ctor.isSome then throw .duplicateConstructor
          let f <- functionRest fuel none t.start derived true none false false
          classMembers fuel derived (some f) acc
        else
          let fname := key.nameText?.map fun n =>
            if accessor then (if t.kind.isName "get" then "get " else "set ") ++ n else n
          if isStatic && key.nameText? == some "prototype" then throw .staticPrototype
          let kind := if !accessor then none
            else some (if t.kind.isName "get" then AccessorKind.getter else .setter)
          let f <- functionRest fuel fname t.start false true kind generator async
          let m := if accessor then
              (if t.kind.isName "get" then ClassMember.getter isStatic key f
               else ClassMember.setter isStatic key f)
            else ClassMember.method isStatic key f
          classMembers fuel derived ctor (m :: acc)
      else if accessor || generator || async then unexpected
      else
        if isStatic && key.nameText? == some "prototype" then throw .staticPrototype
        if key.nameText? == some "constructor" then throw .constructorField
        let value ← if (← atPunct "=") then do
            bump
            let v <- withReader (fun c => c.forFunction true true false) (assignment fuel)
            pure (some v)
          else pure none
        endStatement
        classMembers fuel derived ctor (.field isStatic key value :: acc)

/-- Statements up to `}` or the end, checking redeclarations against `seenLex` and
`seenVar`. -/
def statementList : Nat -> Bool -> List String -> List String -> List Stmt -> Parser (List Stmt)
  | 0, _, _, _, _ => throw .tooDeep
  | fuel + 1, inBlock, seenLex, seenVar, acc => do
    let t <- peekTok
    match t.kind with
    | .eof => pure acc.reverse
    | .punct "\x7d" => pure acc.reverse
    | _ =>
      let s <- statement fuel false
      let (seenLex, seenVar) <- liftCheck (checkDeclarations inBlock s seenLex seenVar)
      statementList fuel inBlock seenLex seenVar (s :: acc)

/-- A block `{ … }`, at `{`. -/
def block : Nat -> List String -> Parser (List Stmt)
  | 0, _ => throw .tooDeep
  | fuel + 1, seenLex => do
    expectPunct "\x7b"
    let body <- statementList fuel true seenLex [] []
    expectPunct "\x7d"
    pure body

/-- One statement; `single` marks a place where only a statement, not a declaration, may
stand (the body of `if` or of a loop). -/
def statement : Nat -> Bool -> Parser Stmt
  | 0, _ => throw .tooDeep
  | fuel + 1, single => do
    let t <- peekTok
    let second <- peekSecond
    let ctx <- read
    match t.kind with
    | .punct "\x7b" => pure (.block (<- block fuel []))
    | .punct ";" => bump; pure .empty
    | .keyword "var" =>
      bump
      let s <- declarationList fuel .var []
      endStatement
      pure s
    | .keyword "const" =>
      if single then throw .lexicalInSingleStatement
      bump
      let s <- declarationList fuel .constDecl []
      endStatement
      pure s
    | .ident "async" =>
      if second.kind.isKeyword "function" && !second.newlineBefore then
        if single then throw (if ctx.strict then .strictFunction else .sloppyFunction)
        bump
        bump
        if (<- atPunct "*") then unexpected
        match (<- peekTok).kind with
        | .ident n =>
          bump
          pure (.funcDecl (<- functionRest fuel (some n) t.start false false none false true))
        | .punct "(" => throw .missingFunctionName
        | _ => unexpected
      else expressionStatement fuel
    | .ident "let" =>
      let isDecl := match second.kind with
        | .ident _ => true
        | .punct "[" => true
        | .punct "\x7b" => true
        | _ => false
      if isDecl then
        if single then throw .lexicalInSingleStatement
        bump
        let s <- declarationList fuel .letDecl []
        endStatement
        pure s
      else expressionStatement fuel
    | .keyword "function" =>
      if single then throw (if ctx.strict then .strictFunction else .sloppyFunction)
      let start := t.start
      bump
      let generator <- atPunct "*"
      if generator then bump
      match (<- peekTok).kind with
      | .ident n =>
        bump
        pure (.funcDecl (<- functionRest fuel (some n) start false false none generator false))
      | .punct "(" => throw .missingFunctionName
      | _ => unexpected
    | .keyword "class" =>
      if single then unexpected
      let c <- classDef fuel
      if c.name.isNone then throw (TokenKind.punct "\x7b").issue
      pure (.classDecl c)
    | .keyword "if" =>
      bump
      expectPunct "("
      let test <- expression fuel
      expectPunct ")"
      let yes <- ifBody fuel
      if (← peekTok).kind.isKeyword "else" then
        bump
        let no <- ifBody fuel
        pure (.ifThen test yes (some no))
      else pure (.ifThen test yes none)
    | .keyword "for" => bump; forStatement fuel
    | .keyword "while" =>
      bump
      expectPunct "("
      let test <- expression fuel
      expectPunct ")"
      let body <- withReader (fun c => { c with inLoop := true }) (statement fuel true)
      pure (.whileLoop test body)
    | .keyword "do" =>
      bump
      let body <- withReader (fun c => { c with inLoop := true }) (statement fuel true)
      if !(<- peekTok).kind.isKeyword "while" then unexpected
      bump
      expectPunct "("
      let test <- expression fuel
      expectPunct ")"
      let _ <- eatPunct ";"
      pure (.doWhile body test)
    | .keyword "return" =>
      if !ctx.inFunction then throw .illegalReturn
      bump
      let n <- peekTok
      let ends := n.kind.isPunct ";" || n.kind.isPunct "\x7d" || n.newlineBefore ||
        (match n.kind with
          | .eof => true
          | _ => false)
      if ends then
        endStatement
        pure (.ret none)
      else
        let e <- expression fuel
        endStatement
        pure (.ret (some e))
    | .keyword "break" =>
      bump
      let n <- peekTok
      match n.kind with
      | .ident l =>
        if n.newlineBefore then
          if !(ctx.inLoop || ctx.inSwitch) then throw .illegalBreak
          endStatement
          pure (.breakStmt none)
        else
          if !(ctx.labels.any (·.1 == l)) then throw (.undefinedLabel l)
          bump
          endStatement
          pure (.breakStmt (some l))
      | _ =>
        if !(ctx.inLoop || ctx.inSwitch) then throw .illegalBreak
        endStatement
        pure (.breakStmt none)
    | .keyword "continue" =>
      bump
      if !ctx.inLoop then throw .illegalContinue
      let n <- peekTok
      match n.kind with
      | .ident l =>
        if n.newlineBefore then
          endStatement
          pure (.continueStmt none)
        else
          if !(ctx.labels.any (fun (m, isLoop) => m == l && isLoop)) then
            throw (if ctx.labels.any (·.1 == l) then .continueNonLoop l else .undefinedLabel l)
          bump
          endStatement
          pure (.continueStmt (some l))
      | _ =>
        endStatement
        pure (.continueStmt none)
    | .keyword "throw" =>
      bump
      if (<- peekTok).newlineBefore then throw .newlineAfterThrow
      let e <- expression fuel
      endStatement
      pure (.throwStmt e)
    | .keyword "try" =>
      bump
      let body <- block fuel []
      let (param, handler) ← if (← peekTok).kind.isKeyword "catch" then do
          bump
          if (← atPunct "(") then
            bump
            let p <- bindingTarget fuel
            expectPunct ")"
            let h <- block fuel p.names
            pure (some p, some h)
          else
            let h <- block fuel []
            pure (none, some h)
        else pure (none, none)
      let finalizer ← if (← peekTok).kind.isKeyword "finally" then do
          bump
          pure (some (<- block fuel []))
        else pure none
      if handler.isNone && finalizer.isNone then throw .missingCatchOrFinally
      pure (.tryStmt body param handler finalizer)
    | .keyword "switch" =>
      bump
      expectPunct "("
      let subject <- expression fuel
      expectPunct ")"
      expectPunct "\x7b"
      let cases <- withReader (fun c => { c with inSwitch := true }) (switchCases fuel false [])
      pure (.switchStmt subject cases)
    | .keyword "with" => if ctx.strict then throw .strictWith else unexpected
    | .keyword "debugger" =>
      bump
      endStatement
      pure .empty
    | .keyword "import" =>
      if second.kind.isPunct "(" || second.kind.isPunct "." then expressionStatement fuel
      else throw .importOutsideModule
    | .ident l =>
      if second.kind.isPunct ":" then
        if ctx.labels.any (·.1 == l) then throw (.labelRedeclared l)
        bump
        bump
        let n <- peekTok
        let isLoop := n.kind.isKeyword "for" || n.kind.isKeyword "while" || n.kind.isKeyword "do"
        let functionHere := n.kind.isKeyword "function" && !ctx.strict && !single
        let body <- withReader (fun c => { c with labels := (l, isLoop) :: c.labels })
          (statement fuel !functionHere)
        pure (.labeled l body)
      else expressionStatement fuel
    | _ => expressionStatement fuel

/-- The body of `if` or `else`: a statement, or in sloppy code a function declaration, which
stands in a block of its own. -/
def ifBody : Nat -> Parser Stmt
  | 0 => throw .tooDeep
  | fuel + 1 => do
    if !(← read).strict && (← peekTok).kind.isKeyword "function" then
      pure (.block [<- statement fuel false])
    else statement fuel true

/-- An expression statement. -/
def expressionStatement : Nat -> Parser Stmt
  | 0 => throw .tooDeep
  | fuel + 1 => do
    let e <- expression fuel
    endStatement
    pure (.expr e)

/-- The declarators of a `var`, `let` or `const` declaration after the keyword. -/
def declarationList : Nat -> DeclKind -> List (Pattern × Option Expr) -> Parser Stmt
  | 0, _, _ => throw .tooDeep
  | fuel + 1, kind, acc => do
    let t <- peekTok
    let target <- bindingTarget fuel
    if kind != .var && target.names.contains "let" then throw .letAsLexicalName
    let _ := t
    let init ← if (← atPunct "=") then do
        bump
        pure (some (<- assignment fuel))
      else pure none
    let ctx <- read
    let inForHead := ctx.noIn && ((<- peekTok).kind.isKeyword "in" || (<- peekTok).kind.isName "of")
    if init.isNone && !inForHead then
      match target with
      | .name _ => if kind == .constDecl then throw (.missingInitializer "const")
      | _ => throw (.missingInitializer "destructuring")
    if (← atPunct ",") then
      bump
      declarationList fuel kind ((target, init) :: acc)
    else pure (.decl kind ((target, init) :: acc).reverse)

/-- A `for` statement after `for`. -/
def forStatement : Nat -> Parser Stmt
  | 0 => throw .tooDeep
  | fuel + 1 => do
    expectPunct "("
    let t <- peekTok
    let second <- peekSecond
    let declKind : Option DeclKind :=
      if t.kind.isKeyword "var" then some .var
      else if t.kind.isKeyword "const" then some .constDecl
      else if t.kind.isName "let" then
        match second.kind with
        | .ident _ => some .letDecl
        | .punct "[" => some .letDecl
        | .punct "\x7b" => some .letDecl
        | _ => none
      else none
    let loopBody : Parser Stmt := withReader (fun c => { c with inLoop := true }) (statement fuel true)
    match declKind with
    | some kind =>
      bump
      let d <- withReader (fun c => { c with noIn := true }) (declarationList fuel kind [])
      let n <- peekTok
      let isOf := n.kind.isName "of"
      if n.kind.isKeyword "in" || isOf then
        let loop := if isOf then "for-of" else "for-in"
        match d with
        | .decl _ [(target, none)] =>
          bump
          let obj <- if isOf then assignment fuel else expression fuel
          expectPunct ")"
          let body <- loopBody
          pure (.forIn (some kind) target obj body isOf)
        | .decl _ [(target, some init)] =>
          -- a sloppy `for (var x = init in obj)` runs its initializer first
          if isOf || kind != .var || (<- read).strict then throw (.forInitializer loop)
          match target with
          | .name _ =>
            bump
            let obj <- expression fuel
            expectPunct ")"
            let body <- loopBody
            pure (.block [.decl .var [(target, some init)], .forIn (some kind) target obj body false])
          | _ => throw (.forInitializer loop)
        | .decl _ (_ :: _ :: _) => throw (.forMultiBinding loop)
        | _ => throw .invalidForTarget
      else
        forClassic fuel (some d) loopBody
    | none =>
      if t.kind.isPunct ";" then forClassic fuel none loopBody
      else
        let e <- withReader (fun c => { c with noIn := true }) (expression fuel)
        let n <- peekTok
        let isOf := n.kind.isName "of"
        if n.kind.isKeyword "in" || isOf then
          let target <- match e.toPattern false with
            | .ok p => pure p
            | .error _ => throw .invalidForTarget
          bump
          let obj <- if isOf then assignment fuel else expression fuel
          expectPunct ")"
          let body <- loopBody
          pure (.forIn none target obj body isOf)
        else forClassic fuel (some (.expr e)) loopBody

/-- The rest of a `for (init; test; update)` loop after its initializer. -/
def forClassic : Nat -> Option Stmt -> Parser Stmt -> Parser Stmt
  | 0, _, _ => throw .tooDeep
  | fuel + 1, init, loopBody => do
    expectPunct ";"
    let test <- if (<- atPunct ";") then pure none else pure (some (<- expression fuel))
    expectPunct ";"
    let update <- if (<- atPunct ")") then pure none else pure (some (<- expression fuel))
    expectPunct ")"
    let body <- loopBody
    pure (.forLoop init test update body)

/-- The clauses of a `switch` up to and with `}`. -/
def switchCases : Nat -> Bool -> List (Option Expr × List Stmt) -> Parser (List (Option Expr × List Stmt))
  | 0, _, _ => throw .tooDeep
  | fuel + 1, sawDefault, acc => do
    let t <- peekTok
    if t.kind.isPunct "\x7d" then bump; pure acc.reverse
    else if t.kind.isKeyword "case" then
      bump
      let e <- expression fuel
      expectPunct ":"
      let body <- caseBody fuel []
      switchCases fuel sawDefault ((some e, body) :: acc)
    else if t.kind.isKeyword "default" then
      if sawDefault then throw .multipleDefaults
      bump
      expectPunct ":"
      let body <- caseBody fuel []
      switchCases fuel true ((none, body) :: acc)
    else unexpected

/-- The statements of one `switch` clause. -/
def caseBody : Nat -> List Stmt -> Parser (List Stmt)
  | 0, _ => throw .tooDeep
  | fuel + 1, acc => do
    let t <- peekTok
    let stops := t.kind.isPunct "\x7d" || t.kind.isKeyword "case" || t.kind.isKeyword "default" ||
      (match t.kind with
        | .eof => true
        | _ => false)
    if stops then pure acc.reverse
    else
      let s <- statement fuel false
      caseBody fuel (s :: acc)

end

/-- Parses a script; the flag says whether it opens with a `"use strict"` directive. -/
def parseProgram (source : String) : Except SyntaxIssue (List Stmt × Bool) :=
  let src := source.toList.toArray
  let toks := tokenize src
  let strict := opensStrict toks 0
  let ctx : ParseContext := { toks := toks, src := src, strict := strict }
  let fuel := 64 * (toks.size + 4)
  let run : Parser (List Stmt) := do
    let body <- statementList fuel false [] [] []
    let t <- peekTok
    match t.kind with
    | .eof => pure body
    | _ => unexpected
  match (run.run ctx).run 0 with
  | .ok (body, _) => .ok (body, strict)
  | .error e => .error e

/-- Parses a script. -/
def parseScript (source : String) : Except SyntaxIssue (List Stmt) :=
  (parseProgram source).map (·.1)

end TranscriptTest.Js
