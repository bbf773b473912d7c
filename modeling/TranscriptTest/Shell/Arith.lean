/-!
# Shell arithmetic

`$((…))` evaluates an integer expression with the operators of C, loosest first: the
assignments `= *= /= %= += -= <<= >>= &= ^= |=`, the conditional `?:`, `||`, `&&`, `|`, `^`,
`&`, equality, comparisons, shifts, `+ -`, `* / %`, and the unary `+ - ! ~`. Numbers are
decimal, octal with a leading `0`, or hexadecimal with `0x`. A name, with or without `$`, is a
variable read as a number, zero when unset or empty. Values are 64-bit signed integers, and
`&&` and `||` leave their right side unevaluated when the left decides.
-/

namespace TranscriptTest.Shell

/-- A token of an arithmetic expression. -/
inductive ArithToken where
  | num (value : Int)
  | name (s : String)
  | op (s : String)
  deriving Inhabited, BEq

/-- An arithmetic expression. -/
inductive ArithExpr where
  | num (value : Int)
  | var (name : String)
  | unary (op : String) (arg : ArithExpr)
  | binary (op : String) (lhs rhs : ArithExpr)
  | cond (test yes no : ArithExpr)
  /-- `name op= value`; `op` is empty for a plain assignment. -/
  | assign (name : String) (op : String) (value : ArithExpr)
  /-- `++name`, `--name`, `name++` or `name--`: adds `delta`, giving the old value when `post`. -/
  | step (name : String) (delta : Int) (post : Bool)
  /-- `a, b`: both evaluated, the value of `b`. -/
  | comma (a b : ArithExpr)
  deriving Inhabited

/-- The operators of bash alone, longest first. -/
def bashArithOperators : List String := ["**=", "**", "++", "--", ","]

/-- The operators, longest first. -/
def arithOperators : List String :=
  ["<<=", ">>=", "&&", "||", "==", "!=", "<=", ">=", "<<", ">>", "*=", "/=", "%=", "+=", "-=",
   "&=", "^=", "|=", "+", "-", "*", "/", "%", "<", ">", "&", "^", "|", "!", "~", "?", ":", "=",
   "(", ")"]

/-- The value of digits in a base, `none` when one is no digit of it. -/
def digitsIn (base : Nat) (ds : List Char) : Option Nat :=
  ds.foldlM (fun n c =>
    let d := if c.isDigit then c.toNat - 48
      else if 'a' <= c && c <= 'z' then c.toNat - 87
      else if 'A' <= c && c <= 'Z' then c.toNat - 55
      else 99
    if d < base then some (n * base + d) else none) 0

/-- Reads a number as the shell writes one: `0x` hexadecimal, a leading `0` octal, decimal
otherwise. -/
def readArithNumber (s : String) : Option Nat :=
  match s.splitOn "#" with
  | [base, ds] =>
    match base.toNat? with
    | some b =>
      if b < 2 || b > 64 || ds.isEmpty then none
      else ds.toList.foldlM (fun n c =>
        let d := if c.isDigit then c.toNat - 48
          else if 'a' <= c && c <= 'z' then c.toNat - 87
          else if 'A' <= c && c <= 'Z' then (if b <= 36 then c.toNat - 55 else c.toNat - 29)
          else if c == '@' then 62 else if c == '_' then 63 else 99
        if d < b then some (n * b + d) else none) 0
    | none => none
  | _ =>
  match s.toList with
  | '0' :: 'x' :: ds | '0' :: 'X' :: ds => if ds.isEmpty then none else digitsIn 16 ds
  | '0' :: ds => if ds.isEmpty then some 0 else digitsIn 8 ds
  | ds => if ds.isEmpty then none else digitsIn 10 ds

/-- Whether a character may be part of a name. -/
def isArithNameChar (c : Char) : Bool := c.isAlphanum || c == '_'

/-- Splits an expression into tokens; `none` for a character that starts no token. -/
def arithTokens (bash : Bool) : Nat -> List Char -> Option (List ArithToken)
  | 0, _ => some []
  | _, [] => some []
  | fuel + 1, c :: rest =>
    if c == ' ' || c == '\t' || c == '\n' then arithTokens bash fuel rest
    else if c.isDigit then
      let w := (c :: rest).takeWhile isArithNameChar
      let w := match (c :: rest).drop w.length with
        | '#' :: more =>
          if bash then w ++ '#' :: more.takeWhile (fun d => isArithNameChar d || d == '@') else w
        | _ => w
      match readArithNumber (String.ofList w) with
      | some n => (ArithToken.num n :: ·) <$> arithTokens bash fuel ((c :: rest).drop w.length)
      | none => none
    else if c == '$' then
      match rest with
      | '{' :: more =>
        let name := more.takeWhile (· != '}')
        (ArithToken.name (String.ofList name) :: ·) <$> arithTokens bash fuel ((more.drop name.length).drop 1)
      | d :: more =>
        if d.isDigit || d == '#' || d == '?' then
          (ArithToken.name d.toString :: ·) <$> arithTokens bash fuel more
        else
          let w := rest.takeWhile isArithNameChar
          if w.isEmpty then none
          else (ArithToken.name (String.ofList w) :: ·) <$> arithTokens bash fuel (rest.drop w.length)
      | [] => none
    else if c.isAlpha || c == '_' then
      let w := (c :: rest).takeWhile isArithNameChar
      (ArithToken.name (String.ofList w) :: ·) <$> arithTokens bash fuel ((c :: rest).drop w.length)
    else
      let ops := if bash then bashArithOperators ++ arithOperators else arithOperators
      match ops.find? (fun op => (c :: rest).take op.length == op.toList) with
      | some op => (ArithToken.op op :: ·) <$> arithTokens bash fuel ((c :: rest).drop op.length)
      | none => none

/-- The binding strength of a binary operator. -/
def arithPrecedence : String -> Option Nat
  | "**" => some 11
  | "*" | "/" | "%" => some 10
  | "+" | "-" => some 9
  | "<<" | ">>" => some 8
  | "<" | "<=" | ">" | ">=" => some 7
  | "==" | "!=" => some 6
  | "&" => some 5
  | "^" => some 4
  | "|" => some 3
  | "&&" => some 2
  | "||" => some 1
  | _ => none

/-- The assignment operators, each with the binary operator it applies. -/
def assignOperator : String -> Option String
  | "=" => some ""
  | "**=" => some "**"
  | "*=" => some "*"
  | "/=" => some "/"
  | "%=" => some "%"
  | "+=" => some "+"
  | "-=" => some "-"
  | "<<=" => some "<<"
  | ">>=" => some ">>"
  | "&=" => some "&"
  | "^=" => some "^"
  | "|=" => some "|"
  | _ => none

mutual

/-- Expressions separated by commas. -/
def parseArithComma : Nat -> List ArithToken -> Option (ArithExpr × List ArithToken)
  | 0, _ => none
  | fuel + 1, ts => do
    let (a, rest) <- parseArithAssign fuel ts
    match rest with
    | .op "," :: rest => do
      let (b, rest) <- parseArithComma fuel rest
      pure (.comma a b, rest)
    | _ => pure (a, rest)

/-- An assignment or a conditional expression. -/
def parseArithAssign : Nat -> List ArithToken -> Option (ArithExpr × List ArithToken)
  | 0, _ => none
  | fuel + 1, ts =>
    match ts with
    | .name n :: .op o :: rest =>
      match assignOperator o with
      | some op => do
        let (value, rest) <- parseArithAssign fuel rest
        pure (.assign n op value, rest)
      | none => parseArithCond fuel ts
    | _ => parseArithCond fuel ts

/-- A conditional expression. -/
def parseArithCond : Nat -> List ArithToken -> Option (ArithExpr × List ArithToken)
  | 0, _ => none
  | fuel + 1, ts => do
    let (test, rest) <- parseArithBinary fuel 1 ts
    match rest with
    | .op "?" :: rest => do
      let (yes, rest) <- parseArithAssign fuel rest
      match rest with
      | .op ":" :: rest => do
        let (no, rest) <- parseArithCond fuel rest
        pure (.cond test yes no, rest)
      | _ => none
    | _ => pure (test, rest)

/-- Binary operators binding at least as tightly as `minPrec`. -/
def parseArithBinary : Nat -> Nat -> List ArithToken -> Option (ArithExpr × List ArithToken)
  | 0, _, _ => none
  | fuel + 1, minPrec, ts => do
    let (lhs, rest) <- parseArithUnary fuel ts
    parseArithRest fuel minPrec lhs rest

/-- Continues a binary expression after its left operand. -/
def parseArithRest : Nat -> Nat -> ArithExpr -> List ArithToken -> Option (ArithExpr × List ArithToken)
  | 0, _, _, _ => none
  | fuel + 1, minPrec, lhs, ts =>
    match ts with
    | .op o :: rest =>
      match arithPrecedence o with
      | some p =>
        if p ≥ minPrec then do
          -- the power groups to the right
          let (rhs, rest) <- parseArithBinary fuel (if o == "**" then p else p + 1) rest
          parseArithRest fuel minPrec (.binary o lhs rhs) rest
        else pure (lhs, ts)
      | none => pure (lhs, ts)
    | _ => pure (lhs, ts)

/-- A unary expression, a number, a name or a parenthesized expression. -/
def parseArithUnary : Nat -> List ArithToken -> Option (ArithExpr × List ArithToken)
  | 0, _ => none
  | fuel + 1, ts =>
    match ts with
    | .op "++" :: .name n :: rest => pure (.step n 1 false, rest)
    | .op "--" :: .name n :: rest => pure (.step n (-1) false, rest)
    | .name n :: .op "++" :: rest => pure (.step n 1 true, rest)
    | .name n :: .op "--" :: rest => pure (.step n (-1) true, rest)
    | .op o :: rest =>
      if o == "+" || o == "-" || o == "!" || o == "~" then do
        let (arg, rest) <- parseArithUnary fuel rest
        pure (.unary o arg, rest)
      else if o == "(" then do
        let (e, rest) <- parseArithComma fuel rest
        match rest with
        | .op ")" :: rest => pure (e, rest)
        | _ => none
      else none
    | .num n :: rest => pure (.num n, rest)
    | .name n :: rest => pure (.var n, rest)
    | [] => none

end

/-- Reads a whole expression, as bash does when `bash` is set; the empty expression is zero. -/
def parseArith (bash : Bool) (s : String) : Option ArithExpr :=
  match arithTokens bash (s.length + 1) s.toList with
  | none => none
  | some [] => some (.num 0)
  | some ts =>
    match parseArithComma (4 * ts.length + 4) ts with
    | some (e, []) => some e
    | _ => none

/-- A value wrapped to 64-bit two's complement. -/
def wrap64 (n : Int) : Int :=
  let m := n % 18446744073709551616
  if m >= 9223372036854775808 then m - 18446744073709551616 else m

/-- Truncating division, as C divides. -/
def truncDiv (a b : Int) : Int := Int.tdiv a b

/-- Why an expression has no value. -/
inductive ArithError where
  | divisionByZero
  /-- The smallest integer divided by -1: the processor traps, and the shell is killed. -/
  | overflowTrap
  /-- A variable holds something that is not a number. -/
  | illegalNumber (text : String)
  /-- A power with a negative exponent. -/
  | negativeExponent
  deriving Inhabited, BEq

/-- The smallest 64-bit integer. -/
def minInt64 : Int := -9223372036854775808

/-- Applies a binary operator; a division by zero fails, and so does the division of the
smallest integer by -1, which traps. -/
def applyArith (op : String) (a b : Int) : Except ArithError Int :=
  let bool (p : Bool) : Int := if p then 1 else 0
  match op with
  | "*" => pure (wrap64 (a * b))
  | "/" =>
    if b == 0 then throw .divisionByZero
    else if a == minInt64 && b == -1 then throw .overflowTrap
    else pure (wrap64 (truncDiv a b))
  | "%" =>
    if b == 0 then throw .divisionByZero
    else if a == minInt64 && b == -1 then throw .overflowTrap
    else pure (Int.tmod a b)
  | "+" => pure (wrap64 (a + b))
  | "-" => pure (wrap64 (a - b))
  | "**" =>
    if b < 0 then throw .negativeExponent
    else pure ((List.range b.toNat).foldl (fun acc _ => wrap64 (acc * a)) 1)
  | "<<" => pure (wrap64 (a * Int.pow 2 (b % 64).toNat))
  | ">>" => pure (a / Int.pow 2 (b % 64).toNat)
  | "<" => pure (bool (a < b))
  | "<=" => pure (bool (a <= b))
  | ">" => pure (bool (a > b))
  | ">=" => pure (bool (a >= b))
  | "==" => pure (bool (a == b))
  | "!=" => pure (bool (a != b))
  | "&" => pure (wrap64 (Int.ofNat ((a % 18446744073709551616).toNat &&& (b % 18446744073709551616).toNat)))
  | "^" => pure (wrap64 (Int.ofNat ((a % 18446744073709551616).toNat ^^^ (b % 18446744073709551616).toNat)))
  | "|" => pure (wrap64 (Int.ofNat ((a % 18446744073709551616).toNat ||| (b % 18446744073709551616).toNat)))
  | _ => pure 0

/-- The variables an evaluation reads and writes: reads go through `lookup` unless the name was
assigned during the evaluation. -/
structure ArithVars where
  lookup : String -> String
  bash : Bool := false
  assigned : List (String × Int) := []

/-- A variable's text as a number: empty is zero, and a sign may lead. -/
def numberText (text : String) : Option Int :=
  let text := text.trimAscii.toString
  if text.isEmpty then some 0
  else
    let (neg, digits) := match text.toList with
      | '-' :: rest => (true, String.ofList rest)
      | '+' :: rest => (false, String.ofList rest)
      | _ => (false, text)
    (readArithNumber digits).map fun n => if neg then -(n : Int) else n

/-- Evaluates an expression; `fuel` bounds the depth. -/
def evalArith : Nat -> ArithExpr -> StateT ArithVars (Except ArithError) Int
  | 0, _ => pure 0
  | fuel + 1, e =>
    match e with
    | .num n => pure (wrap64 n)
    | .var n => do
      let vars <- get
      match vars.assigned.find? (·.1 == n) with
      | some (_, v) => pure v
      | none =>
        let text := vars.lookup n
        match numberText text with
        | some v => pure (wrap64 v)
        | none =>
          match vars.bash, parseArith true text with
          | true, some inner => evalArith fuel inner
          | _, _ => throw (.illegalNumber text)
    | .unary o a => do
      let x <- evalArith fuel a
      pure (match o with
        | "-" => wrap64 (-x)
        | "!" => if x == 0 then 1 else 0
        | "~" => wrap64 (-x - 1)
        | _ => x)
    | .binary "&&" a b => do
      if (<- evalArith fuel a) == 0 then pure 0
      else pure (if (<- evalArith fuel b) == 0 then 0 else 1)
    | .binary "||" a b => do
      if (<- evalArith fuel a) != 0 then pure 1
      else pure (if (<- evalArith fuel b) == 0 then 0 else 1)
    | .binary o a b => do
      let x <- evalArith fuel a
      let y <- evalArith fuel b
      applyArith o x y
    | .cond t a b => do
      if (<- evalArith fuel t) != 0 then evalArith fuel a else evalArith fuel b
    | .assign n op value => do
      let v <- evalArith fuel value
      let r ← if op.isEmpty then pure v else do
        let old <- evalArith fuel (.var n)
        applyArith op old v
      modify fun vars => { vars with assigned := (n, r) :: vars.assigned.filter (·.1 != n) }
      pure r
    | .step n delta post => do
      let old <- evalArith fuel (.var n)
      let r := wrap64 (old + delta)
      modify fun vars => { vars with assigned := (n, r) :: vars.assigned.filter (·.1 != n) }
      pure (if post then old else r)
    | .comma a b => do
      let _ <- evalArith fuel a
      evalArith fuel b

end TranscriptTest.Shell
