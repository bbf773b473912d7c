/-!
# Python programs

The abstract syntax of the part of Python that `python3 -c` scripts are run in: expressions with
the operators, displays, comprehensions, calls with keyword and unpacked arguments, lambdas and
formatted string literals; statements with assignment (plain, augmented, to several targets and
unpacking), `if`, `while` and `for` with `else`, `def`, `class`, `try` with handlers, `with`,
`import`, `return`, `raise`, `global`, `nonlocal`, `del`, `assert`, `pass`, `break` and
`continue`.
-/

namespace TranscriptTest.Python

/-- Binary operators. -/
inductive BinOp where
  | add
  | sub
  | mul
  | div
  | floorDiv
  | mod
  | pow
  | matMul
  | lshift
  | rshift
  | bitAnd
  | bitOr
  | bitXor
  deriving Inhabited, BEq

/-- Comparison operators. -/
inductive CmpOp where
  | eq
  | ne
  | lt
  | le
  | gt
  | ge
  | isIn
  | notIn
  | is
  | isNot
  deriving Inhabited, BEq

/-- Unary operators. -/
inductive UnaryOp where
  | neg
  | pos
  | invert
  | not
  deriving Inhabited, BEq

/-- How an argument is passed: by position, unpacked from an iterable (`*xs`), by keyword, or
unpacked from a mapping (`**kw`). -/
inductive ArgKind where
  | positional
  | star
  | keyword (name : String)
  | doubleStar
  deriving Inhabited, BEq

/-- How a parameter takes arguments: one, the rest of the positional ones (`*args`) or of the
keyword ones (`**kwargs`); `keywordOnly` ones follow a `*`. -/
inductive ParamKind where
  | plain
  | keywordOnly
  | rest
  | restKeywords
  deriving Inhabited, BEq

/-- What a comprehension builds. -/
inductive CompKind where
  | list
  | set
  | dict
  | generator
  deriving Inhabited, BEq

/-- Expressions. -/
inductive Expr where
  | none
  | bool (b : Bool)
  | ellipsis
  | int (n : Int)
  | float (x : Float)
  | str (s : String)
  /-- A formatted string literal: its literal parts and replacement fields, in order. -/
  | joined (parts : List Expr)
  /-- A replacement field: the value, its conversion (`r`, `s`, `a` or none) and its format
  specification, itself a formatted string. -/
  | formatted (value : Expr) (conversion : String) (spec : Expr)
  | name (n : String)
  | list (items : List Expr)
  | tuple (items : List Expr)
  | set (items : List Expr)
  /-- A dictionary display; an entry without a key unpacks a mapping (`**m`). -/
  | dict (entries : List (Option Expr × Expr))
  | starred (e : Expr)
  | attr (e : Expr) (name : String)
  | subscript (e : Expr) (index : Expr)
  | slice (lo hi step : Option Expr)
  | call (f : Expr) (args : List (ArgKind × Expr))
  | binary (op : BinOp) (a b : Expr)
  | unary (op : UnaryOp) (a : Expr)
  /-- A chain of comparisons `a < b <= c`. -/
  | compare (first : Expr) (rest : List (CmpOp × Expr))
  | and (a b : Expr)
  | or (a b : Expr)
  | ifElse (cond yes no : Expr)
  | lambda (params : List (String × ParamKind × Option Expr)) (body : Expr)
  /-- A comprehension: what it builds, the element (for a dictionary, the key and the value),
  and its clauses, `for` clauses with a target and `if` clauses without. -/
  | comp (kind : CompKind) (elt : Expr) (value : Option Expr) (clauses : List (Option Expr × Expr))
  /-- An assignment expression `name := value`. -/
  | walrus (name : String) (value : Expr)
  deriving Inhabited

/-- Statements. -/
inductive Stmt where
  | expr (e : Expr)
  /-- `a = b = value`: the targets, left to right, and the value. -/
  | assign (targets : List Expr) (value : Expr)
  | augAssign (target : Expr) (op : BinOp) (value : Expr)
  /-- An annotated name without a value: it declares nothing at run time. -/
  | annotated (target : Expr)
  | pass
  | brk
  | cont
  | ret (value : Option Expr)
  /-- `if`/`elif` branches with their conditions, then the `else` suite. -/
  | ifs (branches : List (Expr × List Stmt)) (orelse : List Stmt)
  | whileLoop (cond : Expr) (body : List Stmt) (orelse : List Stmt)
  | forLoop (target : Expr) (iter : Expr) (body : List Stmt) (orelse : List Stmt)
  | define (name : String) (params : List (String × ParamKind × Option Expr)) (body : List Stmt)
      (decorators : List Expr)
  | classDef (name : String) (bases : List Expr) (body : List Stmt) (decorators : List Expr)
  /-- `import a.b as c`: each module with the name it is bound to. -/
  | importModules (modules : List (String × Option String))
  /-- `from m import a as b`; the name `*` imports every public name. -/
  | importFrom (module : String) (names : List (String × Option String))
  /-- `try` with its handlers (the class to catch, if any, and the name to bind), `else` and
  `finally`. -/
  | tryStmt (body : List Stmt) (handlers : List (Option Expr × Option String × List Stmt))
      (orelse : List Stmt) (final : List Stmt)
  | raise (e : Option Expr) (cause : Option Expr)
  | global (names : List String)
  | nonlocal (names : List String)
  | del (targets : List Expr)
  | assert (cond : Expr) (msg : Option Expr)
  | withStmt (items : List (Expr × Option Expr)) (body : List Stmt)
  /-- `yield value` in a generator function's body. -/
  | yieldValue (value : Option Expr)
  /-- `yield from source`: every value of an iterable in turn. -/
  | yieldFrom (source : Expr)
  deriving Inhabited

end TranscriptTest.Python
