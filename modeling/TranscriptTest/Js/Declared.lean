import TranscriptTest.Js.Syntax

/-!
# Declared names

Which names a statement declares, and where they live. A `var` declaration belongs to the
enclosing function or script, wherever it stands inside blocks and loops; `let`, `const` and
`class` belong to the block that holds them. A function declaration is `var`-like at the top of
a function or script and block-scoped inside a block. Both the parser (a name declared twice)
and the evaluator (creating bindings before a body runs) read these lists.
-/

namespace TranscriptTest.Js

mutual

/-- The `var` names a statement declares, in order, through nested blocks but not into
functions. -/
def Stmt.varNames : Stmt -> List String
  | .decl .var items => declNames items
  | .forLoop (some init) _ _ body => init.varNames ++ body.varNames
  | .forLoop none _ _ body => body.varNames
  | .forIn (some .var) target _ body _ => target.names ++ body.varNames
  | .forIn _ _ _ body _ => body.varNames
  | .ifThen _ yes (some no) => yes.varNames ++ no.varNames
  | .ifThen _ yes none => yes.varNames
  | .whileLoop _ body => body.varNames
  | .doWhile body _ => body.varNames
  | .block body => listVarNames body
  | .tryStmt body _ handler finalizer =>
    listVarNames body ++ optionalVarNames handler ++ optionalVarNames finalizer
  | .labeled _ body => body.varNames
  | .switchStmt _ cases => caseVarNames cases
  | _ => []

/-- The `var` names of a statement list. -/
def listVarNames : List Stmt -> List String
  | [] => []
  | s :: rest => s.varNames ++ listVarNames rest

/-- The `var` names of an optional statement list. -/
def optionalVarNames : Option (List Stmt) -> List String
  | none => []
  | some ss => listVarNames ss

/-- The `var` names of the clauses of a `switch`. -/
def caseVarNames : List (Option Expr × List Stmt) -> List String
  | [] => []
  | (_, ss) :: rest => listVarNames ss ++ caseVarNames rest

/-- The names bound by a declaration's items. -/
def declNames : List (Pattern × Option Expr) -> List String
  | [] => []
  | (p, _) :: rest => p.names ++ declNames rest

end

/-- The names a statement declares in the block that holds it: `let`, `const`, `class`, and,
inside a block, function declarations. -/
def Stmt.lexicalNames (inBlock : Bool) : Stmt -> List String
  | .decl .letDecl items => declNames items
  | .decl .constDecl items => declNames items
  | .classDecl c => c.name.toList
  | .funcDecl f => if inBlock then f.name.toList else []
  | _ => []

/-- The names a statement adds to its function's or script's `var` scope when it stands at the
top: its `var` names and, at the top, its function declaration's name. -/
def Stmt.topVarNames (inBlock : Bool) : Stmt -> List String
  | .funcDecl f => if inBlock then [] else f.name.toList
  | s => s.varNames

mutual

/-- The names of the function declarations inside a statement's blocks (an `if` body that is a
function counts), through nested statements but not functions. -/
def Stmt.blockFunctionNames : Stmt -> List String
  | .block body => listFunctionNames body
  | .ifThen _ yes (some no) => yes.blockFunctionNames ++ no.blockFunctionNames
  | .ifThen _ yes none => yes.blockFunctionNames
  | .forLoop _ _ _ body => body.blockFunctionNames
  | .forIn _ _ _ body _ => body.blockFunctionNames
  | .whileLoop _ body => body.blockFunctionNames
  | .doWhile body _ => body.blockFunctionNames
  | .tryStmt body _ handler finalizer =>
    listFunctionNames body ++ optionalFunctionNames handler ++ optionalFunctionNames finalizer
  | .labeled _ body => body.blockFunctionNames
  | .switchStmt _ cases => caseFunctionNames cases
  | _ => []

/-- The names of the function declarations of a block's statements, those standing directly in
it included. -/
def listFunctionNames : List Stmt -> List String
  | [] => []
  | .funcDecl f :: rest => f.name.toList ++ listFunctionNames rest
  | s :: rest => s.blockFunctionNames ++ listFunctionNames rest

/-- The block function names of an optional statement list. -/
def optionalFunctionNames : Option (List Stmt) -> List String
  | none => []
  | some ss => listFunctionNames ss

/-- The block function names of the clauses of a `switch`. -/
def caseFunctionNames : List (Option Expr × List Stmt) -> List String
  | [] => []
  | (_, ss) :: rest => listFunctionNames ss ++ caseFunctionNames rest

end

/-- The block function declarations of a body that also bind a `var`-like name, as sloppy
scripts have it: those not named as a top lexical name or a parameter (`bound`). -/
def hoistedBlockFunctions (body : List Stmt) (bound : List String) : List String :=
  let lexical := (body.flatMap (Stmt.lexicalNames false))
  (body.flatMap Stmt.blockFunctionNames).eraseDups.filter fun n =>
    !lexical.contains n && !bound.contains n

/-- The function declarations standing directly in a statement list, in order. -/
def functionDecls (body : List Stmt) : List Func :=
  body.filterMap fun
    | .funcDecl f => some f
    | _ => none

/-- The `let`, `const` and `class` declarations standing directly in a statement list, with
whether each name is constant. -/
def lexicalDecls (body : List Stmt) : List (String × Bool) :=
  body.flatMap fun
    | .decl .letDecl items => (declNames items).map (·, false)
    | .decl .constDecl items => (declNames items).map (·, true)
    | .classDecl c => c.name.toList.map (·, false)
    | _ => []

/-! ## Frames

A call takes stack space for its frame: a fixed part, the receiver, the arguments (at least as
many as the function's parameters), a register for each local name, and one for each value an
expression keeps while it calls. How deep a recursion gets before the stack is full follows
from these sizes. -/

/-- The values an expression keeps while it calls: the function and its arguments, and the left
operand of an operator whose right side calls; the first argument bounds the nesting looked
into. -/
def callSlots : Nat -> Expr -> Nat
  | 0, _ => 0
  | d + 1, e =>
    let items (xs : List Item) : Nat := xs.foldl (fun m x => match x with
      | .one a | .spread a => max m (callSlots d a)
      | .hole => m) 0
    match e with
    | .call callee args _ _ | .new callee args _ =>
      max (1 + args.length) (max (callSlots d callee) (items args))
    | .binary _ l r | .logical _ l r =>
      let right := callSlots d r
      max (callSlots d l) (if right > 0 then right + 1 else 0)
    | .cond t y n => max (callSlots d t) (max (callSlots d y) (callSlots d n))
    | .assign _ _ v | .unary _ v | .member v _ _ | .chain v | .awaitExpr v => callSlots d v
    | .index o k _ | .seq o k => max (callSlots d o) (callSlots d k)
    | .array xs => items xs
    | _ => 0

/-- The most values the expressions of a statement keep while they call. -/
def stmtCallSlots : Nat -> Stmt -> Nat
  | 0, _ => 0
  | d + 1, s =>
    let e (x : Expr) : Nat := callSlots 32 x
    let opt (x : Option Expr) : Nat := (x.map e).getD 0
    let list (xs : List Stmt) : Nat := xs.foldl (fun m x => max m (stmtCallSlots d x)) 0
    match s with
    | .expr x | .throwStmt x | .ret (some x) => e x
    | .decl _ items => items.foldl (fun m (_, init) => max m (opt init)) 0
    | .ifThen t y n => max (e t) (max (stmtCallSlots d y) ((n.map (stmtCallSlots d)).getD 0))
    | .forLoop i t u b =>
      max ((i.map (stmtCallSlots d)).getD 0) (max (opt t) (max (opt u) (stmtCallSlots d b)))
    | .forIn _ _ o b _ | .whileLoop o b | .doWhile b o => max (e o) (stmtCallSlots d b)
    | .block xs => list xs
    | .tryStmt b _ h f => max (list b) (max ((h.map list).getD 0) ((f.map list).getD 0))
    | .labeled _ b => stmtCallSlots d b
    | .switchStmt x cases => max (e x) (cases.foldl (fun m (_, xs) => max m (list xs)) 0)
    | _ => 0

/-- The stack slots a call of a function with `argc` arguments takes. -/
def Func.frameSlots (fn : Func) (argc : Nat) : Nat :=
  match fn with
  | .mk _ params _ body concise _ _ _ _ _ _ =>
    let locals := (listVarNames body).length + (lexicalDecls body).length + (functionDecls body).length
    let temps := match concise with
      | some x => callSlots 32 x
      | none => body.foldl (fun m s => max m (stmtCallSlots 16 s)) 0
    8 + max argc params.length + locals + temps

end TranscriptTest.Js
