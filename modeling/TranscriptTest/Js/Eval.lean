import TranscriptTest.Js.Library
import TranscriptTest.Js.Parser
import TranscriptTest.Js.Yield

/-!
# Evaluating scripts

The evaluator walks the syntax tree over the realm. Expressions give values; statements give
completion values, where `none` is the empty completion: a statement list's value is the value
of its last statement that had one, and `if`, loops, `switch` and `try` turn an empty value into
`undefined`. `break` and `continue` carry the value of the statements before them.
-/

namespace TranscriptTest.Js

/-- The stack slots script calls may take before the stack is full. -/
def stackSlots : Nat := 112500

/-- The stack slots a call of a built-in function takes. -/
def nativeFrameSlots : Nat := 8

/-- Where a pattern binds its names. -/
inductive BindMode where
  /-- Creates the bindings in a scope: parameters, `let`, `const`, `catch`. -/
  | declare (scope : Nat) (mutable : Bool)
  /-- Assigns to names already bound: `var` initializers and assignment expressions. -/
  | assign
  deriving Inhabited

/-- The number of scopes, which bounds every scope chain. -/
def scopeBound : Eval Nat := do
  pure ((<- get).scopes.size + 1)

/-- The error of a derived constructor that uses `this` before calling `super`. -/
def derivedWithoutSuper : String :=
  "Must call super constructor in derived class before accessing 'this' or returning from derived constructor"

/-- The value of `this` where `env` is. -/
def resolveThis (env : Nat) : Eval Value := do
  let rec go : Nat -> Nat -> Eval Value
    | 0, _ => pure .undefined
    | fuel + 1, i => do
      let s <- getScope i
      match s.this with
      | .bound v => pure v
      | .pending =>
        raiseError .referenceError derivedWithoutSuper
      | .inherit => match s.parent with
        | some p => go fuel p
        | none => pure .undefined
  go (<- scopeBound) env

/-- The scope that holds the `var` names where `env` is: the nearest scope of a function or of
the script. -/
def varScope (env : Nat) : Eval Nat := do
  let rec go : Nat -> Nat -> Eval Nat
    | 0, i => pure i
    | fuel + 1, i => do
      let s <- getScope i
      match s.this, s.callee, s.parent with
      | .inherit, none, some p => go fuel p
      | _, _, _ => pure i
  go (<- scopeBound) env

/-- The nearest function scope around `env`: the first whose `this` is its own. -/
def functionScope (env : Nat) : Eval Nat := do
  let rec go : Nat -> Nat -> Eval Nat
    | 0, i => pure i
    | fuel + 1, i => do
      let s <- getScope i
      match s.this with
      | .inherit => match s.parent with
        | some p => go fuel p
        | none => pure i
      | _ => pure i
  go (<- scopeBound) env

/-- The object `super` refers to where `env` is: the home object of the nearest method. -/
def homeObject (env : Nat) : Eval (Option Nat) := do
  let rec go : Nat -> Nat -> Eval (Option Nat)
    | 0, _ => pure none
    | fuel + 1, i => do
      let s <- getScope i
      match s.home with
      | some h => pure (some h)
      | none => match s.this, s.parent with
        | .inherit, some p => go fuel p
        | _, _ => pure none
  go (<- scopeBound) env

/-- The binding of a name visible from `env`. -/
def lookupBinding (env : Nat) (name : String) : Eval (Option (Nat × Binding)) := do
  findBinding name (<- scopeBound) env

/-- Reads a name that no scope binds from the global object; `none` when it has none. -/
def globalSlot (name : String) : Eval (Option Slot) := do
  findSlot name (<- heapBound) (<- get).global

/-- Copies a scope, for the next iteration of a loop. -/
def copyScope (env : Nat) : Eval Nat := do
  let s <- getScope env
  newScope { s with }

/-- The exact remainder of a division, with the sign of the dividend. -/
def floatMod (a b : Float) : Float :=
  if a.isNaN || b.isNaN || a.isInf || b == 0 then nan
  else if b.isInf || a == 0 then a
  else if a.abs < 9007199254740992 && b.abs < 9007199254740992 && a == a.floor && b == b.floor then
    -- whole numbers below 2^53 are exact as natural numbers
    let r := (a.abs.toUInt64.toNat % b.abs.toUInt64.toNat).toFloat
    if a < 0 then -r else r
  else
    let ba := Decimal.Binary.ofFloat a
    let bb := Decimal.Binary.ofFloat b
    let e := min ba.exponent bb.exponent
    let x := ba.mantissa * Nat.pow 2 (ba.exponent - e).toNat
    let y := bb.mantissa * Nat.pow 2 (bb.exponent - e).toNat
    let r := (x % y).toFloat.scaleB e
    if a < 0 then -r else r

/-- The 32-bit signed integer a natural number wraps to. -/
def wrapInt32 (n : Nat) : Int :=
  let m := n % 4294967296
  if m >= 2147483648 then (m : Int) - 4294967296 else m

/-- `==` between primitives other than `null` and `undefined`: texts as texts, symbols by
identity, an integer with a text as the integer it stands for, the rest as numbers. -/
def primitiveLooseEquals (a b : Value) : Bool :=
  match a, b with
  | .str x, .str y => x == y
  | .symbol x _, .symbol y _ => x == y
  | .symbol .., _ => false
  | _, .symbol .. => false
  | .bigint x, .bigint y => x == y
  | .bigint x, .str y => textToInt? y == some x
  | .str y, .bigint x => textToInt? y == some x
  | .bigint x, other => compareIntFloat x other.primitiveNumber == some .eq
  | other, .bigint x => compareIntFloat x other.primitiveNumber == some .eq
  | _, _ => a.primitiveNumber == b.primitiveNumber

/-- A numeric binary operator on numbers. -/
def numericOp (op : String) (a b : Float) : Float :=
  match op with
  | "-" => a - b
  | "*" => a * b
  | "/" => a / b
  | "%" => floatMod a b
  | "**" => powerOf a b
  | "&" => intToFloat (wrapInt32 (toUint32 a &&& toUint32 b))
  | "|" => intToFloat (wrapInt32 (toUint32 a ||| toUint32 b))
  | "^" => intToFloat (wrapInt32 (toUint32 a ^^^ toUint32 b))
  | "<<" => intToFloat (wrapInt32 (toUint32 a * Nat.pow 2 (toUint32 b % 32)))
  | ">>" => intToFloat (toInt32 a / Int.pow 2 (toUint32 b % 32))
  | ">>>" => (toUint32 a / Nat.pow 2 (toUint32 b % 32)).toFloat
  | _ => nan

/-- A binary arithmetic or bitwise operator on two integers. -/
def bigintOp (op : String) (x y : Int) : Eval Value := do
  match op with
  | "+" => pure (.bigint (x + y))
  | "-" => pure (.bigint (x - y))
  | "*" => pure (.bigint (x * y))
  | "/" => if y == 0 then raiseError .rangeError "Division by zero" else pure (.bigint (x.tdiv y))
  | "%" => if y == 0 then raiseError .rangeError "Division by zero" else pure (.bigint (x.tmod y))
  | "**" =>
    if y < 0 then raiseError .rangeError "Exponent must be non-negative"
    else if x.natAbs > 1 && intBitLength x * y.toNat > maxIntBits then
      raiseError .rangeError "Maximum BigInt size exceeded"
    else pure (.bigint (Int.pow x y.toNat))
  | "&" => pure (.bigint (intAnd x y))
  | "|" => pure (.bigint (intOr x y))
  | "^" => pure (.bigint (intXor x y))
  | "<<" =>
    if x != 0 && y > (maxIntBits : Int) then raiseError .rangeError "Maximum BigInt size exceeded"
    else pure (.bigint (intShiftLeft x y))
  | ">>" =>
    if x != 0 && -y > (maxIntBits : Int) then raiseError .rangeError "Maximum BigInt size exceeded"
    else pure (.bigint (intShiftLeft x (-y)))
  | ">>>" => throwType "BigInts have no unsigned right shift, use >> instead"
  | _ => pure .undefined

/-- A binary arithmetic or bitwise operator on two converted operands: two numbers or two
integers; one of each is refused. -/
def numericBinary (op : String) (a b : Value) : Eval Value := do
  match a, b with
  | .bigint x, .bigint y => bigintOp op x y
  | .bigint _, _ => throwType "Cannot mix BigInt and other types, use explicit conversions"
  | _, .bigint _ => throwType "Cannot mix BigInt and other types, use explicit conversions"
  | _, _ =>
    let x := a.primitiveNumber
    let y := b.primitiveNumber
    pure (.num (if op == "+" then x + y else numericOp op x y))

/-- A converted operand one up (`up`) or one down, for `++` and `--`. -/
def stepNumeric (v : Value) (up : Bool) : Value :=
  match v with
  | .bigint n => .bigint (if up then n + 1 else n - 1)
  | _ => .num (v.primitiveNumber + if up then 1 else -1)

/-- The value of an expression that is a literal once read: literals, templates without
substitutions, and signs, `~`, `!` or arithmetic on those, worked out as the script is read. -/
def Expr.literal? : Expr -> Option Value
  | .num x => some (.num x)
  | .bigint n => some (.bigint n)
  | .str s => some (.str s)
  | .template [s] [] => some (.str s)
  | .bool b => some (.bool b)
  | .null => some .null
  | .unary op a =>
    match op, a.literal? with
    | "!", some v => some (.bool !v.truthy)
    | "-", some (.num x) => some (.num (-x))
    | "-", some (.bigint n) => some (.bigint (-n))
    | "+", some (.num x) => some (.num x)
    | "~", some (.num x) => some (.num (intToFloat (-(toInt32 x) - 1)))
    | _, _ => none
  | .binary op a b =>
    match a.literal?, b.literal? with
    | some (.num x), some (.num y) =>
      if op == "+" then some (.num (x + y))
      else if ["-", "*", "/", "**", "&", "|", "^", "<<", ">>", ">>>"].contains op then
        some (.num (numericOp op x y))
      else none
    | _, _ => none
  | _ => none

/-- How a literal is shown in a callee's text: strings in double quotes. -/
def literalText : Value -> String
  | .str s => "\"" ++ s ++ "\""
  | .num x => numberText x
  | .bigint n => toString n ++ "n"
  | .bool b => if b then "true" else "false"
  | .null => "null"
  | _ => "(intermediate value)"

/-- The binary operators whose chains to the left are read as one operation over many operands:
all but the comparisons and `**`. -/
def isChainedOperator (op : String) : Bool :=
  [",", "||", "&&", "??", "|", "^", "&", "<<", ">>", ">>>", "+", "-", "*", "/", "%"].contains op

/-- Regular expression flags in the order they are shown. -/
def flagOrder (flags : String) : String :=
  String.ofList ("dgimsuvy".toList.filter fun c => flags.toList.contains c)

/-- Stands for a part of a callee that is not shown. -/
def intermediate : String := "(intermediate value)"

mutual

/-- A callee's text in messages: names, literals and member chains as written, calls as `f(...)`,
operators spaced in parentheses, and `(intermediate value)` for a part with no text. -/
def Expr.calleeText : Expr -> String
  | .ident n => n
  | .this => "this"
  | .pattern body flags => "/" ++ body ++ "/" ++ flagOrder flags
  | .template _ parts =>
    let ts := partsText parts
    if ts.isEmpty then intermediate else ts
  | .array items => "[" ++ itemsText items ++ "]"
  | .object props => "\x7b" ++ String.join (props.map fun _ => intermediate) ++ "\x7d"
  | .classExpr (.mk _ parent _ members _) =>
    let n := (if parent.isSome then 1 else 0) + members.length
    if n = 0 then intermediate else String.join (List.replicate n intermediate)
  | .unary op a =>
    match (Expr.unary op a).literal? with
    | some v => literalText v
    | none =>
      let space := if op == "delete" || op == "typeof" || op == "void" then " " else ""
      "(" ++ op ++ space ++ a.calleeText ++ ")"
  | .update op pre target =>
    if pre then "(" ++ op ++ target.calleeText ++ ")" else "(" ++ target.calleeText ++ op ++ ")"
  | .binary op a b =>
    match (Expr.binary op a b).literal? with
    | some v => literalText v
    | none =>
      if isChainedOperator op then "(" ++ operandsText op a ++ " " ++ op ++ " " ++ b.calleeText ++ ")"
      else "(" ++ a.calleeText ++ " " ++ op ++ " " ++ b.calleeText ++ ")"
  | .logical op a b => "(" ++ operandsText op a ++ " " ++ op ++ " " ++ b.calleeText ++ ")"
  | .seq a b => "(" ++ operandsText "," a ++ " , " ++ b.calleeText ++ ")"
  | .assign _ target _ => target.text
  | .cond _ _ _ => intermediate ++ intermediate ++ intermediate
  | .call c _ _ _ => c.calleeText ++ "(...)"
  | .member o n opt => o.calleeText ++ (if opt then "?." else ".") ++ n
  | .privateMember o n opt => o.calleeText ++ (if opt then "?." else ".") ++ "#" ++ n
  | .index o k opt =>
    match k.literal? with
    | some (.str s) => o.calleeText ++ (if opt then "?." else ".") ++ s
    | _ => o.calleeText ++ (if opt then "?." else "") ++ "[" ++ k.calleeText ++ "]"
  | .superMember n => intermediate ++ "." ++ n
  | .superCall _ => "super"
  | e => match e.literal? with
    | some v => literalText v
    | none => intermediate

/-- The operands of a chain of one operator, to the left, separated by it. -/
def operandsText (op : String) : Expr -> String
  | .binary op' a b =>
    if op' == op && isChainedOperator op && (Expr.binary op' a b).literal?.isNone then
      operandsText op a ++ " " ++ op ++ " " ++ b.calleeText
    else (Expr.binary op' a b).calleeText
  | .logical op' a b =>
    if op' == op then operandsText op a ++ " " ++ op ++ " " ++ b.calleeText
    else (Expr.logical op' a b).calleeText
  | .seq a b =>
    if op == "," then operandsText op a ++ " , " ++ b.calleeText else (Expr.seq a b).calleeText
  | e => e.calleeText

/-- The substitutions of a template, one after the other. -/
def partsText : List Expr -> String
  | [] => ""
  | e :: rest => e.calleeText ++ partsText rest

/-- The elements of an array literal, separated by commas. -/
def itemsText : List Item -> String
  | [] => ""
  | [i] => i.text
  | i :: rest => i.text ++ "," ++ itemsText rest

/-- An element of an array literal: a hole has no text of its own. -/
def Item.text : Item -> String
  | .hole => intermediate
  | .one e => e.calleeText
  | .spread e => "(..." ++ e.calleeText ++ ")"

/-- The text of an assignment's target. -/
def Pattern.text : Pattern -> String
  | .name n => n
  | .expr e => e.calleeText
  | .withDefault p _ => p.text
  | .array items rest => "[" ++ patternItemsText items ++
      (match rest with
        | some p => (if items.isEmpty then "" else ",") ++ "(..." ++ p.text ++ ")"
        | none => "") ++ "]"
  | .object props rest =>
    "\x7b" ++ String.join (props.map fun _ => intermediate) ++
      (if rest.isSome then intermediate else "") ++ "\x7d"

/-- The elements of an array pattern, separated by commas. -/
def patternItemsText : List (Option Pattern) -> String
  | [] => ""
  | [p] => optionText p
  | p :: rest => optionText p ++ "," ++ patternItemsText rest

/-- An element of an array pattern: a hole has no text of its own. -/
def optionText : Option Pattern -> String
  | none => intermediate
  | some p => p.text

end

/-- A function object for script text, closing over `env`. -/
def makeFunction (env : Nat) (f : Func) (name : String) (home : Option Nat) : Eval Nat := do
  let kind := if f.arrow || f.isMethod || f.isGenerator || f.isAsync then FuncKind.callOnly
    else .plain
  let ref <- newFunction (.closure f env kind home []) name f.length
  if f.isAsync then
    let i <- intrinsics
    modifyObj ref fun o => { o with proto := some i.asyncFunctionProto }
  else if f.isGenerator then
    let i <- intrinsics
    modifyObj ref fun o => { o with proto := some i.generatorFunctionProto }
    let proto <- alloc { proto := some i.generatorProto }
    defineData ref "prototype" (.obj proto) true false false
  else if kind == .plain then
    let proto <- newObject
    defineData proto "constructor" (.obj ref) true false true
    defineData ref "prototype" (.obj proto) true false false
  pure ref

/-- A function expression: a named one can call itself by its name. -/
def makeFunctionExpr (env : Nat) (f : Func) (name : String) : Eval Nat := do
  match f.name with
  | some n =>
    let inner <- newScope { parent := some env }
    let ref <- makeFunction inner f n none
    declareIn inner n (some (.obj ref)) false
    pure ref
  | none => makeFunction env f name none

/-- The name a key gives an anonymous function. -/
def keyName (k : String) : String :=
  match keySymbol? k with
  | some (.symbol _ (some d)) => "[" ++ d ++ "]"
  | some _ => ""
  | none => k

/-- What a class runs on itself once its methods are in place, in the order of its body. -/
inductive StaticStep where
  /-- A static field with its initializer; a private field's key is its private key. -/
  | field (key : String) (isPrivate : Bool) (init : Option Expr)
  /-- A `static` block, run as a method of the class. -/
  | block (body : Func)

/-- What one step of a generator's work leads to. -/
inductive GenStep where
  /-- Go on with these frames, `signal` arriving at the top one (`none`: the work above it
  ended normally). -/
  | next (frames : List Frame) (signal : Option Abrupt)
  /-- The generator hands out a value and waits, to go on with `frames`. -/
  | yielded (v : Value) (frames : List Frame) (receiver : Receiver)
  /-- The body has ended with a value. -/
  | finished (v : Value)

/-- Marks the site the running frame has reached: the call or `new` it is making. -/
def markSite (s : Site) : Eval Unit :=
  modify fun r => { r with frames := match r.frames with
    | f :: rest => { f with site := s } :: rest
    | [] => [{ site := s }] }

/-- Leaves the running frame when its function returns; like the depth, an abrupt end leaves it
for `try` to restore. -/
def popFrame : Eval Unit :=
  modify fun r => { r with frames := r.frames.drop 1 }

/-- The call depth and frames, kept where an abrupt completion may be caught. -/
def saveCalls : Eval (Nat × List StackFrame) := do
  let r <- get
  pure (r.depth, r.frames)

/-- Puts back the call depth and frames kept by `saveCalls`. -/
def restoreCalls (saved : Nat × List StackFrame) : Eval Unit :=
  modify fun r => { r with depth := saved.1, frames := saved.2 }

/-- Runs a piece of a generator's work; an abrupt completion it ends with becomes a signal
arriving at `k`, the work after it. -/
def catchInto (k : List Frame) (action : Eval GenStep) : Eval GenStep := do
  let saved <- saveCalls
  tryCatch action fun a => match a with
    | .exhausted => throw .exhausted
    | a => do
      restoreCalls saved
      pure (.next k (some a))

/-- Sets how a generator object stands. -/
def setGenerator (ref : Nat) (st : GenState) : Eval Unit :=
  modifyObj ref fun o => { o with kind := .generator st }

/-- The indices of the built-in `next` methods of the iterators of arrays, maps, sets and text. -/
def builtinNextIds : List Nat :=
  ((librarySpecs.zipIdx.filter fun (s, _) =>
    s.name == "next" && iteratorTags.contains s.holder && s.holder != "Iterator Helper").map (·.2))

/-- Whether a value is one of the built-in `next` methods of iterators, which can be stepped
without making result objects. -/
def isBuiltinNext (next : Value) : Eval Bool := do
  match next with
  | .obj r =>
    match (<- getObj r).kind with
    | .native id _ => pure (builtinNextIds.contains id)
    | _ => pure false
  | _ => pure false

/-- The most values one iteration of a script's iterator gives. -/
def iterationBound : Nat := 4294967296

/-- The scope of one round of a `for … in` or `for … of` loop, and how its target is bound
there. -/
def roundScope (env : Nat) (kind : Option DeclKind) : Eval (Nat × BindMode) := do
  match kind with
  | some .letDecl =>
    let s <- newScope { parent := some env }
    pure (s, .declare s true)
  | some .constDecl =>
    let s <- newScope { parent := some env }
    pure (s, .declare s false)
  | _ => pure (env, .assign)

/-- The constructor of a class that declares none. -/
def defaultConstructor (derived : Bool) (source : String) : Func :=
  if derived then
    .mk none [] (some (.name "args")) [.expr (.superCall [.spread (.ident "args")])] none false true
      source true false false
  else .mk none [] none [] none false true source true false false

/-- The items of an array-like `arguments` object. -/
def makeArguments (args : List Value) : Eval Value := do
  let ref <- newObject
  modifyObj ref fun o => { o with kind := .arguments }
  for (v, i) in args.zipIdx do
    setField ref (toString i) v
  defineData ref "length" (.num args.length.toFloat) true false true
  defineData ref (wellKnownKey "iterator") (.obj (<- intrinsics).arrayValues) true false true
  pure (.obj ref)

/-- Creates the bindings a body declares: `var` names (and block function names that set one) as
`undefined` unless bound, function declarations as functions, lexical names uninitialized. -/
def declareBody (scope : Nat) (body : List Stmt) : Eval Unit := do
  let bound := (<- getScope scope).bindings.toList.map (·.name)
  let hoisted := hoistedBlockFunctions body bound
  modifyScope scope fun s => { s with blockFunctions := hoisted }
  for n in listVarNames body ++ hoisted do
    let s <- getScope scope
    if !(s.bindings.any (·.name == n)) then declareIn scope n (some .undefined) true
  for (n, c) in lexicalDecls body do
    declareIn scope n none !c
  for f in functionDecls body do
    match f.name with
    | some n =>
      let ref <- makeFunction scope f n none
      declareIn scope n (some (.obj ref)) true
    | none => pure ()

/-- A scope for a block that declares names of its own, or `env` when it declares none. -/
def blockScope (env : Nat) (body : List Stmt) : Eval Nat := do
  let lexical := lexicalDecls body
  let fns := functionDecls body
  if lexical.isEmpty && fns.isEmpty then pure env
  else
    let scope <- newScope { parent := some env }
    for (n, c) in lexical do
      declareIn scope n none !c
    for f in fns do
      match f.name with
      | some n =>
        let ref <- makeFunction scope f n none
        declareIn scope n (some (.obj ref)) true
      | none => pure ()
    pure scope

/-- Leaves a `try` statement's block or handler: its finalizer runs next, if it has one,
and then the statement ends as `signal` says. -/
def finishTry (scope : Nat) (finalizer : Option (List Stmt)) (k : List Frame)
    (signal : Option Abrupt) : Eval GenStep := do
  match finalizer with
  | some f =>
    let b <- blockScope scope f
    pure (.next (.stmts b f :: .finishing signal :: k) none)
  | none => pure (.next k signal)

/-- The keys `for … in` visits: enumerable string keys of the object and its prototypes, each
once, nearest first. -/
def forInKeys (v : Value) : Eval (List String) := do
  match v with
  | .undefined => pure []
  | .null => pure []
  | .str s => pure ((List.range (unitLength s)).map toString)
  | .obj r =>
    let rec go : Nat -> Option Nat -> List String -> List String -> Eval (List String)
      | 0, _, _, acc => pure acc.reverse
      | _ + 1, none, _, acc => pure acc.reverse
      | fuel + 1, some ref, seen, acc => do
        let o <- getObj ref
        let keys <- ownKeys ref
        let mut seen := seen
        let mut acc := acc
        for k in keys do
          if !(seen.contains k) then
            seen := k :: seen
            match ownSlot? o k with
            | some s => if s.enumerable then acc := k :: acc
            | none => pure ()
        go fuel o.proto seen acc
    go (<- heapBound) (some r) [] []
  | _ => pure []

/-- Raises the call depth, failing when the stack is full. -/
def enterCall (slots : Nat) : Eval Unit := do
  if (<- get).depth + slots > stackSlots then raiseError .rangeError "Maximum call stack size exceeded"
  modify fun r => { r with depth := r.depth + slots }

/-- Enters a call of a script function: a step of the budget, its frame's slots on the stack
(a range error when the stack is full), and its frame for stack traces. -/
def enterFrame (slots fn : Nat) (this : ThisState) (construct : Bool) : Eval Unit := do
  let r <- get
  if r.steps == 0 then throw .exhausted
  if r.depth + slots > stackSlots then raiseError .rangeError "Maximum call stack size exceeded"
  let receiver := match this with
    | .bound (.obj o) => if o == r.global then none else some o
    | _ => none
  modify fun r => { r with steps := r.steps - 1, depth := r.depth + slots,
                           frames := { function := some fn, receiver, construct } :: r.frames }

/-- Lowers the call depth when a call returns. -/
def leaveCall (slots : Nat) : Eval Unit :=
  modify fun r => { r with depth := r.depth - slots }

/-- The private key a private name stands for where `env` is: the key of the nearest class
around it that declares the name. -/
def privateKey (env : Nat) (name : String) : Eval String := do
  match <- lookupBinding env ("#" ++ name) with
  | some (_, b) =>
    match b.value with
    | some (.str k) => pure k
    | _ => raiseError .syntaxError (SyntaxIssue.undeclaredPrivate name).message
  | none => raiseError .syntaxError (SyntaxIssue.undeclaredPrivate name).message

/-- How a message names the value a write was refused on: a primitive by its type and text, a
function by its source, an array as `[object Array]`, and another object by its constructor. -/
def writeTargetText (v : Value) : Eval String := do
  match v with
  | .str s => pure ("string '" ++ s ++ "'")
  | .num x => pure ("number '" ++ numberText x ++ "'")
  | .bool b => pure ("boolean '" ++ (if b then "true" else "false") ++ "'")
  | .bigint n => pure ("bigint '" ++ toString n ++ "'")
  | .symbol .. => pure ("symbol '" ++ v.primitiveText ++ "'")
  | .obj r =>
    let o <- getObj r
    match o.kind with
    | .closure fn .. => pure ("function '" ++ fn.source ++ "'")
    | .native .. | .bound .. => pure ("function '" ++ (<- describeValue v) ++ "'")
    | _ => pure ("object '" ++ (<- objectTag r) ++ "'")
  | _ => pure v.primitiveText
where
  /-- `[object Array]` for arrays, else `#<Name>` after the constructor. -/
  objectTag (r : Nat) : Eval String := do
    match (<- getObj r).kind with
    | .array _ => pure "[object Array]"
    | _ =>
      match <- constructorName (<- heapBound) r with
      | some n => pure ("#<" ++ n ++ ">")
      | none => pure "[object Object]"

/-- Deletes a property as `delete` in code run in scope `env` does: in strict code, a property
that cannot be deleted is a type error. -/
def deleteIn (env r : Nat) (key : String) : Eval Value := do
  if (<- deleteProperty r key) then pure (.bool true)
  else if (← isStrict env) then
    let shown <- match (<- getObj r).kind with
      | .closure fn .. => pure fn.source
      | .native .. | .bound .. => describeValue (.obj r)
      | _ => writeTargetText.objectTag r
    throwType ("Cannot delete property '" ++ keyText key ++ "' of " ++ shown)
  else pure (.bool false)

/-- The error strict code raises for a write to a property that did not take place. -/
def refusalMessage (r : Refusal) (v : Value) (key : String) : Eval String := do
  match r with
  | .readOnly =>
    pure ("Cannot assign to read only property '" ++ keyText key ++ "' of " ++ (<- writeTargetText v))
  | .getterOnly =>
    let shown <- match v with
      | .obj ref => writeTargetText.objectTag ref
      | _ => pure v.primitiveText
    pure ("Cannot set property " ++ keyText key ++ " of " ++ shown ++ " which has only a getter")
  | .notExtensible => pure ("Cannot add property " ++ keyText key ++ ", object is not extensible")
  | .primitive => pure ("Cannot create property '" ++ keyText key ++ "' on " ++ (<- writeTargetText v))

/-- The written form of a private key, `#name`. -/
def privateShown (key : String) : String :=
  if key.startsWith "#" then (key.splitOn "@").headD key else keyName key

/-- Adds a getter or a setter to the private accessor of a key among an instance's slots. -/
def addPrivateAccessor (slots : List InstanceSlot) (key : String) (g s : Option Nat) :
    List InstanceSlot :=
  if slots.any (fun x => match x with
      | .privateSlot k _ => k == key
      | _ => false) then
    slots.map fun x => match x with
      | .privateSlot k (.accessor g0 s0 e c) =>
        if k == key then .privateSlot k (.accessor (g.orElse fun _ => g0) (s.orElse fun _ => s0) e c) else x
      | other => other
  else slots ++ [.privateSlot key (.accessor g s false false)]

/-- Adds a getter or a setter to a private accessor of an object. -/
def addPrivateAccessorTo (ref : Nat) (key : String) (g s : Option Nat) : Eval Unit :=
  modifyObj ref fun o =>
    match o.findPrivate? key with
    | some (.accessor g0 s0 e c) => o.setPrivate key (.accessor (g.orElse fun _ => g0) (s.orElse fun _ => s0) e c)
    | _ => o.setPrivate key (.accessor g s false false)

mutual

/-- Evaluates an expression. -/
def evalExpr : Nat -> Nat -> Expr -> Eval Value
  | 0, _, _ => throw .exhausted
  | fuel + 1, env, e => do
    match e with
    | .num x => pure (.num x)
    | .bigint n => pure (.bigint n)
    | .str s => pure (.str s)
    | .bool b => pure (.bool b)
    | .null => pure .null
    | .this => resolveThis env
    | .ident n => lookupName fuel env n
    | .templateStrings cooked raw =>
      let strings <- newArray (cooked.map Value.str).toArray
      let raws <- newArray (raw.map Value.str).toArray
      match strings, raws with
      | .obj s, .obj r =>
        defineData s "raw" raws false false false
        modifyObj r fun o => { o with extensible := false }
        modifyObj s fun o => { o with extensible := false }
      | _, _ => pure ()
      pure strings
    | .privateMember o n optional =>
      let ov <- evalExpr fuel env o
      if optional && ov.isNullish then throw .shortCircuit
      privateGet fuel ov (<- privateKey env n) n
    | .binary "in" (.privateName n) r =>
      let rv <- evalExpr fuel env r
      let key <- privateKey env n
      match rv with
      | .obj ref => pure (.bool ((<- getObj ref).findPrivate? key).isSome)
      | _ =>
        throwType ("Cannot use 'in' operator to search for '#" ++ n ++ "' in " ++ (<- describeValue rv))
    | .privateName n => raiseError .syntaxError (SyntaxIssue.undeclaredPrivate n).message
    | .newTarget => pure ((<- getScope (<- functionScope env)).newTarget.getD .undefined)
    | .pattern body flags =>
      newRegExp (shownSource body) (((Regex.Flags.read? flags).map Regex.Flags.text).getD flags)
    | .template pieces parts =>
      let vals <- evalList fuel env parts []
      let mut out := pieces.headD ""
      for (v, p) in vals.zip (pieces.drop 1) do
        out := out ++ (<- toStr fuel v) ++ p
      pure (.str (settle out))
    | .array items =>
      let vs <- evalItems fuel env items #[]
      let ref <- alloc { kind := .array vs, proto := some (<- intrinsics).arrayProto }
      pure (.obj ref)
    | .object props => evalObject fuel env props
    | .func f => pure (.obj (<- makeFunctionExpr env f ""))
    | .classExpr c => pure (.obj (<- makeClass fuel env c ""))
    | .unary op arg => evalUnary fuel env op arg
    | .update op isPrefix target => evalUpdate fuel env op isPrefix target
    | .binary op l r =>
      let a <- evalExpr fuel env l
      let b <- evalExpr fuel env r
      binaryOp fuel op a b
    | .logical op l r =>
      let a <- evalExpr fuel env l
      if op == "&&" then (if a.truthy then evalExpr fuel env r else pure a)
      else if op == "||" then (if a.truthy then pure a else evalExpr fuel env r)
      else (if a.isNullish then evalExpr fuel env r else pure a)
    | .assign op target value => evalAssign fuel env op target value
    | .cond t y n =>
      if (<- evalExpr fuel env t).truthy then evalExpr fuel env y else evalExpr fuel env n
    | .call callee args optional place => evalCall fuel env callee args optional place
    | .new callee args place =>
      let f <- evalExpr fuel env callee
      let argVals <- evalArgs fuel env args
      markSite place
      if !(<- isConstructor f) then throwType (callee.calleeText ++ " is not a constructor")
      construct fuel f argVals f
    | .member o n optional =>
      let ov <- evalExpr fuel env o
      if optional && ov.isNullish then throw .shortCircuit
      getV fuel ov n
    | .index o k optional =>
      let ov <- evalExpr fuel env o
      if optional && ov.isNullish then throw .shortCircuit
      let kv <- evalExpr fuel env k
      let key <- toKey fuel kv
      getV fuel ov key
    | .seq a b =>
      let _ <- evalExpr fuel env a
      evalExpr fuel env b
    | .superCall args => evalSuperCall fuel env args
    | .superMember n =>
      let thisV <- resolveThis env
      superGet fuel env thisV n
    | .chain inner =>
      tryCatch (evalExpr fuel env inner) fun a => match a with
        | .shortCircuit => pure .undefined
        | other => throw other
    | .yieldExpr .. => raiseError .syntaxError "Unsupported yield position"
    | .awaitExpr _ => raiseError .syntaxError "Unsupported await position"
termination_by structural f _ _ => f

/-- Evaluates expressions in order. -/
def evalList : Nat -> Nat -> List Expr -> List Value -> Eval (List Value)
  | 0, _, _, _ => throw .exhausted
  | _ + 1, _, [], acc => pure acc.reverse
  | fuel + 1, env, e :: rest, acc => do
    let v <- evalExpr fuel env e
    evalList fuel env rest (v :: acc)
termination_by structural f _ _ _ => f

/-- Evaluates an initializer: an anonymous function or class takes the name it is bound to. -/
def evalInit : Nat -> Nat -> Expr -> String -> Eval Value
  | 0, _, _, _ => throw .exhausted
  | fuel + 1, env, e, name => do
    match e with
    | .func f =>
      if f.name.isNone then pure (.obj (<- makeFunction env f name none)) else evalExpr fuel env e
    | .classExpr c =>
      if c.name.isNone then pure (.obj (<- makeClass fuel env c name)) else evalExpr fuel env e
    | _ => evalExpr fuel env e
termination_by structural f _ _ _ => f

/-- Evaluates the items of an array literal: holes stay holes, spreads are expanded. -/
def evalItems : Nat -> Nat -> List Item -> Array (Option Value) -> Eval (Array (Option Value))
  | 0, _, _, _ => throw .exhausted
  | _ + 1, _, [], acc => pure acc
  | fuel + 1, env, item :: rest, acc => do
    match item with
    | .hole => evalItems fuel env rest (acc.push none)
    | .one e => evalItems fuel env rest (acc.push (some (<- evalExpr fuel env e)))
    | .spread e =>
      let v <- evalExpr fuel env e
      let vs <- iterate fuel v e.calleeText
      evalItems fuel env rest (acc ++ vs.map some)
termination_by structural f _ _ _ => f

/-- Evaluates call arguments, expanding spreads. -/
def evalArgs : Nat -> Nat -> List Item -> Eval (List Value)
  | 0, _, _ => throw .exhausted
  | fuel + 1, env, items => do
    let vs <- evalItems fuel env items #[]
    pure (vs.toList.map fun v => v.getD .undefined)
termination_by structural f _ _ => f

/-- Evaluates an object literal. -/
def evalObject : Nat -> Nat -> List Property -> Eval Value
  | 0, _, _ => throw .exhausted
  | fuel + 1, env, props => do
    let ref <- newObject
    for p in props do
      match p with
      | .field (.named "__proto__") value =>
        match <- evalExpr fuel env value with
        | .obj q => modifyObj ref fun o => { o with proto := some q }
        | .null => modifyObj ref fun o => { o with proto := none }
        | _ => pure ()
      | .field key value =>
        let k <- evalKey fuel env key
        let v <- match value with
          | .func f =>
            if f.isMethod then pure (.obj (<- makeFunction env f (f.name.getD (keyName k)) (some ref)))
            else evalInit fuel env value (keyName k)
          | _ => evalInit fuel env value (keyName k)
        defineData ref k v true true true
      | .getter key f =>
        let k <- evalKey fuel env key
        let g <- makeFunction env f ("get " ++ keyName k) (some ref)
        defineAccessor ref k (some g) none true
      | .setter key f =>
        let k <- evalKey fuel env key
        let s <- makeFunction env f ("set " ++ keyName k) (some ref)
        defineAccessor ref k none (some s) true
      | .spread e =>
        let v <- evalExpr fuel env e
        match v with
        | .obj src =>
          for k in (← ownEnumerableKeys src) ++ (← ownEnumerableSymbolKeys src) do
            defineData ref k (<- getV fuel v k) true true true
        | .str s =>
          for (c, i) in (unitsOf s).toList.zipIdx do
            defineData ref (toString i) (.str (ofUnits [c])) true true true
        | _ => pure ()
    pure (.obj ref)
termination_by structural f _ _ => f

/-- Evaluates a property key. -/
def evalKey : Nat -> Nat -> Key -> Eval String
  | 0, _, _ => throw .exhausted
  | fuel + 1, env, key => do
    match key with
    | .named n => pure n
    | .computed e => toKey fuel (<- evalExpr fuel env e)
    | .privateName n => privateKey env n
termination_by structural f _ _ => f

/-- Reads a name. -/
def lookupName : Nat -> Nat -> String -> Eval Value
  | 0, _, _ => throw .exhausted
  | fuel + 1, env, name => do
    match <- lookupBinding env name with
    | some (_, b) =>
      match b.value with
      | some v => pure v
      | none => raiseError .referenceError ("Cannot access '" ++ name ++ "' before initialization")
    | none =>
      match <- globalSlot name with
      | some (.data v _ _ _) => pure v
      | some (.accessor (some g) _ _ _) => call fuel (.obj g) (.obj (<- get).global) []
      | some _ => pure .undefined
      | none => raiseError .referenceError (name ++ " is not defined")
termination_by structural f _ _ => f

/-- Assigns to a name: its binding, or a property of the global object. -/
def assignName : Nat -> Nat -> String -> Value -> Eval Unit
  | 0, _, _, _ => throw .exhausted
  | fuel + 1, env, name, v => do
    match <- lookupBinding env name with
    | some (scope, b) =>
      if b.value.isNone then raiseError .referenceError ("Cannot access '" ++ name ++ "' before initialization")
      if !b.mutable then throwType "Assignment to constant variable."
      setBinding scope name v
    | none =>
      if (← globalSlot name).isNone then
        if (<- isStrict env) then raiseError .referenceError (name ++ " is not defined")
      putV fuel (.obj (<- get).global) name v
termination_by structural f _ _ _ => f

/-- A unary operator. -/
def evalUnary : Nat -> Nat -> String -> Expr -> Eval Value
  | 0, _, _, _ => throw .exhausted
  | fuel + 1, env, op, arg => do
    match op with
    | "typeof" =>
      match arg with
      | .ident n =>
        match <- lookupBinding env n with
        | some _ => pure (.str (<- typeOf (<- lookupName fuel env n)))
        | none =>
          if (<- globalSlot n).isSome then pure (.str (<- typeOf (<- lookupName fuel env n)))
          else pure (.str "undefined")
      | _ => pure (.str (<- typeOf (<- evalExpr fuel env arg)))
    | "delete" =>
      match arg with
      | .member o n _ =>
        match <- evalExpr fuel env o with
        | .obj r => deleteV fuel env r n
        | .undefined => throwType ("Cannot convert undefined or null to object")
        | .null => throwType ("Cannot convert undefined or null to object")
        | _ => pure (.bool true)
      | .index o k _ =>
        let ov <- evalExpr fuel env o
        let key <- toKey fuel (<- evalExpr fuel env k)
        match ov with
        | .obj r => deleteV fuel env r key
        | .undefined => throwType ("Cannot convert undefined or null to object")
        | .null => throwType ("Cannot convert undefined or null to object")
        | _ => pure (.bool true)
      | .ident n =>
        match <- lookupBinding env n with
        | some _ => pure (.bool false)
        | none => pure (.bool (<- deleteProperty (<- get).global n))
      | _ =>
        let _ <- evalExpr fuel env arg
        pure (.bool true)
    | "void" =>
      let _ <- evalExpr fuel env arg
      pure .undefined
    | "!" => pure (.bool !(<- evalExpr fuel env arg).truthy)
    | "-" =>
      match <- toNumeric fuel (<- evalExpr fuel env arg) with
      | .bigint n => pure (.bigint (-n))
      | v => pure (.num (-v.primitiveNumber))
    | "+" => pure (.num (<- toNum fuel (<- evalExpr fuel env arg)))
    | "~" =>
      match <- toNumeric fuel (<- evalExpr fuel env arg) with
      | .bigint n => pure (.bigint (-n - 1))
      | v => pure (.num (intToFloat (-(toInt32 v.primitiveNumber) - 1)))
    | _ => pure .undefined
termination_by structural f _ _ _ => f

/-- `++` and `--`, before or after their target. -/
def evalUpdate : Nat -> Nat -> String -> Bool -> Expr -> Eval Value
  | 0, _, _, _, _ => throw .exhausted
  | fuel + 1, env, op, isPrefix, target => do
    let up := op == "++"
    match target with
    | .ident n =>
      let old <- toNumeric fuel (<- lookupName fuel env n)
      assignName fuel env n (stepNumeric old up)
      pure (if isPrefix then stepNumeric old up else old)
    | .member o k _ =>
      let ov <- evalExpr fuel env o
      let old <- toNumeric fuel (<- getV fuel ov k)
      assignV fuel env ov k (stepNumeric old up)
      pure (if isPrefix then stepNumeric old up else old)
    | .index o k _ =>
      let ov <- evalExpr fuel env o
      let key <- toKey fuel (<- evalExpr fuel env k)
      let old <- toNumeric fuel (<- getV fuel ov key)
      assignV fuel env ov key (stepNumeric old up)
      pure (if isPrefix then stepNumeric old up else old)
    | .privateMember o n _ =>
      let ov <- evalExpr fuel env o
      let key <- privateKey env n
      let old <- toNumeric fuel (<- privateGet fuel ov key n)
      privatePut fuel ov key n (stepNumeric old up)
      pure (if isPrefix then stepNumeric old up else old)
    | _ => raiseError .syntaxError "Invalid left-hand side expression in postfix operation"
termination_by structural f _ _ _ _ => f

/-- An assignment, plain or compound. -/
def evalAssign : Nat -> Nat -> String -> Pattern -> Expr -> Eval Value
  | 0, _, _, _, _ => throw .exhausted
  | fuel + 1, env, op, target, value => do
    if op == "=" then
      match target with
      | .name n =>
        let v <- evalInit fuel env value n
        assignName fuel env n v
        pure v
      | .expr (.member o k _) =>
        let ov <- evalExpr fuel env o
        let v <- evalExpr fuel env value
        assignV fuel env ov k v
        pure v
      | .expr (.index o k _) =>
        let ov <- evalExpr fuel env o
        let kv <- evalExpr fuel env k
        let v <- evalExpr fuel env value
        let key <- toKey fuel kv
        assignV fuel env ov key v
        pure v
      | .expr (.privateMember o n _) =>
        let ov <- evalExpr fuel env o
        let key <- privateKey env n
        let v <- evalExpr fuel env value
        privatePut fuel ov key n v
        pure v
      | p =>
        let v <- evalExpr fuel env value
        bindPattern fuel env p v .assign
        pure v
    else
      -- read the target once, combine, write back
      let (read, write) : Eval Value × (Value -> Eval Unit) <- match target with
        | .name n => pure (lookupName fuel env n, assignName fuel env n)
        | .expr (.member o k _) => do
          let ov <- evalExpr fuel env o
          pure (getV fuel ov k, assignV fuel env ov k)
        | .expr (.index o k _) => do
          let ov <- evalExpr fuel env o
          let key <- toKey fuel (<- evalExpr fuel env k)
          pure (getV fuel ov key, assignV fuel env ov key)
        | .expr (.privateMember o n _) => do
          let ov <- evalExpr fuel env o
          let key <- privateKey env n
          pure (privateGet fuel ov key n, privatePut fuel ov key n)
        | _ => raiseError .syntaxError "Invalid left-hand side in assignment"
      let cur <- read
      let name := match target with
        | .name n => n
        | _ => ""
      if op == "&&=" then
        if !cur.truthy then return cur
        let v <- evalInit fuel env value name
        write v
        pure v
      else if op == "||=" then
        if cur.truthy then return cur
        let v <- evalInit fuel env value name
        write v
        pure v
      else if op == "??=" then
        if !cur.isNullish then return cur
        let v <- evalInit fuel env value name
        write v
        pure v
      else
        let v <- evalExpr fuel env value
        let r <- binaryOp fuel (String.ofList (op.toList.dropLast)) cur v
        write r
        pure r
termination_by structural f _ _ _ _ => f

/-- A call: the callee with its `this`, the arguments, then the call. -/
def evalCall : Nat -> Nat -> Expr -> List Item -> Bool -> Site -> Eval Value
  | 0, _, _, _, _, _ => throw .exhausted
  | fuel + 1, env, callee, args, optional, place => do
    let (f, thisV) <- match callee with
      | .member o n opt => do
        let ov <- evalExpr fuel env o
        if opt && ov.isNullish then throw .shortCircuit
        pure (<- getV fuel ov n, ov)
      | .index o k opt => do
        let ov <- evalExpr fuel env o
        if opt && ov.isNullish then throw .shortCircuit
        let key <- toKey fuel (<- evalExpr fuel env k)
        pure (<- getV fuel ov key, ov)
      | .superMember n => do
        let thisV <- resolveThis env
        pure (<- superGet fuel env thisV n, thisV)
      | .privateMember o n opt => do
        let ov <- evalExpr fuel env o
        if opt && ov.isNullish then throw .shortCircuit
        pure (<- privateGet fuel ov (<- privateKey env n) n, ov)
      | _ => do pure (<- evalExpr fuel env callee, Value.undefined)
    if optional && f.isNullish then throw .shortCircuit
    let argVals <- evalArgs fuel env args
    markSite place
    if !(<- isCallable f) then throwType (callee.calleeText ++ " is not a function")
    -- a call by the name `eval` of the global `eval` runs the code in the caller's scope
    match callee, f with
    | .ident "eval", .obj r =>
      if r == (<- intrinsics).evalFunction then evalCode fuel env (argVals.headD .undefined)
      else call fuel f thisV argVals
    | _, _ => call fuel f thisV argVals
termination_by structural f _ _ _ _ _ => f

/-- `super(…)` in a derived constructor: builds `this` with the parent constructor. -/
def evalSuperCall : Nat -> Nat -> List Item -> Eval Value
  | 0, _, _ => throw .exhausted
  | fuel + 1, env, args => do
    let fs <- functionScope env
    let s <- getScope fs
    let some callee := s.callee | raiseError .syntaxError "'super' keyword unexpected here"
    let argVals <- evalArgs fuel env args
    let parent := match (<- getObj callee).proto with
      | some p => Value.obj p
      | none => .null
    if !(<- isConstructor parent) then throwType "Super constructor null of anonymous class is not a constructor"
    let result <- construct fuel parent argVals (s.newTarget.getD (.obj callee))
    match (<- getScope fs).this with
    | .bound _ => raiseError .referenceError "Super constructor may only be called once"
    | _ => pure ()
    modifyScope fs fun s => { s with this := .bound result }
    initFields fuel callee result
    pure result
termination_by structural f _ _ => f

/-- `super.name`: the property found from the prototype of the home object, read with this
`this`. -/
def superGet : Nat -> Nat -> Value -> String -> Eval Value
  | 0, _, _, _ => throw .exhausted
  | fuel + 1, env, thisV, n => do
    let some home <- homeObject env | raiseError .syntaxError "'super' keyword unexpected here"
    match (<- getObj home).proto with
    | some p =>
      match <- findSlot n (<- heapBound) p with
      | some (.data v _ _ _) => pure v
      | some (.accessor (some g) _ _ _) => call fuel (.obj g) thisV []
      | _ => pure .undefined
    | none => pure .undefined
termination_by structural f _ _ _ => f

/-- Reads the private member `#name` under its key; an object without it is refused. -/
def privateGet : Nat -> Value -> String -> String -> Eval Value
  | 0, _, _, _ => throw .exhausted
  | fuel + 1, v, key, name => do
    let slot <- match v with
      | .obj r => pure ((<- getObj r).findPrivate? key)
      | _ => pure none
    match slot with
    | some (.data x _ _ _) => pure x
    | some (.accessor (some g) _ _ _) => call fuel (.obj g) v []
    | some (.accessor none _ _ _) => throwType ("'#" ++ name ++ "' was defined without a getter")
    | none =>
      throwType ("Cannot read private member #" ++ name ++ " from an object whose class did not declare it")
termination_by structural f _ _ _ => f

/-- Writes the private member `#name` under its key: a field takes the value, a setter is called;
methods, lone getters and objects without it refuse. -/
def privatePut : Nat -> Value -> String -> String -> Value -> Eval Unit
  | 0, _, _, _, _ => throw .exhausted
  | fuel + 1, v, key, name, x => do
    let refused {α : Type} : Eval α :=
      throwType ("Cannot write private member #" ++ name ++ " to an object whose class did not declare it")
    match v with
    | .obj r =>
      match (<- getObj r).findPrivate? key with
      | some (.data _ true e c) => modifyObj r fun o => o.setPrivate key (.data x true e c)
      | some (.data _ false _ _) => throwType ("Private method '#" ++ name ++ "' is not writable")
      | some (.accessor _ (some st) _ _) =>
        let _ <- call fuel (.obj st) v [x]
        pure ()
      | some (.accessor _ none _ _) => throwType ("'#" ++ name ++ "' was defined without a setter")
      | none => refused
    | _ => refused
termination_by structural f _ _ _ _ => f

/-- A binary operator on two values. -/
def binaryOp : Nat -> String -> Value -> Value -> Eval Value
  | 0, _, _, _ => throw .exhausted
  | fuel + 1, op, a, b => do
    match op with
    | "+" =>
      let pa <- toPrimitive fuel a .default
      let pb <- toPrimitive fuel b .default
      match pa, pb with
      | .str x, _ => pure (.str (joinText x (<- primitiveString pb)))
      | _, .str y => pure (.str (joinText (<- primitiveString pa) y))
      | _, _ => numericBinary "+" (<- primitiveNumeric pa) (<- primitiveNumeric pb)
    | "===" => pure (.bool (strictEquals a b))
    | "!==" => pure (.bool !(strictEquals a b))
    | "==" => pure (.bool (<- looseEquals fuel a b))
    | "!=" => pure (.bool !(<- looseEquals fuel a b))
    | "<" => pure (.bool ((<- lessThan fuel a b true).getD false))
    | ">" => pure (.bool ((<- lessThan fuel b a false).getD false))
    | "<=" => pure (.bool (match ← lessThan fuel b a false with
        | some r => !r
        | none => false))
    | ">=" => pure (.bool (match ← lessThan fuel a b true with
        | some r => !r
        | none => false))
    | "instanceof" => instanceOf fuel a b
    | "in" =>
      match b with
      | .obj r => pure (.bool (<- hasV fuel r (<- toKey fuel a)))
      | _ => throwType ("Cannot use 'in' operator to search for '" ++ (<- toKey fuel a) ++ "' in " ++ (<- describeValue b))
    | _ =>
      let x <- toNumeric fuel a
      let y <- toNumeric fuel b
      numericBinary op x y
termination_by structural f _ _ _ => f

/-- `a instanceof b`. -/
def instanceOf : Nat -> Value -> Value -> Eval Value
  | 0, _, _ => throw .exhausted
  | fuel + 1, a, b => do
    if !b.isObject then throwType "Right-hand side of 'instanceof' is not an object"
    let custom <- getV fuel b (wellKnownKey "hasInstance")
    if !custom.isNullish then
      return .bool (<- call fuel custom b [a]).truthy
    if !(<- isCallable b) then throwType "Right-hand side of 'instanceof' is not callable"
    let target <- match b with
      | .obj r => match (<- getObj r).kind with
        | .bound t _ _ => pure (Value.obj t)
        | _ => pure b
      | _ => pure b
    match a with
    | .obj r =>
      match <- getV fuel target "prototype" with
      | .obj p => pure (.bool (<- inheritsFrom p (<- heapBound) r))
      | _ => throwType "Function has non-object prototype 'undefined' in instanceof check"
    | _ => pure (.bool false)
termination_by structural f _ _ => f

/-- `==`. -/
def looseEquals : Nat -> Value -> Value -> Eval Bool
  | 0, _, _ => throw .exhausted
  | fuel + 1, a, b => do
    if a.isNullish || b.isNullish then return a.isNullish && b.isNullish
    match a, b with
    | .obj x, .obj y => pure (x == y)
    | .obj _, _ => looseEquals fuel (<- toPrimitive fuel a .default) b
    | _, .obj _ => looseEquals fuel a (<- toPrimitive fuel b .default)
    | _, _ => pure (primitiveLooseEquals a b)
termination_by structural f _ _ => f

/-- `a < b`, or `none` when a NaN is involved; `leftFirst` orders the conversions. -/
def lessThan : Nat -> Value -> Value -> Bool -> Eval (Option Bool)
  | 0, _, _, _ => throw .exhausted
  | fuel + 1, a, b, leftFirst => do
    let (pa, pb) ← if leftFirst then do
        let pa <- toPrimitive fuel a .number
        pure (pa, <- toPrimitive fuel b .number)
      else do
        let pb <- toPrimitive fuel b .number
        pure (<- toPrimitive fuel a .number, pb)
    match pa, pb with
    | .str x, .str y => pure (some (unitsLess x y))
    | .bigint x, .str y => pure ((textToInt? y).map (x < ·))
    | .str x, .bigint y => pure ((textToInt? x).map (· < y))
    | _, _ =>
      match <- primitiveNumeric pa, <- primitiveNumeric pb with
      | .bigint x, .bigint y => pure (some (x < y))
      | .bigint x, other => pure ((compareIntFloat x other.primitiveNumber).map (· == .lt))
      | other, .bigint y => pure ((compareIntFloat y other.primitiveNumber).map (· == .gt))
      | na, nb =>
        let x := na.primitiveNumber
        let y := nb.primitiveNumber
        if x.isNaN || y.isNaN then pure none else pure (some (x < y))
termination_by structural f _ _ _ => f

/-- Converts an object to a primitive by its `valueOf` and `toString` methods, in the order
the hint asks for; dates prefer their text. -/
def toPrimitive : Nat -> Value -> Hint -> Eval Value
  | 0, _, _ => throw .exhausted
  | fuel + 1, v, hint => do
    match v with
    | .obj r =>
      let o <- getObj r
      let hint := match o.kind, hint with
        | .date _, .default => Hint.string
        | _, h => h
      let exotic <- getV fuel v (wellKnownKey "toPrimitive")
      if !exotic.isNullish then
        if !(← isCallable exotic) then
          throwType ((<- describeValue exotic) ++ " is not a function")
        let hintText := match hint with
          | .string => "string"
          | .number => "number"
          | .default => "default"
        match <- call fuel exotic v [.str hintText] with
        | .obj _ => throwType "Cannot convert object to primitive value"
        | p => return p
      let order := if hint == .string then ["toString", "valueOf"] else ["valueOf", "toString"]
      for m in order do
        let f <- getV fuel v m
        if ← isCallable f then
          let res <- call fuel f v []
          match res with
          | .obj _ => pure ()
          | p => return p
      throwType "Cannot convert object to primitive value"
    | _ => pure v
termination_by structural f _ _ => f

/-- Converts a value to text. -/
def toStr : Nat -> Value -> Eval String
  | 0, _ => throw .exhausted
  | fuel + 1, v => do
    match v with
    | .obj _ => primitiveString (<- toPrimitive fuel v .string)
    | _ => primitiveString v
termination_by structural f _ => f

/-- Converts a value to a number. -/
def toNum : Nat -> Value -> Eval Float
  | 0, _ => throw .exhausted
  | fuel + 1, v => do
    match v with
    | .obj _ => primitiveToNumber (<- toPrimitive fuel v .number)
    | _ => primitiveToNumber v
termination_by structural f _ => f

/-- Converts a value to a number or an integer, as arithmetic does. -/
def toNumeric : Nat -> Value -> Eval Value
  | 0, _ => throw .exhausted
  | fuel + 1, v => do
    match v with
    | .obj _ => primitiveNumeric (<- toPrimitive fuel v .number)
    | _ => primitiveNumeric v
termination_by structural f _ => f

/-- Converts a value to a property key. -/
def toKey : Nat -> Value -> Eval String
  | 0, _ => throw .exhausted
  | fuel + 1, v => do
    match v with
    | .symbol id d => pure (symbolKey id d)
    | .obj _ =>
      match <- toPrimitive fuel v .string with
      | .symbol id d => pure (symbolKey id d)
      | p => primitiveString p
    | _ => toStr fuel v
termination_by structural f _ => f

/-- Reads a property of a value; a proxy asks its `get` trap. -/
def getV : Nat -> Value -> String -> Eval Value
  | 0, _, _ => throw .exhausted
  | fuel + 1, v, key => do
    if let .obj ref := v then
      if let .proxy target handler _ revoked := (← getObj ref).kind then
        if revoked then throwType "Cannot perform 'get' on a proxy that has been revoked"
        let trap <- getV fuel (.obj handler) "get"
        if trap.isNullish then return <- getV fuel (.obj target) key
        let result <- call fuel trap (.obj handler) [.obj target, keyValue key, v]
        -- a fixed data property of the target must be reported as it is
        if let some (.data actual false _ false) ← ownSlotOf target key then
          if !sameValue actual result then
            let shown (x : Value) : Eval String := match x with
              | .obj _ => describeValue x
              | _ => pure x.primitiveText
            throwType ("'get' on proxy: property '" ++ keyText key ++ "' is a read-only and " ++
              "non-configurable data property on the proxy target but the proxy did not return its " ++
              "actual value (expected '" ++ (<- shown actual) ++ "' but got '" ++ (<- shown result) ++ "')")
        return result
    getProperty (call fuel) v key
termination_by structural f _ _ => f

/-- Deletes a property as the `delete` operator in code run in scope `env` does; a proxy asks
its `deleteProperty` trap, whose refusal strict code reports. -/
def deleteV : Nat -> Nat -> Nat -> String -> Eval Value
  | 0, _, _, _ => throw .exhausted
  | fuel + 1, env, r, key => do
    if let .proxy target handler _ revoked := (← getObj r).kind then
      if revoked then throwType "Cannot perform 'deleteProperty' on a proxy that has been revoked"
      let trap <- getV fuel (.obj handler) "deleteProperty"
      if trap.isNullish then return <- deleteV fuel env target key
      if (<- call fuel trap (.obj handler) [.obj target, keyValue key]).truthy then return .bool true
      if ← isStrict env then
        throwType ("'deleteProperty' on proxy: trap returned falsish for property '" ++ keyText key ++ "'")
      return .bool false
    deleteIn env r key
termination_by structural f _ _ _ => f

/-- Whether an object has a property, on itself or its prototype chain; a proxy asks its `has`
trap. -/
def hasV : Nat -> Nat -> String -> Eval Bool
  | 0, _, _ => throw .exhausted
  | fuel + 1, ref, key => do
    if let .proxy target handler _ revoked := (← getObj ref).kind then
      if revoked then throwType "Cannot perform 'has' on a proxy that has been revoked"
      let trap <- getV fuel (.obj handler) "has"
      if trap.isNullish then return <- hasV fuel target key
      return (<- call fuel trap (.obj handler) [.obj target, keyValue key]).truthy
    hasProperty ref key
termination_by structural f _ _ => f

/-- Writes a property of a value; the result says why the write did not take place, if it did
not. -/
def putChecked : Nat -> Value -> String -> Value -> Eval (Option Refusal)
  | 0, _, _, _ => throw .exhausted
  | fuel + 1, v, key, x => do
    if let .obj ref := v then
      if let .proxy target handler _ revoked := (← getObj ref).kind then
        if revoked then throwType "Cannot perform 'set' on a proxy that has been revoked"
        let trap <- getV fuel (.obj handler) "set"
        if trap.isNullish then
          -- the proxy receives the new property: through its `defineProperty` trap, if it has one
          let define <- getV fuel (.obj handler) "defineProperty"
          match define, <- findSlot key (<- heapBound) target with
          | .obj _, none | .obj _, some (.data _ true _ _) =>
            let d <- newObject
            defineData d "value" x true true true
            if (← ownSlotOf target key).isNone then
              for field in ["writable", "enumerable", "configurable"] do
                defineData d field (.bool true) true true true
            let done <- call fuel define (.obj handler) [.obj target, keyValue key, .obj d]
            return (if done.truthy then none else some .readOnly)
          | _, _ => return <- putChecked fuel (.obj target) key x
        let done <- call fuel trap (.obj handler) [.obj target, keyValue key, x, v]
        return (if done.truthy then none else some .readOnly)
    -- an element of a typed array takes the converted value, even at an index it lacks
    if let .obj ref := v then
      if let .typedArray kind .. := (← getObj ref).kind then
        if isNumericKey key then
          let e <- if kind.isBig then Element.integer <$> primitiveToBigInt (<- toPrimitive fuel x .number)
            else Element.number <$> toNum fuel x
          if let some i := arrayIndex? key then writeElement ref i e
          return none
    putProperty (call fuel) v key x
termination_by structural f _ _ _ => f

/-- Writes a property of a value; a write that does not take place is ignored. -/
def putV : Nat -> Value -> String -> Value -> Eval Unit
  | 0, _, _, _ => throw .exhausted
  | fuel + 1, v, key, x => do
    let _ <- putChecked fuel v key x
termination_by structural f _ _ _ => f

/-- Writes a property; a write that does not take place is a type error. -/
def strictPut : Nat -> Value -> String -> Value -> Eval Unit
  | 0, _, _, _ => throw .exhausted
  | fuel + 1, v, key, x => do
    match <- putChecked fuel v key x with
    | none => pure ()
    | some r => throwType (<- refusalMessage r v key)
termination_by structural f _ _ _ => f

/-- Writes a property as an assignment in code run in scope `env` does: in strict code, a write
that does not take place is a type error. -/
def assignV : Nat -> Nat -> Value -> String -> Value -> Eval Unit
  | 0, _, _, _, _ => throw .exhausted
  | fuel + 1, env, v, key, x => do
    match <- putChecked fuel v key x with
    | none => pure ()
    | some r => if (<- isStrict env) then throwType (<- refusalMessage r v key)
termination_by structural f _ _ _ _ => f

/-- The values a value iterates over; `shown` names it in the error. -/
def iterate : Nat -> Value -> String -> Eval (Array Value)
  | 0, _, _ => throw .exhausted
  | fuel + 1, v, shown => do
    let (it, next) <- openIterator fuel v shown
    iterateNext fuel it next #[]
termination_by structural f _ _ => f

/-- Collects the values of an iterator until it is done. -/
def iterateNext : Nat -> Value -> Value -> Array Value -> Eval (Array Value)
  | 0, _, _, _ => throw .exhausted
  | fuel + 1, it, next, acc => do
    let mut acc := acc
    for _ in [0:iterationBound] do
      match <- nextValue fuel it next with
      | none => return acc
      | some v => acc := acc.push v
    throw .exhausted
termination_by structural f _ _ _ => f

/-- Calls a function. -/
def call : Nat -> Value -> Value -> List Value -> Eval Value
  | 0, _, _, _ => throw .exhausted
  | fuel + 1, f, thisV, args => do
    match f with
    | .obj r =>
      let o <- getObj r
      match o.kind with
      | .closure fn scope kind home _ =>
        match kind with
        | .classCtor _ =>
          throwType ("Class constructor " ++ (fn.name.getD (functionName o)) ++ " cannot be invoked without 'new'")
        | _ =>
          let this <- if fn.arrow then pure ThisState.inherit
            else if fn.strict then pure (.bound thisV)
            else if thisV.isNullish then pure (.bound (.obj (<- get).global))
            else match thisV with
              | .obj _ => pure (.bound thisV)
              | _ => pure (.bound (.obj (<- boxValue thisV)))
          if fn.isGenerator then startGenerator fuel r fn scope home this args
          else if fn.isAsync then startAsync fuel r fn scope home this args
          else
            let (v, _) <- invoke fuel r fn scope home this args none
            pure v
      | .native id _ =>
        let host : Host := { call := call fuel, construct := fun c a => construct fuel c a c,
                             get := getV fuel, put := putV fuel, assign := strictPut fuel,
                             toPrimitive := toPrimitive fuel,
                             iterate := fun x => do iterate fuel x (<- describeValue x),
                             evalGlobal := fun x => do evalCode fuel (<- get).globalScope x,
                             resume := resumeGenerator fuel }
        enterCall nativeFrameSlots
        let r <- nativeAt id host thisV args none
        leaveCall nativeFrameSlots
        pure r
      | .bound target bthis bargs => call fuel (.obj target) bthis (bargs ++ args)
      | .proxy target handler true revoked =>
        if revoked then throwType "Cannot perform 'apply' on a proxy that has been revoked"
        let trap <- getV fuel (.obj handler) "apply"
        if trap.isNullish then call fuel (.obj target) thisV args
        else call fuel trap (.obj handler) [.obj target, thisV, <- newArray args.toArray]
      | _ => throwType ((<- describeValue f) ++ " is not a function")
    | _ => throwType ((<- describeValue f) ++ " is not a function")
termination_by structural f _ _ _ => f

/-- The scope of a call of a function: `this`, the parameters bound to the arguments, and the
names the body declares. -/
def enterFunction : Nat -> Nat -> Func -> Nat -> Option Nat -> ThisState -> List Value -> Option Value ->
    Eval Nat
  | 0, _, _, _, _, _, _, _ => throw .exhausted
  | fuel + 1, fnRef, fn, scope, home, this, args, newTarget => do
    match fn with
    | .mk _ params rest body _ arrow _ source _ _ _ =>
      -- parameters that are distinct plain names are bound as the scope is made
      let names := params.filterMap fun
        | .name n => some n
        | _ => none
      let direct := names.length == params.length && names.eraseDups.length == names.length
      let bindings : Array Binding := if direct then
          (names.zipIdx.map fun (n, i) =>
            { name := n, value := some (args.getD i .undefined), mutable := true }).toArray
        else #[]
      let fs ← newScope { parent := some scope, this := this, home := home, callee := some fnRef,
                          newTarget := newTarget, strict := some fn.strict, bindings }
      if !arrow && !names.contains "arguments" && (source.splitOn "arguments").length > 1 then
        declareIn fs "arguments" (some (<- makeArguments args)) true
      if !direct then bindParams fuel fs params args
      match rest with
      | some r =>
        let restArr <- newArray (args.drop params.length).toArray
        bindPattern fuel fs r restArr (.declare fs true)
      | none => pure ()
      declareBody fs body
      pure fs
termination_by structural f _ _ _ _ _ _ _ => f

/-- Runs a function body in a new scope: binds the parameters, declares the body's names, and
evaluates it; the result is the returned value and the function's scope. -/
def invoke : Nat -> Nat -> Func -> Nat -> Option Nat -> ThisState -> List Value -> Option Value ->
    Eval (Value × Nat)
  | 0, _, _, _, _, _, _, _ => throw .exhausted
  | fuel + 1, fnRef, fn, scope, home, this, args, newTarget => do
    let slots := fn.frameSlots args.length
    enterFrame slots fnRef this newTarget.isSome
    let fs <- enterFunction fuel fnRef fn scope home this args newTarget
    let v <- match fn with
      | .mk _ _ _ body concise _ _ _ _ _ _ =>
        match concise with
        | some e => evalExpr fuel fs e
        | none =>
          tryCatch (do let _ <- evalStmts fuel fs body none; pure .undefined) fun a => match a with
            | .returned v => pure v
            | other => throw other
    modify fun r => { r with frames := r.frames.drop 1, depth := r.depth - slots }
    pure (v, fs)
termination_by structural f _ _ _ _ _ _ _ => f

/-- Calls a generator function: the parameters are bound now, and the body waits in a new
generator object until it is first resumed. -/
def startGenerator : Nat -> Nat -> Func -> Nat -> Option Nat -> ThisState -> List Value -> Eval Value
  | 0, _, _, _, _, _, _ => throw .exhausted
  | fuel + 1, fnRef, fn, scope, home, this, args => do
    enterCall (fn.frameSlots args.length)
    let fs <- enterFunction fuel fnRef fn scope home this args none
    let proto <- match <- getV fuel (.obj fnRef) "prototype" with
      | .obj p => pure p
      | _ => pure (<- intrinsics).generatorProto
    let body := match fn with
      | .mk _ _ _ body _ _ _ _ _ _ _ => body
    let g <- alloc { kind := .generator (.suspended [.stmts fs body] .start), proto := some proto }
    leaveCall (fn.frameSlots args.length)
    pure (.obj g)
termination_by structural f _ _ _ _ _ _ => f

/-- Binds parameters to arguments, missing ones to `undefined`. -/
def bindParams : Nat -> Nat -> List Pattern -> List Value -> Eval Unit
  | 0, _, _, _ => throw .exhausted
  | _ + 1, _, [], _ => pure ()
  | fuel + 1, fs, p :: ps, args => do
    bindPattern fuel fs p (args.headD .undefined) (.declare fs true)
    bindParams fuel fs ps args.tail
termination_by structural f _ _ _ => f

/-- Calls a function with `new`. -/
def construct : Nat -> Value -> List Value -> Value -> Eval Value
  | 0, _, _, _ => throw .exhausted
  | fuel + 1, f, args, newTarget => do
    match f with
    | .obj r =>
      let o <- getObj r
      match o.kind with
      | .closure fn scope .plain home _ =>
        let proto <- match <- getV fuel newTarget "prototype" with
          | .obj p => pure p
          | _ => pure (<- intrinsics).objectProto
        let objRef <- alloc { proto := some proto }
        let (v, _) <- invoke fuel r fn scope home (.bound (.obj objRef)) args (some newTarget)
        match v with
        | .obj _ => pure v
        | _ => pure (.obj objRef)
      | .closure fn scope (.classCtor derived) home _ =>
        if derived then
          let (v, fs) <- invoke fuel r fn scope home .pending args (some newTarget)
          match v with
          | .obj _ => pure v
          | _ =>
            match (<- getScope fs).this with
            | .bound t => pure t
            | _ => raiseError .referenceError derivedWithoutSuper
        else
          let proto <- match <- getV fuel newTarget "prototype" with
            | .obj p => pure p
            | _ => pure (<- intrinsics).objectProto
          let objRef <- alloc { proto := some proto }
          initFields fuel r (.obj objRef)
          let (v, _) <- invoke fuel r fn scope home (.bound (.obj objRef)) args (some newTarget)
          match v with
          | .obj _ => pure v
          | _ => pure (.obj objRef)
      | .native id true =>
        let host : Host := { call := call fuel, construct := fun c a => construct fuel c a c,
                             get := getV fuel, put := putV fuel, assign := strictPut fuel,
                             toPrimitive := toPrimitive fuel,
                             iterate := fun x => do iterate fuel x (<- describeValue x),
                             evalGlobal := fun x => do evalCode fuel (<- get).globalScope x,
                             resume := resumeGenerator fuel }
        nativeAt id host .undefined args (some newTarget)
      | .bound target _ bargs =>
        let nt := match newTarget with
          | .obj n => if n == r then Value.obj target else newTarget
          | _ => newTarget
        construct fuel (.obj target) (bargs ++ args) nt
      | .proxy target handler true revoked =>
        if revoked then throwType "Cannot perform 'construct' on a proxy that has been revoked"
        let trap <- getV fuel (.obj handler) "construct"
        let nt := match newTarget with
          | .obj n => if n == r then Value.obj target else newTarget
          | _ => newTarget
        if trap.isNullish then construct fuel (.obj target) args nt
        else
          let made <- call fuel trap (.obj handler) [.obj target, <- newArray args.toArray, newTarget]
          match made with
          | .obj _ => pure made
          | _ => throwType "proxy [[Construct]] must return an object"
      | _ => throwType ((<- describeValue f) ++ " is not a constructor")
    | _ => throwType ((<- describeValue f) ++ " is not a constructor")
termination_by structural f _ _ _ => f

/-- Defines a class's instance fields on a new instance. -/
def initFields : Nat -> Nat -> Value -> Eval Unit
  | 0, _, _ => throw .exhausted
  | fuel + 1, classRef, inst => do
    match (<- getObj classRef).kind with
    | .closure _ scope _ home slots =>
      -- private methods and accessors come first, then the fields in order
      if let .obj r := inst then
        for slot in slots do
          if let .privateSlot k sl := slot then modifyObj r fun o => o.setPrivate k sl
      for slot in slots do
        match slot with
        | .field k isPrivate init =>
          let fieldScope <- newScope { parent := some scope, this := .bound inst, home := home }
          let v <- match init with
            | some e => evalInit fuel fieldScope e (privateShown k)
            | none => pure .undefined
          match inst with
          | .obj r =>
            if isPrivate then
              if ((← getObj r).findPrivate? k).isSome then
                throwType ("Cannot initialize " ++ privateShown k ++ " twice on the same object")
              modifyObj r fun o => o.setPrivate k (.data v true false false)
            else defineData r k v true true true
          | _ => pure ()
        | .privateSlot .. => pure ()
    | _ => pure ()
termination_by structural f _ _ => f

/-- Makes a class. -/
def makeClass : Nat -> Nat -> ClassDef -> String -> Eval Nat
  | 0, _, _, _ => throw .exhausted
  | fuel + 1, env, c, nameHint => do
    match c with
    | .mk cname parent ctor members source =>
      let name := cname.getD nameHint
      let classScope <- newScope { parent := some env }
      if let some n := cname then declareIn classScope n none false
      let i <- intrinsics
      let (protoParent, ctorParent) <- match parent with
        | none => pure (some i.objectProto, some i.functionProto)
        | some pe =>
          let pv <- evalExpr fuel classScope pe
          match pv with
          | .null => pure (none, some i.functionProto)
          | .obj pr =>
            if !(← isConstructor pv) then
              throwType ("Class extends value " ++ (<- describeValue pv) ++ " is not a constructor or null")
            match <- getV fuel pv "prototype" with
            | .obj pp => pure (some pp, some pr)
            | .null => pure (none, some pr)
            | other => throwType ("Class extends value does not have valid prototype property " ++ (<- describeValue other))
          | other => throwType ("Class extends value " ++ (<- describeValue other) ++ " is not a constructor or null")
      let derived := parent.isSome
      let protoRef <- alloc { proto := protoParent }
      let ctorFn := (ctor.getD (defaultConstructor derived source)).withSource source
      let f <- newFunction (.closure ctorFn classScope (.classCtor derived) (some protoRef) []) name ctorFn.length
      modifyObj f fun o => { o with proto := ctorParent }
      defineData f "prototype" (.obj protoRef) false false false
      defineData protoRef "constructor" (.obj f) true false true
      -- each private name of the body stands for a key of this class alone
      for m in members do
        if let some n := m.privateName? then
          declareIn classScope ("#" ++ n) (some (.str ("#" ++ n ++ "@" ++ toString f))) false
      let mut slots : List InstanceSlot := []
      let mut statics : List StaticStep := []
      for m in members do
        match m with
        | .method isStatic key fn =>
          let target := if isStatic then f else protoRef
          let k <- evalKey fuel classScope key
          let mref <- makeFunction classScope fn (privateShown k) (some target)
          match key with
          | .privateName _ =>
            let slot := Slot.data (.obj mref) false false false
            if isStatic then modifyObj f fun o => o.setPrivate k slot
            else slots := slots ++ [.privateSlot k slot]
          | _ => defineData target k (.obj mref) true false true
        | .getter isStatic key fn =>
          let target := if isStatic then f else protoRef
          let k <- evalKey fuel classScope key
          let g <- makeFunction classScope fn ("get " ++ privateShown k) (some target)
          match key with
          | .privateName _ =>
            if isStatic then addPrivateAccessorTo f k (some g) none
            else slots := addPrivateAccessor slots k (some g) none
          | _ => defineAccessor target k (some g) none false
        | .setter isStatic key fn =>
          let target := if isStatic then f else protoRef
          let k <- evalKey fuel classScope key
          let st <- makeFunction classScope fn ("set " ++ privateShown k) (some target)
          match key with
          | .privateName _ =>
            if isStatic then addPrivateAccessorTo f k none (some st)
            else slots := addPrivateAccessor slots k none (some st)
          | _ => defineAccessor target k none (some st) false
        | .field isStatic key value =>
          let k <- evalKey fuel classScope key
          let isPrivate := match key with
            | .privateName _ => true
            | _ => false
          if isStatic then statics := statics ++ [.field k isPrivate value]
          else slots := slots ++ [.field k isPrivate value]
        | .staticBlock fn => statics := statics ++ [.block fn]
      let slotList := slots
      modifyObj f fun o => match o.kind with
        | .closure fn s k h _ => { o with kind := .closure fn s k h slotList }
        | _ => o
      if let some n := cname then declareIn classScope n (some (.obj f)) false
      for entry in statics do
        match entry with
        | .field k isPrivate init =>
          let staticScope <- newScope { parent := some classScope, this := .bound (.obj f), home := some f }
          let v <- match init with
            | some e => evalInit fuel staticScope e (privateShown k)
            | none => pure .undefined
          if isPrivate then modifyObj f fun o => o.setPrivate k (.data v true false false)
          else defineData f k v true true true
        | .block fn =>
          let b <- makeFunction classScope fn "" (some f)
          let _ <- call fuel (.obj b) (.obj f) []
      pure f
termination_by structural f _ _ _ => f

/-- Binds a pattern to a value. -/
def bindPattern : Nat -> Nat -> Pattern -> Value -> BindMode -> Eval Unit
  | 0, _, _, _, _ => throw .exhausted
  | fuel + 1, env, p, v, mode => do
    match p with
    | .name n =>
      match mode with
      | .declare scope mutable => declareIn scope n (some v) mutable
      | .assign => assignName fuel env n v
    | .expr (.member o k _) =>
      let ov <- evalExpr fuel env o
      assignV fuel env ov k v
    | .expr (.index o k _) =>
      let ov <- evalExpr fuel env o
      let key <- toKey fuel (<- evalExpr fuel env k)
      assignV fuel env ov key v
    | .expr (.privateMember o n _) =>
      let ov <- evalExpr fuel env o
      privatePut fuel ov (<- privateKey env n) n v
    | .expr _ => raiseError .syntaxError "Invalid destructuring assignment target"
    | .withDefault inner d =>
      let v <- match v with
        | .undefined =>
          match inner with
          | .name n => evalInit fuel env d n
          | _ => evalExpr fuel env d
        | _ => pure v
      bindPattern fuel env inner v mode
    | .array items rest =>
      let vals ← if rest.isNone then
          let (it, next) <- openIterator fuel v (<- describeValue v)
          takeValues fuel it next items.length #[]
        else iterate fuel v (<- describeValue v)
      bindItems fuel env items vals 0 mode
      match rest with
      | some r =>
        let restArr <- newArray (vals.extract items.length vals.size)
        bindPattern fuel env r restArr mode
      | none => pure ()
    | .object props rest =>
      match v with
      | .undefined => throwType "Cannot destructure 'undefined' as it is undefined."
      | .null => throwType "Cannot destructure 'null' as it is null."
      | _ => pure ()
      let used <- bindProps fuel env props v mode []
      match rest with
      | some n =>
        let restRef <- newObject
        match v with
        | .obj src =>
          for k in ← ownEnumerableKeys src do
            if !(used.contains k) then defineData restRef k (<- getV fuel v k) true true true
        | _ => pure ()
        bindPattern fuel env (.name n) (.obj restRef) mode
      | none => pure ()
termination_by structural f _ _ _ _ => f

/-- Binds the items of an array pattern. -/
def bindItems : Nat -> Nat -> List (Option Pattern) -> Array Value -> Nat -> BindMode -> Eval Unit
  | 0, _, _, _, _, _ => throw .exhausted
  | _ + 1, _, [], _, _, _ => pure ()
  | fuel + 1, env, p :: ps, vals, i, mode => do
    match p with
    | some q => bindPattern fuel env q (vals.getD i .undefined) mode
    | none => pure ()
    bindItems fuel env ps vals (i + 1) mode
termination_by structural f _ _ _ _ _ => f

/-- Binds the members of an object pattern; the keys used are returned for a rest member. -/
def bindProps : Nat -> Nat -> List (Key × Pattern) -> Value -> BindMode -> List String -> Eval (List String)
  | 0, _, _, _, _, _ => throw .exhausted
  | _ + 1, _, [], _, _, used => pure used
  | fuel + 1, env, (key, p) :: rest, v, mode, used => do
    let k <- evalKey fuel env key
    bindPattern fuel env p (<- getV fuel v k) mode
    bindProps fuel env rest v mode (k :: used)
termination_by structural f _ _ _ _ _ => f

/-- Evaluates a statement; `labels` are the labels of the statement when it is a loop. -/
def evalStmt : Nat -> Nat -> List String -> Stmt -> Eval (Option Value)
  | 0, _, _, _ => throw .exhausted
  | fuel + 1, env, labels, s => do
    match s with
    | .expr e => pure (some (<- evalExpr fuel env e))
    | .decl .var items =>
      for (p, init) in items do
        match init with
        | some e =>
          let name := match p with
            | .name n => n
            | _ => ""
          let v <- evalInit fuel env e name
          bindPattern fuel env p v .assign
        | none => pure ()
      pure none
    | .decl kind items =>
      for (p, init) in items do
        let name := match p with
          | .name n => n
          | _ => ""
        let v <- match init with
          | some e => evalInit fuel env e name
          | none => pure .undefined
        bindPattern fuel env p v (.declare env (kind == .letDecl))
      pure none
    | .funcDecl f =>
      -- a function declared in a block also sets the binding of its name in the function or
      -- script around, when that binding was made for it; the statement's value is then the
      -- function
      match f.name with
      | none => pure none
      | some n =>
        let vs <- varScope env
        if vs == env || !((<- getScope vs).blockFunctions.contains n) then pure none
        else
          let v <- lookupName fuel env n
          if vs == (<- get).globalScope then putV fuel (.obj (<- get).global) n v
          else setBinding vs n v
          pure (some v)
    | .classDecl c =>
      let f <- makeClass fuel env c ""
      if let some n := c.name then declareIn env n (some (.obj f)) true
      pure none
    | .ret e =>
      let v <- match e with
        | some e => evalExpr fuel env e
        | none => pure .undefined
      throw (.returned v)
    | .ifThen t y n =>
      if (← evalExpr fuel env t).truthy then
        pure (some ((<- evalStmt fuel env [] y).getD .undefined))
      else match n with
        | some n => pure (some ((<- evalStmt fuel env [] n).getD .undefined))
        | none => pure (some .undefined)
    | .block body => evalBlock fuel env body
    | .throwStmt e => throw (.thrown (<- evalExpr fuel env e))
    | .breakStmt l => throw (.broke l none)
    | .continueStmt l => throw (.continued l none)
    | .labeled l body =>
      tryCatch (evalStmt fuel env (l :: labels) body) fun a => match a with
        | .broke (some l') v => if l' == l then pure v else throw a
        | other => throw other
    | .whileLoop test body => runWhile fuel env labels test body none
    | .doWhile body test => runDoWhile fuel env labels body test none
    | .forLoop init test update body =>
      let (loopEnv, perIteration) <- match init with
        | some (.decl kind items) =>
          if kind == .var then
            let _ <- evalStmt fuel env [] (.decl kind items)
            pure (env, false)
          else
            let scope <- newScope { parent := some env }
            for n in declNames items do declareIn scope n none (kind == .letDecl)
            let _ <- evalStmt fuel scope [] (.decl kind items)
            pure (scope, kind == .letDecl)
        | some s =>
          let _ <- evalStmt fuel env [] s
          pure (env, false)
        | none => pure (env, false)
      let iterEnv <- if perIteration then copyScope loopEnv else pure loopEnv
      runFor fuel iterEnv labels test update body perIteration none
    | .forIn kind target obj body isOf =>
      let v <- evalExpr fuel env obj
      if isOf then
        let (it, next) <- openIterator fuel v obj.calleeText
        runForOf fuel env labels kind target body it next none
      else
        let values := ((<- forInKeys v).map Value.str).toArray
        runForEach fuel env labels kind target body v values.toList none
    | .switchStmt subject cases => evalSwitch fuel env subject cases
    | .tryStmt body param handler finalizer => evalTry fuel env body param handler finalizer
    | .empty => pure none
termination_by structural f _ _ _ => f

/-- Runs a text as script code where `env` is: `var` and function names join the nearest function's
or the global object, lexical names get a scope of their own; the completion value is the result. -/
def evalCode : Nat -> Nat -> Value -> Eval Value
  | 0, _, _ => throw .exhausted
  | fuel + 1, env, source => do
    match source with
    | .str text =>
      match parseProgram text with
      | .error issue => raiseError .syntaxError issue.message
      | .ok (body, directive) =>
        -- strict code keeps its names to itself
        if directive || (← isStrict env) then
          let scope <- newScope { parent := some env, strict := some true }
          for n in listVarNames body do
            declareIn scope n (some .undefined) true
          for (n, c) in lexicalDecls body do
            declareIn scope n none !c
          for fd in functionDecls body do
            match fd.name with
            | some n => declareIn scope n (some (.obj (<- makeFunction scope fd n none))) true
            | none => pure ()
          return ((<- evalStmts fuel scope body none).getD .undefined)
        let vs <- varScope env
        let atTop := vs == (<- get).globalScope
        let g := (<- get).global
        for n in listVarNames body do
          if atTop then
            if ((<- getObj g).findOwn? n).isNone then defineData g n .undefined true true true
          else if !((← getScope vs).bindings.any (·.name == n)) then
            declareIn vs n (some .undefined) true
        let scope <- newScope { parent := some env }
        for (n, c) in lexicalDecls body do
          declareIn scope n none !c
        for fd in functionDecls body do
          match fd.name with
          | some n =>
            let ref <- makeFunction scope fd n none
            if atTop then defineData g n (.obj ref) true true true
            else declareIn vs n (some (.obj ref)) true
          | none => pure ()
        pure ((<- evalStmts fuel scope body none).getD .undefined)
    | other => pure other
termination_by structural f _ _ => f

/-- Evaluates a statement list; a `break` or `continue` takes the value reached so far. -/
def evalStmts : Nat -> Nat -> List Stmt -> Option Value -> Eval (Option Value)
  | 0, _, _, _ => throw .exhausted
  | _ + 1, _, [], last => pure last
  | fuel + 1, env, s :: rest, last => do
    let r <- tryCatch (evalStmt fuel env [] s) fun a => match a with
      | .broke l none => throw (.broke l last)
      | .continued l none => throw (.continued l last)
      | other => throw other
    evalStmts fuel env rest (r.orElse fun _ => last)
termination_by structural f _ _ _ => f

/-- Evaluates a block in its own scope. -/
def evalBlock : Nat -> Nat -> List Stmt -> Eval (Option Value)
  | 0, _, _ => throw .exhausted
  | fuel + 1, env, body => do
    let scope <- blockScope env body
    evalStmts fuel scope body none
termination_by structural f _ _ => f

/-- Runs a loop body once: `some v` to go on with the value so far, `none` when a `break`
ended the loop (with its value in the first component). -/
def loopBody : Nat -> Nat -> List String -> Stmt -> Option Value -> Eval (Option Value × Bool)
  | 0, _, _, _, _ => throw .exhausted
  | fuel + 1, env, labels, body, v => do
    tryCatch (do
        let r <- evalStmt fuel env [] body
        pure (r.orElse fun _ => v, true)) fun a => match a with
      | .continued none r => pure (r.orElse fun _ => v, true)
      | .continued (some l) r =>
        if labels.contains l then pure (r.orElse fun _ => v, true)
        else throw (.continued (some l) (r.orElse fun _ => v))
      | .broke none r => pure (r.orElse fun _ => v, false)
      | .broke l r => throw (.broke l (r.orElse fun _ => v))
      | other => throw other
termination_by structural f _ _ _ _ => f

/-- A `while` loop. -/
def runWhile : Nat -> Nat -> List String -> Expr -> Stmt -> Option Value -> Eval (Option Value)
  | 0, _, _, _, _, _ => throw .exhausted
  | fuel + 1, env, labels, test, body, v => do
    tick
    if !(<- evalExpr fuel env test).truthy then return some (v.getD .undefined)
    let (v, goOn) <- loopBody fuel env labels body v
    if goOn then runWhile fuel env labels test body v else pure (some (v.getD .undefined))
termination_by structural f _ _ _ _ _ => f

/-- A `do … while` loop. -/
def runDoWhile : Nat -> Nat -> List String -> Stmt -> Expr -> Option Value -> Eval (Option Value)
  | 0, _, _, _, _, _ => throw .exhausted
  | fuel + 1, env, labels, body, test, v => do
    tick
    let (v, goOn) <- loopBody fuel env labels body v
    if !goOn then return some (v.getD .undefined)
    if !(<- evalExpr fuel env test).truthy then return some (v.getD .undefined)
    runDoWhile fuel env labels body test v
termination_by structural f _ _ _ _ _ => f

/-- A `for (…; test; update)` loop; with `let` bindings each iteration gets a copy of the
scope. -/
def runFor : Nat -> Nat -> List String -> Option Expr -> Option Expr -> Stmt -> Bool -> Option Value ->
    Eval (Option Value)
  | 0, _, _, _, _, _, _, _ => throw .exhausted
  | fuel + 1, env, labels, test, update, body, perIteration, v => do
    tick
    match test with
    | some t => if !(<- evalExpr fuel env t).truthy then return some (v.getD .undefined)
    | none => pure ()
    let (v, goOn) <- loopBody fuel env labels body v
    if !goOn then return some (v.getD .undefined)
    let env <- if perIteration then copyScope env else pure env
    match update with
    | some u => let _ <- evalExpr fuel env u
    | none => pure ()
    runFor fuel env labels test update body perIteration v
termination_by structural f _ _ _ _ _ _ _ => f

/-- A `for … in` or `for … of` loop over values computed in advance. -/
def runForEach : Nat -> Nat -> List String -> Option DeclKind -> Pattern -> Stmt -> Value -> List Value ->
    Option Value -> Eval (Option Value)
  | 0, _, _, _, _, _, _, _, _ => throw .exhausted
  | _ + 1, _, _, _, _, _, _, [], v => pure (some (v.getD .undefined))
  | fuel + 1, env, labels, kind, target, body, source, x :: rest, v => do
    tick
    -- a key removed before its turn is not visited
    if let (.obj r, .str key) := (source, x) then
      if !(<- hasProperty r key) then return <- runForEach fuel env labels kind target body source rest v
    let iterEnv <- match kind with
      | some .letDecl => newScope { parent := some env }
      | some .constDecl => newScope { parent := some env }
      | _ => pure env
    let mode := match kind with
      | some .letDecl => BindMode.declare iterEnv true
      | some .constDecl => .declare iterEnv false
      | _ => .assign
    bindPattern fuel iterEnv target x mode
    let (v, goOn) <- loopBody fuel iterEnv labels body v
    if goOn then runForEach fuel env labels kind target body source rest v
    else pure (some (v.getD .undefined))
termination_by structural f _ _ _ _ _ _ _ _ => f

/-- A `switch` statement. -/
def evalSwitch : Nat -> Nat -> Expr -> List (Option Expr × List Stmt) -> Eval (Option Value)
  | 0, _, _, _ => throw .exhausted
  | fuel + 1, env, subject, cases => do
    let v <- evalExpr fuel env subject
    let scope <- blockScope env (cases.flatMap (·.2))
    match <- chooseCase fuel scope v cases with
    | none => pure (some .undefined)
    | some i =>
      let body := (cases.drop i).flatMap (·.2)
      tryCatch (do pure (some ((<- evalStmts fuel scope body none).getD .undefined))) fun a => match a with
        | .broke none r => pure (some (r.getD .undefined))
        | other => throw other
termination_by structural f _ _ _ => f

/-- The clause of a `switch` on `v` that runs first: the first whose test equals `v`, else
the `default` one. -/
def chooseCase : Nat -> Nat -> Value -> List (Option Expr × List Stmt) -> Eval (Option Nat)
  | 0, _, _, _ => throw .exhausted
  | fuel + 1, scope, v, cases => do
    let mut start : Option Nat := none
    for ((test, _), i) in cases.zipIdx do
      if start.isNone then
        match test with
        | some t => if strictEquals v (<- evalExpr fuel scope t) then start := some i
        | none => pure ()
    pure (start.orElse fun _ => (cases.zipIdx.find? fun ((t, _), _) => t.isNone).map (·.2))
termination_by structural f _ _ _ => f

/-- A `try` statement. -/
def evalTry : Nat -> Nat -> List Stmt -> Option Pattern -> Option (List Stmt) -> Option (List Stmt) ->
    Eval (Option Value)
  | 0, _, _, _, _, _ => throw .exhausted
  | fuel + 1, env, body, param, handler, finalizer => do
    let saved <- saveCalls
    let attempt (b : Eval (Option Value)) : Eval (Except Abrupt (Option Value)) :=
      tryCatch (do pure (.ok (← b))) fun a => do
        restoreCalls saved
        pure (.error a)
    let r <- attempt (evalBlock fuel env body)
    let r <- match r, handler with
      | .error (.thrown x), some h => attempt (do
          let catchEnv <- newScope { parent := some env }
          match param with
          | some p => bindPattern fuel catchEnv p x (.declare catchEnv true)
          | none => pure ()
          evalBlock fuel catchEnv h)
      | r, _ => pure r
    match r with
    | .error .exhausted => throw .exhausted
    | _ => pure ()
    match finalizer with
    | some f => let _ <- evalBlock fuel env f
    | none => pure ()
    match r with
    | .ok v => pure (some (v.getD .undefined))
    | .error a => throw a
termination_by structural f _ _ _ _ _ => f


/-- The iterator of a value and its `next` method, from its `Symbol.iterator` method. -/
def openIterator : Nat -> Value -> String -> Eval (Value × Value)
  | 0, _, _ => throw .exhausted
  | fuel + 1, v, shown => do
    if v.isNullish then
      throwType (shown ++ " is not iterable (cannot read property Symbol(Symbol.iterator))")
    let method <- getV fuel v (wellKnownKey "iterator")
    if !(<- isCallable method) then throwType (shown ++ " is not iterable")
    let it <- call fuel method v []
    match it with
    | .obj _ => pure (it, <- getV fuel it "next")
    | _ => throwType "Result of the Symbol.iterator method is not an object"
termination_by structural f _ _ => f

/-- The next result of an iterator, which must be an object. -/
def stepIterator : Nat -> Value -> Value -> Eval Value
  | 0, _, _ => throw .exhausted
  | fuel + 1, it, next => do
    let r <- call fuel next it []
    match r with
    | .obj _ => pure r
    | _ => throwType ("Iterator result " ++ (<- describeValue r) ++ " is not an object")
termination_by structural f _ _ => f

/-- The next value an iterator gives, or `none` once it is done. -/
def nextValue : Nat -> Value -> Value -> Eval (Option Value)
  | 0, _, _ => throw .exhausted
  | fuel + 1, it, next => do
    if ← isBuiltinNext next then
      if let .obj r := it then
        match (<- getObj r).kind with
        | .iterator .. | .walker .. =>
          let host : Host := { call := call fuel, construct := fun c a => construct fuel c a c,
                               get := getV fuel, put := putV fuel, assign := strictPut fuel,
                               toPrimitive := toPrimitive fuel,
                               iterate := fun x => do iterate fuel x (<- describeValue x),
                               evalGlobal := fun x => do evalCode fuel (<- get).globalScope x,
                               resume := resumeGenerator fuel }
          return <- host.advanceIterator r
        | _ => pure ()
    tick
    let r <- stepIterator fuel it next
    if (<- getV fuel r "done").truthy then pure none
    else pure (some (<- getV fuel r "value"))
termination_by structural f _ _ => f

/-- Closes an iterator left before its end: calls its `return` method, if it has one. -/
def closeIterator : Nat -> Value -> Eval Unit
  | 0, _ => throw .exhausted
  | fuel + 1, it => do
    let m <- getV fuel it "return"
    if !m.isNullish then
      let r <- call fuel m it []
      match r with
      | .obj _ => pure ()
      | _ => throwType ("Iterator result " ++ (<- describeValue r) ++ " is not an object")
termination_by structural f _ => f

/-- Closes an iterator that an error leaves: the error stands, whatever closing does. -/
def closeQuietly : Nat -> Value -> Eval Unit
  | 0, _ => throw .exhausted
  | fuel + 1, it =>
    tryCatch (closeIterator fuel it) fun a => match a with
      | .exhausted => throw .exhausted
      | _ => pure ()
termination_by structural f _ => f

/-- Takes up to `count` more values from an iterator, closing it when it has more. -/
def takeValues : Nat -> Value -> Value -> Nat -> Array Value -> Eval (Array Value)
  | 0, _, _, _, _ => throw .exhausted
  | fuel + 1, it, _, 0, acc => do
    closeIterator fuel it
    pure acc
  | fuel + 1, it, next, count + 1, acc => do
    match <- nextValue fuel it next with
    | none => pure acc
    | some v => takeValues fuel it next count (acc.push v)
termination_by structural f _ _ _ _ => f

/-- A `for … of` loop over an iterator that gives its values one at a time; a loop left early
closes the iterator. -/
def runForOf : Nat -> Nat -> List String -> Option DeclKind -> Pattern -> Stmt -> Value -> Value ->
    Option Value -> Eval (Option Value)
  | 0, _, _, _, _, _, _, _, _ => throw .exhausted
  | fuel + 1, env, labels, kind, target, body, it, next, v => do
    tick
    let some x <- nextValue fuel it next | return some (v.getD .undefined)
    let (iterEnv, mode) <- roundScope env kind
    let saved <- saveCalls
    let outcome ← tryCatch (do
        bindPattern fuel iterEnv target x mode
        pure (Except.ok (<- loopBody fuel iterEnv labels body v))) fun a => pure (.error a)
    match outcome with
    | .ok (v, true) => runForOf fuel env labels kind target body it next v
    | .ok (v, false) =>
      closeIterator fuel it
      pure (some (v.getD .undefined))
    | .error .exhausted => throw .exhausted
    | .error (.thrown e) =>
      restoreCalls saved
      closeQuietly fuel it
      throw (.thrown e)
    | .error a =>
      closeIterator fuel it
      throw a
termination_by structural f _ _ _ _ _ _ _ _ => f

/-- Resumes a generator object: runs it to its next `yield` or its end. -/
def resumeGenerator : Nat -> Nat -> Resumption -> Eval Value
  | 0, _, _ => throw .exhausted
  | fuel + 1, ref, how => do
    match (<- getObj ref).kind with
    | .generator .running => throwType "Generator is already running"
    | .generator (.suspended frames receiver) =>
      setGenerator ref .running
      let step ← tryCatch (resumeFrames fuel frames receiver how) fun a => do
        setGenerator ref .done
        throw a
      match step with
      | .yielded v frames receiver =>
        setGenerator ref (.suspended frames receiver)
        iterResult v false
      | .finished v =>
        setGenerator ref .done
        iterResult v true
      | .next _ _ =>
        setGenerator ref .done
        iterResult .undefined true
    | _ =>
      match how with
      | .next _ => iterResult .undefined true
      | .throwing v => throw (.thrown v)
      | .returning v => iterResult v true
termination_by structural f _ _ => f

/-- Resumes suspended work as `how` says, the value sent going where `receiver` says. -/
def resumeFrames : Nat -> List Frame -> Receiver -> Resumption -> Eval GenStep
  | 0, _, _, _ => throw .exhausted
  | fuel + 1, frames, receiver, how => do
    match receiver, how with
    | .start, .next _ => drive fuel frames none
    | .start, .throwing v => throw (.thrown v)
    | .start, .returning v => pure (.finished v)
    | .hole scope name, .next v =>
      declareIn scope name (some v) true
      drive fuel frames none
    | .hole _ _, .throwing v => drive fuel frames (some (.thrown v))
    | .hole _ _, .returning v => drive fuel frames (some (.returned v))
    | .delegate, _ =>
      match frames with
      | .delegate scope hole it next :: k =>
        match <- catchInto k (passOn fuel scope hole it next k how) with
        | .next fs signal => drive fuel fs signal
        | other => pure other
      | _ => drive fuel frames none
termination_by structural f _ _ _ => f

/-- Hands a resumption on to the iterator of a `yield*`: `next` to its `next`, `throw` to its
`throw`, `return` to its `return`. -/
def passOn : Nat -> Nat -> String -> Value -> Value -> List Frame -> Resumption -> Eval GenStep
  | 0, _, _, _, _, _, _ => throw .exhausted
  | fuel + 1, scope, hole, it, next, k, how => do
    match how with
    | .next v => delegateResult fuel scope hole it next k (<- call fuel next it [v]) false
    | .throwing v =>
      let m <- getV fuel it "throw"
      if m.isNullish then
        closeIterator fuel it
        throwType "The iterator does not provide a 'throw' method"
      else delegateResult fuel scope hole it next k (<- call fuel m it [v]) false
    | .returning v =>
      let m <- getV fuel it "return"
      if m.isNullish then pure (.next k (some (.returned v)))
      else delegateResult fuel scope hole it next k (<- call fuel m it [v]) true
termination_by structural f _ _ _ _ _ _ => f

/-- What a `yield*` does with a result of its iterator: one not done is handed out; a done one
ends the `yield*` with its value (or, after `return`, the generator). -/
def delegateResult : Nat -> Nat -> String -> Value -> Value -> List Frame -> Value -> Bool ->
    Eval GenStep
  | 0, _, _, _, _, _, _, _ => throw .exhausted
  | fuel + 1, scope, hole, it, next, k, r, returning => do
    match r with
    | .obj _ =>
      if (← getV fuel r "done").truthy then
        let v <- getV fuel r "value"
        if returning then pure (.next k (some (.returned v)))
        else
          declareIn scope hole (some v) true
          pure (.next k none)
      else pure (.yielded (<- getV fuel r "value") (.delegate scope hole it next :: k) .delegate)
    | _ => throwType ("Iterator result " ++ (<- describeValue r) ++ " is not an object")
termination_by structural f _ _ _ _ _ _ _ => f

/-- Calls an `async` function: its body runs at once up to its first `await`, and the result
is the promise its end settles. -/
def startAsync : Nat -> Nat -> Func -> Nat -> Option Nat -> ThisState -> List Value -> Eval Value
  | 0, _, _, _, _, _, _ => throw .exhausted
  | fuel + 1, fnRef, fn, scope, home, this, args => do
    let result <- newPromise
    let callRef <- alloc { kind := .generator .running }
    let saved <- saveCalls
    enterCall (fn.frameSlots args.length)
    let outcome ← tryCatch (do
        let fs <- enterFunction fuel fnRef fn scope home this args none
        let body := match fn with
          | .mk _ _ _ body concise _ _ _ _ _ _ =>
            match concise with
            | some e => [Stmt.ret (some e)]
            | none => body
        pure (Except.ok (<- drive fuel [.stmts fs body] none))) fun a => match a with
      | .thrown e => pure (.error e)
      | other => throw other
    restoreCalls saved
    match outcome with
    | .ok step => asyncStep fuel callRef result step
    | .error e =>
      setGenerator callRef .done
      settlePromise result e true
    pure (.obj result)
termination_by structural f _ _ _ _ _ _ => f

/-- Goes on from a step of an `async` function: at an `await` it waits for the awaited value's
promise; at its end its promise resolves with the value returned. -/
def asyncStep : Nat -> Nat -> Nat -> GenStep -> Eval Unit
  | 0, _, _, _ => throw .exhausted
  | fuel + 1, callRef, result, step => do
    match step with
    | .yielded v frames receiver =>
      setGenerator callRef (.suspended frames receiver)
      let p <- promiseOf (getV fuel · "then") v
      reactTo p (.resumeAsync callRef result) (.resumeAsync callRef result) none
    | .finished v =>
      setGenerator callRef .done
      resolvePromise (getV fuel · "then") result v
    | .next _ _ =>
      setGenerator callRef .done
      resolvePromise (getV fuel · "then") result .undefined
termination_by structural f _ _ _ => f

/-- Runs a generator's frames, `signal` arriving at the top one, until it yields or ends. -/
def drive : Nat -> List Frame -> Option Abrupt -> Eval GenStep
  | 0, _, _ => throw .exhausted
  | fuel + 1, frames, signal => do
    tick
    match <- stepFrames fuel frames signal with
    | .next fs sig => drive fuel fs sig
    | other => pure other
termination_by structural f _ _ => f

/-- One step of a generator's work: what the top frame does with the signal arriving at it. -/
def stepFrames : Nat -> List Frame -> Option Abrupt -> Eval GenStep
  | 0, _, _ => throw .exhausted
  | fuel + 1, frames, signal => do
    match frames, signal with
    | [], none => pure (.finished .undefined)
    | [], some (.returned v) => pure (.finished v)
    | [], some a => throw a
    | .stmts _ [] :: k, none => pure (.next k none)
    | .stmts scope (s :: rest) :: k, none => enterStmt fuel scope [] s 0 (.stmts scope rest :: k)
    | .midway scope labels s holes :: k, none => enterStmt fuel scope labels s holes k
    | .loop scope labels first step perRound started :: k, signal =>
      let round : Eval GenStep := do
        if !started then
          pure (.next (.stmts scope first :: .loop scope labels first step perRound true :: k) none)
        else
          let scope <- if perRound then copyScope scope else pure scope
          pure (.next (.stmts scope step :: .loop scope labels first step perRound true :: k) none)
      match signal with
      | none => round
      | some (.continued none _) => round
      | some (.continued (some l) v) =>
        if labels.contains l then round else pure (.next k (some (.continued (some l) v)))
      | some (.broke none _) => pure (.next k none)
      | some (.broke (some l) v) =>
        if l == loopExit || labels.contains l then pure (.next k none)
        else pure (.next k (some (.broke (some l) v)))
      | some a => pure (.next k (some a))
    | .each scope labels kind target values body :: k, signal =>
      let round : Eval GenStep := catchInto k (do
        match values with
        | [] => pure (.next k none)
        | x :: more =>
          let (iterEnv, mode) <- roundScope scope kind
          bindPattern fuel iterEnv target x mode
          pure (.next (.stmts iterEnv [body] :: .each scope labels kind target more body :: k) none))
      match signal with
      | none => round
      | some (.continued none _) => round
      | some (.continued (some l) v) =>
        if labels.contains l then round else pure (.next k (some (.continued (some l) v)))
      | some (.broke none _) => pure (.next k none)
      | some (.broke (some l) v) =>
        if labels.contains l then pure (.next k none)
        else pure (.next k (some (.broke (some l) v)))
      | some a => pure (.next k (some a))
    | .forOf scope labels kind target it next body :: k, signal =>
      let round : Eval GenStep := catchInto k (do
        match <- nextValue fuel it next with
        | none => pure (.next k none)
        | some x =>
          let (iterEnv, mode) <- roundScope scope kind
          tryCatch (bindPattern fuel iterEnv target x mode) fun a => do
            closeQuietly fuel it
            throw a
          pure (.next (.stmts iterEnv [body] :: .forOf scope labels kind target it next body :: k) none))
      let leave (after : Option Abrupt) : Eval GenStep := catchInto k (do
        closeIterator fuel it
        pure (.next k after))
      match signal with
      | none => round
      | some (.continued none _) => round
      | some (.continued (some l) v) =>
        if labels.contains l then round else leave (some (.continued (some l) v))
      | some (.broke none _) => leave none
      | some (.broke (some l) v) =>
        if labels.contains l then leave none else leave (some (.broke (some l) v))
      | some (.thrown e) =>
        closeQuietly fuel it
        pure (.next k (some (.thrown e)))
      | some a => leave (some a)
    | .guard scope param handler finalizer :: k, signal =>
      match signal, handler with
      | some (.thrown x), some h =>
        catchInto (.handling scope finalizer :: k) (do
          let catchEnv <- newScope { parent := some scope }
          match param with
          | some p => bindPattern fuel catchEnv p x (.declare catchEnv true)
          | none => pure ()
          let b <- blockScope catchEnv h
          pure (.next (.stmts b h :: .handling scope finalizer :: k) none))
      | _, _ => finishTry scope finalizer k signal
    | .handling scope finalizer :: k, signal => finishTry scope finalizer k signal
    | .finishing pending :: k, none => pure (.next k pending)
    | .finishing _ :: k, some a => pure (.next k (some a))
    | .breakTarget l :: k, some (.broke l' v) =>
      if l' == l then pure (.next k none) else pure (.next k (some (.broke l' v)))
    | _ :: k, signal => pure (.next k signal)
termination_by structural f _ _ => f

/-- Starts a statement of a generator's body, `k` the work after it: without a `yield` it runs at
once, with one in its own expressions up to it; any other is laid out as frames. -/
def enterStmt : Nat -> Nat -> List String -> Stmt -> Nat -> List Frame -> Eval GenStep
  | 0, _, _, _, _, _ => throw .exhausted
  | fuel + 1, scope, labels, s, holes, k => catchInto k (do
    if !s.hasYield then
      let _ <- evalStmt fuel scope labels s
      return .next k none
    let roundOf (test : Expr) (body : Stmt) : Stmt :=
      .ifThen test body (some (.breakStmt (some loopExit)))
    match s with
    | .block body =>
      let b <- blockScope scope body
      pure (.next (.stmts b body :: k) none)
    | .labeled l body =>
      pure (.next (.midway scope (l :: labels) body holes :: .breakTarget (some l) :: k) none)
    | .whileLoop test body =>
      let r := roundOf test body
      pure (.next (.loop scope labels [r] [r] false false :: k) none)
    | .doWhile body test =>
      pure (.next (.loop scope labels [body] [roundOf test body] false false :: k) none)
    | .forLoop init test update body =>
      let (loopEnv, perRound) <- match init with
        | some (.decl kind items) =>
          if kind == .var then
            let _ <- evalStmt fuel scope [] (.decl kind items)
            pure (scope, false)
          else
            let inner <- newScope { parent := some scope }
            for n in declNames items do declareIn inner n none (kind == .letDecl)
            let _ <- evalStmt fuel inner [] (.decl kind items)
            pure (inner, kind == .letDecl)
        | some i =>
          let _ <- evalStmt fuel scope [] i
          pure (scope, false)
        | none => pure (scope, false)
      let first <- if perRound then copyScope loopEnv else pure loopEnv
      let r := roundOf (test.getD (.bool true)) body
      let step := (update.map Stmt.expr).toList ++ [r]
      pure (.next (.loop first labels [r] step perRound false :: k) none)
    | .tryStmt body param handler finalizer =>
      let b <- blockScope scope body
      pure (.next (.stmts b body :: .guard scope param handler finalizer :: k) none)
    | .decl kind (item :: second :: more) =>
      pure (.next (.stmts scope [.decl kind [item], .decl kind (second :: more)] :: k) none)
    | _ =>
      match s.takeYield with
      | some site => atYield fuel scope labels holes site k
      | none => layOut fuel scope labels s k)
termination_by structural f _ _ _ _ _ => f

/-- Runs a statement up to its first `yield`, handing out the operand's value, or up to the
part that decides whether the `yield` runs. -/
def atYield : Nat -> Nat -> List String -> Nat -> YieldSite Stmt -> List Frame -> Eval GenStep
  | 0, _, _, _, _, _ => throw .exhausted
  | fuel + 1, scope, labels, holes, site, k => do
    let hole := holeName holes
    match site with
    | .yieldAt arg delegate fill =>
      let v <- match arg with
        | some e => evalExpr fuel scope e
        | none => pure .undefined
      let after := Frame.midway scope labels (fill (.ident hole)) (holes + 1) :: k
      if delegate then
        let shown := (arg.map Expr.calleeText).getD "undefined"
        let (it, next) <- openIterator fuel v shown
        delegateResult fuel scope hole it next after (<- call fuel next it [.undefined]) false
      else pure (.yielded v after (.hole scope hole))
    | .decideAt part test onTrue onFalse =>
      let v <- evalExpr fuel scope part
      declareIn scope hole (some v) true
      let passes := match test with
        | .truthy => v.truthy
        | .nullish => v.isNullish
      let rest := if passes then onTrue (.ident hole) else onFalse (.ident hole)
      pure (.next (.midway scope labels rest (holes + 1) :: k) none)
    | .settle part rest =>
      declareIn scope hole (some (<- evalExpr fuel scope part)) true
      pure (.next (.midway scope labels (rest (.ident hole)) (holes + 1) :: k) none)
termination_by structural f _ _ _ _ _ => f

/-- Lays out a statement whose `yield`s are all in the statements inside it: its own
expressions run now, and the part to run next becomes a frame. -/
def layOut : Nat -> Nat -> List String -> Stmt -> List Frame -> Eval GenStep
  | 0, _, _, _, _ => throw .exhausted
  | fuel + 1, scope, labels, s, k => do
    match s with
    | .ifThen t yes no =>
      let c <- evalExpr fuel scope t
      let chosen := if c.truthy then yes else no.getD .empty
      pure (.next (.stmts scope [chosen] :: k) none)
    | .forIn kind target obj body isOf =>
      let v <- evalExpr fuel scope obj
      if isOf then
        let (it, next) <- openIterator fuel v obj.calleeText
        pure (.next (.forOf scope labels kind target it next body :: k) none)
      else
        let values := ((<- forInKeys v).map Value.str).toArray
        pure (.next (.each scope labels kind target values.toList body :: k) none)
    | .switchStmt subject cases =>
      let v <- evalExpr fuel scope subject
      let inner <- blockScope scope (cases.flatMap (·.2))
      match <- chooseCase fuel inner v cases with
      | none => pure (.next k none)
      | some i =>
        pure (.next (.stmts inner ((cases.drop i).flatMap (·.2)) :: .breakTarget none :: k) none)
    | _ =>
      let _ <- evalStmt fuel scope labels s
      pure (.next k none)
termination_by structural f _ _ _ _ => f

end


/-- Resumes an `async` function waiting at an `await` with what the promise awaited settled
with: its value, or its reason thrown at the `await`. -/
def resumeAsync (fuel callRef result : Nat) (arg : Value) (rejected : Bool) : Eval Unit := do
  match (<- getObj callRef).kind with
  | .generator (.suspended frames receiver) =>
    setGenerator callRef .running
    let how := if rejected then Resumption.throwing arg else .next arg
    let saved <- saveCalls
    let outcome <- tryCatch (do pure (Except.ok (<- resumeFrames fuel frames receiver how)))
      fun a => match a with
        | .thrown e => pure (.error e)
        | other => throw other
    restoreCalls saved
    match outcome with
    | .ok step => asyncStep fuel callRef result step
    | .error e =>
      setGenerator callRef .done
      settlePromise result e true
  | _ => pure ()

/-- What a combination of promises does when one of its elements settles with `arg`. -/
def gatherStep (fuel : Nat) (how : Gather) (state index : Nat) (arg : Value) : Eval Unit := do
  match (<- getObj state).kind with
  | .gathering places remaining result =>
    match how with
    | .resolve => resolvePromise (getV fuel · "then") result arg
    | .reject => settlePromise result arg true
    | _ =>
      let entry <- match how with
        | .settledValue =>
          let o <- newObject
          setField o "status" (.str "fulfilled")
          setField o "value" arg
          pure (Value.obj o)
        | .settledReason =>
          let o <- newObject
          setField o "status" (.str "rejected")
          setField o "reason" arg
          pure (Value.obj o)
        | _ => pure arg
      let places := places.set! index (some entry)
      let remaining := remaining - 1
      modifyObj state fun o => { o with kind := .gathering places remaining result }
      if remaining == 0 then
        let values := places.map (·.getD .undefined)
        if how == .reason then settlePromise result (<- allRejected values) true
        else resolvePromise (getV fuel · "then") result (<- newArray values)
  | _ => pure ()

/-- Runs one job. -/
def runJob (fuel : Nat) (j : Job) : Eval Unit := do
  let getThen := (getV fuel · "then")
  let settleTarget (target : Option Nat) (outcome : Except Value Value) : Eval Unit :=
    match target with
    | none => pure ()
    | some t =>
      match outcome with
      | .ok v => resolvePromise getThen t v
      | .error e => settlePromise t e true
  let attempt (m : Eval Value) : Eval (Except Value Value) := do
    let saved <- saveCalls
    tryCatch (do pure (Except.ok (<- m))) fun a => match a with
      | .thrown e => do
        restoreCalls saved
        pure (.error e)
      | other => throw other
  match j with
  | .react handler arg rejected target =>
    match handler with
    | .passOn => settleTarget target (if rejected then .error arg else .ok arg)
    | .fn f => settleTarget target (<- attempt (call fuel f .undefined [arg]))
    | .constant v throws => settleTarget target (if throws then .error v else .ok v)
    | .finallyFn f =>
      match <- attempt (call fuel f .undefined []) with
      | .error e => settleTarget target (.error e)
      | .ok r =>
        let p <- promiseOf getThen r
        reactTo p (.constant arg rejected) .passOn target
    | .resumeAsync callRef result => resumeAsync fuel callRef result arg rejected
    | .gather how state index => gatherStep fuel how state index arg
  | .adopt p thenable thenFn token =>
    let (resolve, reject) <- resolvingFunctions p token
    match <- attempt (call fuel thenFn thenable [resolve, reject]) with
    | .error e => let _ <- call fuel reject .undefined [e]
    | .ok _ => pure ()

/-- Runs the queued jobs, and the jobs they queue in turn, until none is left; at most
`rounds` times the queue is taken up anew. -/
def runJobs (fuel : Nat) : Nat -> Eval Unit
  | 0 => pure ()
  | rounds + 1 => do
    let js := (<- get).jobs
    if js.isEmpty then return
    modify fun r => { r with jobs := [] }
    for j in js do
      tick
      runJob fuel j
    runJobs fuel rounds

end TranscriptTest.Js
