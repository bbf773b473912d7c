import TranscriptTest.Python.Functions

/-!
# Arithmetic, slices and scopes

The operators on numbers (integers of any size and floats, booleans counting as integers), the
bitwise operators on integers in two's complement, the indices a slice picks, and the lookup and
binding of names through the chain of scopes.
-/

namespace TranscriptTest.Python

/-- The text of a binary operator. -/
def BinOp.symbol : BinOp -> String
  | .add => "+"
  | .sub => "-"
  | .mul => "*"
  | .div => "/"
  | .floorDiv => "//"
  | .mod => "%"
  | .pow => "**"
  | .matMul => "@"
  | .lshift => "<<"
  | .rshift => ">>"
  | .bitAnd => "&"
  | .bitOr => "|"
  | .bitXor => "^"

/-- A negative integer `-(m + 1)` is the complement of `m`: its bits are those of `m` flipped. -/
def complementOf (n : Int) : Nat := (-(n + 1)).toNat

/-- Bitwise and, in two's complement. -/
def intAnd (a b : Int) : Int :=
  if a >= 0 && b >= 0 then (a.toNat &&& b.toNat : Nat)
  else if a >= 0 then (a.toNat - (a.toNat &&& complementOf b) : Nat)
  else if b >= 0 then (b.toNat - (b.toNat &&& complementOf a) : Nat)
  else -((complementOf a ||| complementOf b : Nat) : Int) - 1

/-- Bitwise or, in two's complement. -/
def intOr (a b : Int) : Int :=
  if a >= 0 && b >= 0 then (a.toNat ||| b.toNat : Nat)
  else if a >= 0 then -((complementOf b - (complementOf b &&& a.toNat) : Nat) : Int) - 1
  else if b >= 0 then -((complementOf a - (complementOf a &&& b.toNat) : Nat) : Int) - 1
  else -((complementOf a &&& complementOf b : Nat) : Int) - 1

/-- Bitwise exclusive or, in two's complement. -/
def intXor (a b : Int) : Int :=
  if a >= 0 && b >= 0 then (a.toNat ^^^ b.toNat : Nat)
  else if a >= 0 then -((a.toNat ^^^ complementOf b : Nat) : Int) - 1
  else if b >= 0 then -((complementOf a ^^^ b.toNat : Nat) : Int) - 1
  else (complementOf a ^^^ complementOf b : Nat)

/-- The largest exponent an integer power may have before it is refused as too large to
compute. -/
def powLimit : Nat := 100000

/-- A binary operator on two integers. -/
def intBinop (op : BinOp) (a b : Int) : Run Value := do
  match op with
  | .add => pure (.int (a + b))
  | .sub => pure (.int (a - b))
  | .mul => pure (.int (a * b))
  | .div =>
    if b == 0 then raiseException "ZeroDivisionError" "division by zero"
    pure (.float (intToFloat a / intToFloat b))
  | .floorDiv =>
    if b == 0 then raiseException "ZeroDivisionError" "integer division or modulo by zero"
    pure (.int (Int.fdiv a b))
  | .mod =>
    if b == 0 then raiseException "ZeroDivisionError" "integer modulo by zero"
    pure (.int (Int.fmod a b))
  | .pow =>
    if b ≥ 0 then
      if b.toNat > powLimit && a.natAbs > 1 then raiseException "MemoryError" ""
      pure (.int (Int.pow a b.toNat))
    else if a == 0 then raiseException "ZeroDivisionError" "0.0 cannot be raised to a negative power"
    else pure (.float (Float.pow (intToFloat a) (intToFloat b)))
  | .lshift =>
    if b < 0 then valueError "negative shift count"
    if b.toNat > powLimit && a != 0 then raiseException "MemoryError" ""
    pure (.int (a * Int.pow 2 b.toNat))
  | .rshift =>
    if b < 0 then valueError "negative shift count"
    pure (.int (Int.fdiv a (Int.pow 2 (Nat.min b.toNat (a.natAbs.log2 + 2)))))
  | .bitAnd => pure (.int (intAnd a b))
  | .bitOr => pure (.int (intOr a b))
  | .bitXor => pure (.int (intXor a b))
  | .matMul => typeError "unsupported operand type(s) for @: 'int' and 'int'"

/-- Floor division and remainder of floats, as the reference arithmetic computes them: the
remainder takes the divisor's sign, and the quotient is the nearest whole number to the exact
one. -/
def floatDivMod (a b : Float) : Float × Float :=
  let m := a - b * (a / b).floor
  let m := if m != 0 && ((m < 0) != (b < 0)) then m + b else m
  let m := if m == 0 then (if b < 0 then -0.0 else 0.0) else m
  let d := (a - m) / b
  let fd := d.floor
  let fd := if d - fd > 0.5 then fd + 1 else fd
  (fd, m)

/-- A binary operator on two numbers, one of them a float. -/
def floatBinop (op : BinOp) (a b : Float) : Run Value := do
  match op with
  | .add => pure (.float (a + b))
  | .sub => pure (.float (a - b))
  | .mul => pure (.float (a * b))
  | .div =>
    if b == 0 then raiseException "ZeroDivisionError" "float division by zero"
    pure (.float (a / b))
  | .floorDiv =>
    if b == 0 then raiseException "ZeroDivisionError" "float floor division by zero"
    pure (.float (floatDivMod a b).1)
  | .mod =>
    if b == 0 then raiseException "ZeroDivisionError" "float modulo by zero"
    pure (.float (floatDivMod a b).2)
  | .pow =>
    if a == 0 && b < 0 then raiseException "ZeroDivisionError" "0.0 cannot be raised to a negative power"
    let r := Float.pow a b
    if r.isInf && !a.isInf && !b.isInf then raiseException "OverflowError" "(34, 'Numerical result out of range')"
    pure (.float r)
  | op => typeError ("unsupported operand type(s) for " ++ op.symbol ++ ": 'float' and 'float'")

/-- A binary operator on two numbers. -/
def numBinop (op : BinOp) (a b : Num) : Run Value :=
  match a, b with
  | .int x, .int y => intBinop op x y
  | _, _ =>
    match op with
    | .lshift | .rshift | .bitAnd | .bitOr | .bitXor | .matMul => do
      let name (n : Num) := match n with
        | .int _ => "int"
        | .float _ => "float"
      typeError ("unsupported operand type(s) for " ++ op.symbol ++ ": '" ++ name a ++ "' and '" ++ name b ++ "'")
    | _ => floatBinop op a.toFloat b.toFloat

/-- Whether two numbers are equal. -/
def numEqual (a b : Num) : Bool :=
  match a, b with
  | .int x, .int y => x == y
  | _, _ => a.toFloat == b.toFloat

/-- The positions a slice picks from a sequence of a length, in order. -/
def sliceIndices (len : Nat) (lo hi step : Option Int) : Run (List Nat) := do
  let step := step.getD 1
  if step == 0 then valueError "slice step cannot be zero"
  let n : Int := len
  if step > 0 then
    let fix (i : Int) : Int := if i < 0 then max (i + n) 0 else min i n
    let start := fix (lo.getD 0)
    let stop := fix (hi.getD n)
    if stop <= start then return []
    let count := (stop - start + step - 1) / step
    pure ((List.range count.toNat).map fun (k : Nat) => (start + (k : Int) * step).toNat)
  else
    let fix (i : Int) : Int := if i < 0 then max (i + n) (-1) else min i (n - 1)
    let start := match lo with
      | some i => fix i
      | none => n - 1
    let stop := match hi with
      | some i => fix i
      | none => -1
    if start <= stop then return []
    let count := (start - stop + (-step) - 1) / (-step)
    pure ((List.range count.toNat).map fun (k : Nat) => (start + (k : Int) * step).toNat)

/-! ## Scopes -/

/-- How many scopes a lookup walks through at most. -/
def scopeDepth : Nat := 4096

/-- A name's value in one scope, if it has one there. -/
def scopeGet? (vars : Array (String × Value)) (name : String) : Option Value :=
  (vars.find? (·.1 == name)).map (·.2)

/-- Sets a name in a list of bindings. -/
def bindIn (vars : Array (String × Value)) (name : String) (v : Value) : Array (String × Value) :=
  match vars.findIdx? (·.1 == name) with
  | some i => vars.set! i (name, v)
  | none => vars.push (name, v)

/-- A name's value seen from a scope: the scope, then those around it but class bodies, then the
built-in names. -/
def lookupName (scope : Nat) (name : String) : Run Value := do
  let m <- get
  let mut current : Option Nat := some scope
  let mut first := true
  for _ in [0:scopeDepth] do
    match current with
    | none => break
    | some r =>
      match m.heap.getD r default with
      | .scope vars parent globals _ classBody =>
        if globals.contains name then
          current := some m.globals
          first := false
          continue
        if first || !classBody then
          if let some v := scopeGet? vars name then return v
        current := parent
        first := false
      | _ => break
  if builtinNames.contains name then return .builtin name
  raiseException "NameError" ("name '" ++ name ++ "' is not defined")

/-- The scope a name declared `nonlocal` lives in: the nearest one around that binds it. -/
def nonlocalOwner (scope : Nat) (name : String) : Run Nat := do
  let m <- get
  let mut current : Option Nat := match m.heap.getD scope default with
    | .scope _ parent _ _ _ => parent
    | _ => none
  for _ in [0:scopeDepth] do
    match current with
    | none => break
    | some r =>
      match m.heap.getD r default with
      | .scope vars parent _ _ classBody =>
        if !classBody && (scopeGet? vars name).isSome then return r
        current := parent
      | _ => break
  pure scope

/-- The scope an assignment to a name in a scope binds it in. -/
def bindingScope (scope : Nat) (name : String) : Run Nat := do
  match <- getObj scope with
  | .scope _ _ globals nonlocals _ =>
    if globals.contains name then pure (<- get).globals
    else if nonlocals.contains name then nonlocalOwner scope name
    else pure scope
  | _ => pure scope

/-- Binds a name in a scope. -/
def setName (scope : Nat) (name : String) (v : Value) : Run Unit := do
  let r <- bindingScope scope name
  match <- getObj r with
  | .scope vars parent globals nonlocals classBody =>
    setObj r (.scope (bindIn vars name v) parent globals nonlocals classBody)
  | _ => pure ()

/-- Removes a name from a scope. -/
def deleteName (scope : Nat) (name : String) : Run Unit := do
  let r <- bindingScope scope name
  match <- getObj r with
  | .scope vars parent globals nonlocals classBody =>
    if (scopeGet? vars name).isNone then raiseException "NameError" ("name '" ++ name ++ "' is not defined")
    setObj r (.scope (vars.filter (·.1 != name)) parent globals nonlocals classBody)
  | _ => pure ()

/-- Declares names `global` or `nonlocal` in a scope. -/
def declareNames (scope : Nat) (names : List String) (isGlobal : Bool) : Run Unit := do
  match <- getObj scope with
  | .scope vars parent globals nonlocals classBody =>
    if isGlobal then setObj scope (.scope vars parent (globals ++ names) nonlocals classBody)
    else setObj scope (.scope vars parent globals (nonlocals ++ names) classBody)
  | _ => pure ()

/-- A new scope inside another. -/
def newScope (parent : Nat) (classBody : Bool) : Run Nat :=
  alloc (.scope #[] (some parent) [] [] classBody)

/-- An attribute of a class, looked up through its bases, depth first. -/
def classAttr? (cls : Nat) (name : String) : Run (Option Value) := do
  go 64 cls
where
  go : Nat -> Nat -> Run (Option Value)
    | 0, _ => pure none
    | fuel + 1, c => do
      match <- getObj c with
      | .classObj _ bases attrs =>
        if let some v := scopeGet? attrs name then return some v
        for b in bases do
          if let .ref br := b then
            if let some v <- go fuel br then return some v
        pure none
      | _ => pure none

/-- The built-in exception class a class derives from, if any. -/
def exceptionBaseOf (cls : Nat) : Run (Option String) := do
  go 64 cls
where
  go : Nat -> Nat -> Run (Option String)
    | 0, _ => pure none
    | fuel + 1, c => do
      match <- getObj c with
      | .classObj _ bases _ =>
        for b in bases do
          match b with
          | .builtin n => if isExceptionClass n then return some n
          | .ref br => if let some n <- go fuel br then return some n
          | _ => pure ()
        pure none
      | _ => pure none

/-- A method of an instance's class, if it defines one. -/
def instanceMethod? (v : Value) (name : String) : Run (Option Value) := do
  match v with
  | .ref r =>
    match <- getObj r with
    | .inst c _ => classAttr? c name
    | _ => pure none
  | _ => pure none

end TranscriptTest.Python
