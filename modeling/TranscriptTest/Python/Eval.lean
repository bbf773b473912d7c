import TranscriptTest.Python.Operators
import TranscriptTest.Python.Parser

/-!
# Running statements and expressions

The evaluator is one family of functions over an explicit fuel argument: each step from
`fuel + 1` calls the family at `fuel`, so every run is total. Fuel bounds the nesting of calls
and expressions; the number of steps is bounded apart, by the machine's budget, which every
statement and every turn of a loop spends.
-/

namespace TranscriptTest.Python

/-- The deepest nesting of calls before `RecursionError`. -/
def recursionLimit : Nat := 1000

/-- How many turns a loop may take at most; the budget ends a run long before. -/
def loopLimit : Nat := 100000000

/-- A host whose every operation has run out of fuel. -/
def stuckHost : Host where
  call _ _ _ := throw .exhausted
  iterate _ := throw .exhausted
  iter _ := throw .exhausted
  next _ := throw .exhausted
  str _ := throw .exhausted
  repr _ := throw .exhausted
  eq _ _ := throw .exhausted
  lt _ _ := throw .exhausted
  truthy _ := throw .exhausted
  getAttr _ _ := throw .exhausted
  getItem _ _ := throw .exhausted
  len _ := throw .exhausted
  contains _ _ := throw .exhausted
  binop _ _ _ := throw .exhausted
  setAttr _ _ _ := throw .exhausted

/-- An address to show for an object, as the default `repr` of objects shows one. -/
def addressText (r : Nat) : String :=
  "0x7f" ++ hexPadded (0x3a000000 + r * 48) 8

/-- Binds the arguments of a call to a function's parameters in its new scope. -/
def bindParams (fname : String) (params : List (String × ParamKind × Option Value))
    (args : List Value) (kwargs : List (String × Value)) (scope : Nat) : Run Unit := do
  let mut rest := args
  let mut kws := kwargs
  let mut missing : List String := []
  let positional := params.filter fun (_, kind, _) => kind == .plain
  for (name, kind, dflt) in params do
    match kind with
    | .plain =>
      match rest with
      | v :: more =>
        if (kws.lookup name).isSome then
          typeError (fname ++ "() got multiple values for argument '" ++ name ++ "'")
        setName scope name v
        rest := more
      | [] =>
        match kws.lookup name with
        | some v =>
          setName scope name v
          kws := kws.filter (·.1 != name)
        | none =>
          match dflt with
          | some d => setName scope name d
          | none => missing := missing ++ [name]
    | .keywordOnly =>
      match kws.lookup name with
      | some v =>
        setName scope name v
        kws := kws.filter (·.1 != name)
      | none =>
        match dflt with
        | some d => setName scope name d
        | none =>
          typeError (fname ++ "() missing 1 required keyword-only argument: '" ++ name ++ "'")
    | .rest =>
      setName scope name (.tuple rest.toArray)
      rest := []
    | .restKeywords =>
      setName scope name (<- newDict (kws.toArray.map fun (k, v) => (Value.str k, v)))
      kws := []
  if !missing.isEmpty then
    let quoted := missing.map fun n => "'" ++ n ++ "'"
    let names := match quoted.reverse with
      | [one] => one
      | [b, a] => a ++ " and " ++ b
      | last :: others => ", ".intercalate others.reverse ++ ", and " ++ last
      | [] => ""
    typeError (fname ++ "() missing " ++ toString missing.length ++ " required positional argument" ++
      (if missing.length == 1 then "" else "s") ++ ": " ++ names)
  if !rest.isEmpty then
    let most := positional.length
    let least := (positional.filter fun (_, _, d) => d.isNone).length
    let takes := if least == most then toString most else "from " ++ toString least ++ " to " ++ toString most
    let given := args.length
    typeError (fname ++ "() takes " ++ takes ++ " positional argument" ++ (if most == 1 then "" else "s") ++
      " but " ++ toString given ++ (if given == 1 then " was" else " were") ++ " given")
  if let (k, _) :: _ := kws then
    typeError (fname ++ "() got an unexpected keyword argument '" ++ k ++ "'")

/-- Sets an attribute of an instance or class. -/
def setAttribute (v : Value) (name : String) (x : Value) : Run Unit := do
  match v with
  | .module "sys" =>
    if name == "stdout" then
      modify fun m => { m with redirects := match x with
        | .file 1 => []
        | other => [other] }
    else if name != "stderr" && name != "stdin" then
      raiseException "AttributeError" ("module 'sys' has no attribute '" ++ name ++ "'")
  | .ref r =>
    match <- getObj r with
    | .inst c attrs => setObj r (.inst c (bindIn attrs name x))
    | .classObj n bases attrs => setObj r (.classObj n bases (bindIn attrs name x))
    | _ => raiseException "AttributeError" ("'" ++ (<- typeName v) ++ "' object has no attribute '" ++ name ++ "'")
  | _ =>
    raiseException "AttributeError" ("'" ++ (← typeName v) ++ "' object has no attribute '" ++ name ++
      "' and no __dict__ for setting new attributes")

/-- The number of integers in a range. -/
def rangeLength (start stop step : Int) : Nat :=
  if step > 0 then ((stop - start + step - 1) / step).toNat
  else ((start - stop - step - 1) / (-step)).toNat

/-- The text of a built-in function or class, as `repr` shows it. -/
def builtinRepr (name : String) : String :=
  if isExceptionClass name || ["int", "str", "float", "bool", "list", "dict", "tuple", "set",
      "object", "type", "range", "frozenset", "bytes", "NoneType", "function"].contains name then
    "<class '" ++ name ++ "'>"
  else
    let short := (name.splitOn ".").getLast?.getD name
    "<built-in function " ++ short ++ ">"

/-- The items a value gives without running any of the program's code, if it is a built-in
collection. -/
def plainItems? (v : Value) : Run (Option (Array Value)) := do
  match v with
  | .tuple items => pure (some items)
  | .str s => pure (some (s.toList.toArray.map fun c => .str c.toString))
  | .ref r =>
    match <- getObj r with
    | .list items => pure (some items)
    | .dict entries => pure (some (entries.map (·.1)))
    | .set items => pure (some items)
    | .range start stop step =>
      let n := rangeLength start stop step
      if n > 10000000 then raiseException "MemoryError" ""
      pure (some ((Array.range n).map fun (k : Nat) => .int (start + (k : Int) * step)))
    | .dictView kind d =>
      match <- getObj d with
      | .dict entries =>
        pure (some (match kind with
          | "keys" => entries.map (·.1)
          | "values" => entries.map (·.2)
          | _ => entries.map fun (k, v) => .tuple #[k, v]))
      | _ => pure (some #[])
    | _ => pure none
  | _ => pure none

/-- Whether a function body yields: a `yield` in it, outside the functions and classes defined
in it, makes the function a generator. -/
def bodyYields : Nat -> List Stmt -> Bool
  | 0, _ => false
  | fuel + 1, body => body.any fun s =>
    match s with
    | .yieldValue _ | .yieldFrom _ => true
    | .ifs branches orelse => branches.any (fun b => bodyYields fuel b.2) || bodyYields fuel orelse
    | .whileLoop _ b o | .forLoop _ _ b o => bodyYields fuel b || bodyYields fuel o
    | .tryStmt b hs o f =>
      bodyYields fuel b || hs.any (fun h => bodyYields fuel h.2.2) || bodyYields fuel o ||
        bodyYields fuel f
    | .withStmt _ b => bodyYields fuel b
    | _ => false

/-- What a base class's `__init__` does to an instance: an exception keeps its arguments. -/
def initArguments (self : Value) (args : List Value) : Run Unit := do
  match self with
  | .ref r =>
    match <- getObj r with
    | .inst c _ => if (<- exceptionBaseOf c).isSome then setAttribute self "args" (.tuple args.toArray)
    | _ => pure ()
  | _ => pure ()

/-- `super()` in a method: the instance the method runs on (its first parameter), seen from the
class whose body defines the method. -/
def superObject (scope : Nat) : Run Value := do
  let m <- get
  let mut current := scope
  for _ in [0:scopeDepth] do
    match m.heap.getD current default with
    | .scope vars (some p) _ _ _ =>
      match m.heap.getD p default with
      | .scope classVars _ _ _ true =>
        match scopeGet? classVars "__class__", vars[0]? with
        | some (.ref cls), some (_, self) => return .ref (<- alloc (.superOf cls self))
        | _, _ => break
      | _ => current := p
    | _ => break
  raiseException "RuntimeError" "super(): no arguments"

/-- A function read through a class, bound to an instance. -/
def bindTo (self x : Value) : Run Value := do
  match x with
  | .ref fr =>
    match <- getObj fr with
    | .function .. => pure (.ref (<- alloc (.bound self x)))
    | _ => pure x
  | _ => pure x

/-- The names of a scope as a dictionary. -/
def scopeDict (scope : Nat) : Run Value := do
  match <- getObj scope with
  | .scope vars .. => newDict (vars.map fun (k, v) => (Value.str k, v))
  | _ => newDict #[]

/-- Catches the exceptions of a run that are instances of a built-in class. -/
def catchBuiltin {α : Type} (x : Run α) (cls : String) (handler : Run α) : Run α :=
  tryCatch x fun e => do
    match e with
    | .raised (.ref r) =>
      match <- getObj r with
      | .exception c _ => if exceptionDerives c cls then handler else throw e
      | _ => throw e
    | _ => throw e

set_option maxHeartbeats 400000 in
mutual

/-- The library's view of the evaluator. -/
def host : Nat -> Host
  | 0 => stuckHost
  | fuel + 1 =>
    { call := callValue fuel
      iterate := iterateAll fuel
      iter := iterOf fuel
      next := nextOf fuel
      str := strOf fuel
      repr := reprOf fuel []
      eq := equal fuel
      lt := order fuel .lt
      truthy := truthy fuel
      getAttr := getAttr fuel
      getItem := getItem fuel
      len := lenOf fuel
      contains := contains fuel
      binop := binop fuel
      setAttr := setAttribute }

/-- Calls a value with arguments. -/
def callValue : Nat -> Value -> List Value -> List (String × Value) -> Run Value
  | 0, _, _, _ => throw .exhausted
  | fuel + 1, f, args, kwargs => do
    match f with
    | .builtin name =>
      if name.endsWith ".__init__" then
        if let self :: rest := args then initArguments self rest
        return .none
      match name.splitOn "." with
      | [kind, meth] =>
        if (methodNames kind).contains meth then
          match args with
          | self :: rest => callMethod (host fuel) self meth rest kwargs
          | [] => typeError ("unbound method " ++ name ++ "() needs an argument")
        else callBuiltin (host fuel) name args kwargs
      | _ => callBuiltin (host fuel) name args kwargs
    | .method self name =>
      if name == "__init__" then
        initArguments self args
        return .none
      callMethod (host fuel) self name args kwargs
    | .ref r =>
      match <- getObj r with
      | .function name params body closure =>
        let m <- get
        if m.depth ≥ recursionLimit then
          raiseException "RecursionError" "maximum recursion depth exceeded"
        let scope <- newScope closure false
        bindParams name params args kwargs scope
        -- a generator's values are collected as its body runs to its end
        let generator := bodyYields 64 body
        let collector <- if generator then alloc (.list #[]) else pure 0
        let enter (m : Machine) : Machine :=
          { m with depth := m.depth + 1, yields := if generator then collector :: m.yields else m.yields }
        let exit (m : Machine) : Machine :=
          { m with depth := m.depth - 1, yields := if generator then m.yields.drop 1 else m.yields }
        modify enter
        let leave : Run Unit := modify exit
        let result ← tryCatch (do execBlock fuel scope body; pure Value.none) fun e => do
          match e with
          | .returned v => pure v
          | other => leave; throw other
        leave
        if generator then
          match <- getObj collector with
          | .list items => pure (.ref (<- alloc (.seqIter items 0)))
          | _ => pure .none
        else pure result
      | .bound self fn => callValue fuel fn (self :: args) kwargs
      | .classObj cname _ _ =>
        let inst <- alloc (.inst r #[])
        if (← exceptionBaseOf r).isSome then
          setAttribute (.ref inst) "args" (.tuple args.toArray)
        match <- classAttr? r "__init__" with
        | some init =>
          let _ <- callValue fuel init (.ref inst :: args) kwargs
        | none =>
          if (← exceptionBaseOf r).isNone && !(args.isEmpty && kwargs.isEmpty) then
            typeError (cname ++ "() takes no arguments")
        pure (.ref inst)
      | .inst c _ =>
        match <- classAttr? c "__call__" with
        | some m => callValue fuel m (f :: args) kwargs
        | none => typeError ("'" ++ (<- typeName f) ++ "' object is not callable")
      | _ => typeError ("'" ++ (<- typeName f) ++ "' object is not callable")
    | other => typeError ("'" ++ (<- typeName other) ++ "' object is not callable")

/-- Calls a special method of an instance, if its class defines it. -/
def callSpecial : Nat -> Value -> String -> List Value -> Run (Option Value)
  | 0, _, _, _ => throw .exhausted
  | fuel + 1, v, name, args => do
    match <- instanceMethod? v name with
    | some m => pure (some (<- callValue fuel m (v :: args) []))
    | none => pure none

/-- An attribute of a value. -/
def getAttr : Nat -> Value -> String -> Run Value
  | 0, _, _ => throw .exhausted
  | _ + 1, v, name => do
    let missing : Run Value := do
      raiseException "AttributeError" ("'" ++ (<- typeName v) ++ "' object has no attribute '" ++ name ++ "'")
    let builtinMethod (kind : String) : Run Value :=
      if (methodNames kind).contains name then pure (.method v name) else missing
    match v with
    | .module m =>
      if m == "sys" && name == "argv" then return <- newList #[.str "-c"]
      if m == "sys" && name == "stdout" then return (<- get).redirects.headD (.file 1)
      if m == "sys" && name == "__stdout__" then return .file 1
      match moduleAttr m name with
      | some x => pure x
      | none => raiseException "AttributeError" ("module '" ++ m ++ "' has no attribute '" ++ name ++ "'")
    | .builtin n =>
      if name == "__name__" then return .str ((n.splitOn ".").getLast?.getD n)
      if name == "__init__" && (isExceptionClass n || n == "object") then return .builtin (n ++ ".__init__")
      if (methodNames n).contains name then return .builtin (n ++ "." ++ name)
      raiseException "AttributeError" ("type object '" ++ n ++ "' has no attribute '" ++ name ++ "'")
    | .file fd =>
      if name == "name" then return .str (if fd == 0 then "<stdin>" else if fd == 1 then "<stdout>" else "<stderr>")
      if name == "encoding" then return .str "utf-8"
      builtinMethod (if fd == 0 then "stdin" else "stdout")
    | .str _ => builtinMethod "str"
    | .int n =>
      if name == "real" || name == "numerator" then return .int n
      if name == "imag" then return .int 0
      if name == "denominator" then return .int 1
      builtinMethod "int"
    | .bool _ => builtinMethod "int"
    | .float x =>
      if name == "real" then return .float x
      if name == "imag" then return .float 0
      builtinMethod "float"
    | .tuple _ => builtinMethod "tuple"
    | .ref r =>
      match <- getObj r with
      | .inst c attrs =>
        if let some x := scopeGet? attrs name then return x
        if name == "__class__" then return .ref c
        match <- classAttr? c name with
        | some x =>
          match x with
          | .ref fr =>
            match <- getObj fr with
            | .function .. => pure (.ref (<- alloc (.bound v x)))
            | _ => pure x
          | _ => pure x
        | none => missing
      | .classObj cname _ _ =>
        if name == "__name__" then return .str cname
        match <- classAttr? r name with
        | some x => pure x
        | none => raiseException "AttributeError" ("type object '" ++ cname ++ "' has no attribute '" ++ name ++ "'")
      | .exception c args =>
        if name == "args" then return .tuple args
        if name == "__class__" then return .builtin c
        missing
      | .function fname .. =>
        if name == "__name__" then return .str fname
        missing
      | .superOf cls self =>
        match <- getObj cls with
        | .classObj _ bases _ =>
          for b in bases do
            if let .ref br := b then
              if let some x <- classAttr? br name then return <- bindTo self x
          if name == "__init__" then return .method self "__init__"
          raiseException "AttributeError" ("'super' object has no attribute '" ++ name ++ "'")
        | _ => missing
      | .list _ => builtinMethod "list"
      | .dict _ => builtinMethod "dict"
      | .set _ => builtinMethod "set"
      | .textBuffer .. => builtinMethod "StringIO"
      | _ => missing
    | _ => missing

/-- The text `str` gives for a value. -/
def strOf : Nat -> Value -> Run String
  | 0, _ => throw .exhausted
  | fuel + 1, v => do
    match v with
    | .str s => pure s
    | .ref r =>
      match <- getObj r with
      | .exception c args => exceptionText fuel c args
      | .inst c attrs =>
        match <- callSpecial fuel v "__str__" [] with
        | some (.str s) => pure s
        | some _ => typeError "__str__ returned non-string"
        | none =>
          if (← exceptionBaseOf c).isSome && (← classAttr? c "__repr__").isNone then
            match scopeGet? attrs "args" with
            | some (.tuple args) => exceptionText fuel "" args
            | _ => pure ""
          else reprOf fuel [] v
      | _ => reprOf fuel [] v
    | _ => reprOf fuel [] v

/-- The text of an exception's arguments: none, the one argument (a `KeyError` shows its key's
`repr`), or the tuple of them. -/
def exceptionText : Nat -> String -> Array Value -> Run String
  | 0, _, _ => throw .exhausted
  | fuel + 1, cls, args =>
    match args.toList with
    | [] => pure ""
    | [a] => if cls == "KeyError" then reprOf fuel [] a else strOf fuel a
    | _ => reprOf fuel [] (.tuple args)

/-- The text `repr` gives for a value; `seen` holds the containers being written, which show as
`[...]` or `{...}` inside themselves. -/
def reprOf : Nat -> List Nat -> Value -> Run String
  | 0, _, _ => throw .exhausted
  | fuel + 1, seen, v => do
    let items (xs : Array Value) : Run (List String) := xs.toList.mapM (reprOf fuel seen)
    match v with
    | .none => pure "None"
    | .bool b => pure (if b then "True" else "False")
    | .int n => intText n
    | .float x => pure (floatRepr x)
    | .str s => pure (strRepr s)
    | .ellipsis => pure "Ellipsis"
    | .tuple xs =>
      let parts <- items xs
      pure ("(" ++ ", ".intercalate parts ++ (if xs.size == 1 then "," else "") ++ ")")
    | .builtin n => pure (builtinRepr n)
    | .method self n => pure ("<built-in method " ++ n ++ " of " ++ (<- typeName self) ++ " object at " ++ addressText 1 ++ ">")
    | .module m => pure ("<module '" ++ m ++ "' (built-in)>")
    | .file fd =>
      pure (if fd == 0 then "<_io.TextIOWrapper name='<stdin>' mode='r' encoding='utf-8'>"
        else if fd == 1 then "<_io.TextIOWrapper name='<stdout>' mode='w' encoding='utf-8'>"
        else "<_io.TextIOWrapper name='<stderr>' mode='w' encoding='utf-8'>")
    | .ref r =>
      let inner := r :: seen
      match <- getObj r with
      | .list xs =>
        if seen.contains r then return "[...]"
        let parts <- xs.toList.mapM (reprOf fuel inner)
        pure ("[" ++ ", ".intercalate parts ++ "]")
      | .dict entries =>
        if seen.contains r then return "\x7b...\x7d"
        let parts ← entries.toList.mapM fun (k, x) => do
          pure ((<- reprOf fuel inner k) ++ ": " ++ (<- reprOf fuel inner x))
        pure ("\x7b" ++ ", ".intercalate parts ++ "\x7d")
      | .set xs =>
        if xs.isEmpty then return "set()"
        let parts <- xs.toList.mapM (reprOf fuel inner)
        pure ("\x7b" ++ ", ".intercalate parts ++ "\x7d")
      | .range start stop step =>
        pure ("range(" ++ toString start ++ ", " ++ toString stop ++
          (if step == 1 then "" else ", " ++ toString step) ++ ")")
      | .function name .. => pure ("<function " ++ name ++ " at " ++ addressText r ++ ">")
      | .bound self fn =>
        let fname <- match fn with
          | .ref fr =>
            match <- getObj fr with
            | .function n .. => pure n
            | _ => pure "?"
          | _ => pure "?"
        pure ("<bound method " ++ (<- typeName self) ++ "." ++ fname ++ " of " ++ (<- reprOf fuel inner self) ++ ">")
      | .classObj name _ _ => pure ("<class '__main__." ++ name ++ "'>")
      | .inst c attrs =>
        match <- callSpecial fuel v "__repr__" [] with
        | some (.str s) => pure s
        | some _ => typeError "__repr__ returned non-string"
        | none =>
          if (← exceptionBaseOf c).isSome then
            match scopeGet? attrs "args" with
            | some (.tuple args) =>
              let parts <- items args
              pure ((<- typeName v) ++ "(" ++ ", ".intercalate parts ++ ")")
            | _ => pure ((<- typeName v) ++ "()")
          else pure ("<__main__." ++ (<- typeName v) ++ " object at " ++ addressText r ++ ">")
      | .exception c args =>
        let parts <- items args
        pure (c ++ "(" ++ ", ".intercalate parts ++ ")")
      | .dictView kind d =>
        let shown <- match <- plainItems? v with
          | some xs => xs.toList.mapM (reprOf fuel (d :: inner))
          | none => pure []
        pure ("dict_" ++ kind ++ "([" ++ ", ".intercalate shown ++ "])")
      | .scope .. => pure "\x7b...\x7d"
      | _ => pure ("<" ++ (<- typeName v) ++ " object at " ++ addressText r ++ ">")

/-- Whether two values are equal. -/
def equal : Nat -> Value -> Value -> Run Bool
  | 0, _, _ => throw .exhausted
  | fuel + 1, a, b => do
    match a.num?, b.num? with
    | some x, some y => return numEqual x y
    | _, _ => pure ()
    match a, b with
    | .none, .none => pure true
    | .ellipsis, .ellipsis => pure true
    | .str x, .str y => pure (x == y)
    | .tuple xs, .tuple ys => seqEqual fuel xs ys
    | .builtin x, .builtin y => pure (x == y)
    | .module x, .module y => pure (x == y)
    | .file x, .file y => pure (x == y)
    | .ref r, .ref s =>
      if r == s then return true
      match <- getObj r, <- getObj s with
      | .list xs, .list ys => seqEqual fuel xs ys
      | .dict xs, .dict ys =>
        if xs.size != ys.size then return false
        for (k, x) in xs do
          match <- findKey (host fuel) ys k with
          | some i => if !(<- equal fuel x ys[i]!.2) then return false
          | none => return false
        pure true
      | .set xs, .set ys =>
        if xs.size != ys.size then return false
        for x in xs do
          if !(<- setHas (host fuel) ys x) then return false
        pure true
      | .range a1 b1 c1, .range a2 b2 c2 =>
        let n1 := rangeLength a1 b1 c1
        let n2 := rangeLength a2 b2 c2
        pure (n1 == n2 && (n1 == 0 || (a1 == a2 && (n1 == 1 || c1 == c2))))
      | .inst .., _ =>
        match <- callSpecial fuel a "__eq__" [b] with
        | some x => truthy fuel x
        | none => pure false
      | _, .inst .. =>
        match <- callSpecial fuel b "__eq__" [a] with
        | some x => truthy fuel x
        | none => pure false
      | _, _ => pure false
    | .ref _, _ =>
      match <- callSpecial fuel a "__eq__" [b] with
      | some x => truthy fuel x
      | none => pure false
    | _, _ => pure false

/-- Whether two sequences have equal items. -/
def seqEqual : Nat -> Array Value -> Array Value -> Run Bool
  | 0, _, _ => throw .exhausted
  | fuel + 1, xs, ys => do
    if xs.size != ys.size then return false
    for i in [0:xs.size] do
      if !(<- equal fuel xs[i]! ys[i]!) then return false
    pure true

/-- An ordering comparison (`<`, `<=`, `>`, `>=`) of two values. -/
def order : Nat -> CmpOp -> Value -> Value -> Run Bool
  | 0, _, _, _ => throw .exhausted
  | fuel + 1, op, a, b => do
    let symbol := match op with
      | .lt => "<"
      | .le => "<="
      | .gt => ">"
      | _ => ">="
    let byOp {α : Type} [LT α] [DecidableRel (α := α) (· < ·)] [BEq α] (x y : α) : Bool :=
      match op with
      | .lt => decide (x < y)
      | .le => decide (x < y) || x == y
      | .gt => decide (y < x)
      | _ => decide (y < x) || x == y
    let fail : Run Bool := do
      typeError ("'" ++ symbol ++ "' not supported between instances of '" ++ (← typeName a) ++
        "' and '" ++ (<- typeName b) ++ "'")
    match a.num?, b.num? with
    | some (.int x), some (.int y) => return byOp x y
    | some x, some y =>
      let (p, q) := (x.toFloat, y.toFloat)
      return match op with
        | .lt => p < q
        | .le => p <= q
        | .gt => p > q
        | _ => p >= q
    | _, _ => pure ()
    let lexicographic (xs ys : Array Value) : Run Bool := do
      for i in [0:Nat.min xs.size ys.size] do
        if !(<- equal fuel xs[i]! ys[i]!) then return <- order fuel op xs[i]! ys[i]!
      pure (byOp xs.size ys.size)
    match a, b with
    | .str x, .str y => pure (byOp x y)
    | .tuple xs, .tuple ys => lexicographic xs ys
    | .ref r, .ref s =>
      match <- getObj r, <- getObj s with
      | .list xs, .list ys => lexicographic xs ys
      | .set xs, .set ys =>
        let sub (p q : Array Value) : Run Bool := p.allM fun x => setHas (host fuel) q x
        match op with
        | .lt => pure (xs.size < ys.size && (<- sub xs ys))
        | .le => sub xs ys
        | .gt => pure (ys.size < xs.size && (<- sub ys xs))
        | _ => sub ys xs
      | _, _ => special fail
    | _, _ => special fail
where
  special (fail : Run Bool) : Run Bool := fail

/-- Whether a value counts as true. -/
def truthy : Nat -> Value -> Run Bool
  | 0, _ => throw .exhausted
  | fuel + 1, v => do
    match v with
    | .none => pure false
    | .bool b => pure b
    | .int n => pure (n != 0)
    | .float x => pure (x != 0)
    | .str s => pure !s.isEmpty
    | .tuple xs => pure !xs.isEmpty
    | .ref r =>
      match <- getObj r with
      | .list xs => pure !xs.isEmpty
      | .dict xs => pure !xs.isEmpty
      | .set xs => pure !xs.isEmpty
      | .range a b c => pure (rangeLength a b c != 0)
      | .dictView .. => pure ((<- lenOf fuel v) != 0)
      | .inst .. =>
        match <- callSpecial fuel v "__bool__" [] with
        | some x => truthy fuel x
        | none =>
          match <- callSpecial fuel v "__len__" [] with
          | some (.int n) => pure (n != 0)
          | _ => pure true
      | _ => pure true
    | _ => pure true

/-- The length of a value. -/
def lenOf : Nat -> Value -> Run Nat
  | 0, _ => throw .exhausted
  | fuel + 1, v => do
    let fail : Run Nat := do typeError ("object of type '" ++ (<- typeName v) ++ "' has no len()")
    match v with
    | .str s => pure s.length
    | .tuple xs => pure xs.size
    | .ref r =>
      match <- getObj r with
      | .list xs => pure xs.size
      | .dict xs => pure xs.size
      | .set xs => pure xs.size
      | .range a b c => pure (rangeLength a b c)
      | .dictView _ d =>
        match <- getObj d with
        | .dict xs => pure xs.size
        | _ => pure 0
      | .inst .. =>
        match <- callSpecial fuel v "__len__" [] with
        | some (.int n) =>
          if n < 0 then valueError "__len__() should return >= 0"
          pure n.toNat
        | some _ => typeError "'str' object cannot be interpreted as an integer"
        | none => fail
      | _ => fail
    | _ => fail

/-- An item of a value: `c[i]`. -/
def getItem : Nat -> Value -> Value -> Run Value
  | 0, _, _ => throw .exhausted
  | fuel + 1, c, i => do
    let index (what : String) (len : Nat) : Run Nat := do
      let n <- match i with
        | .int n => pure n
        | .bool b => pure (if b then 1 else 0)
        | other =>
          if what == "string" then typeError ("string indices must be integers, not '" ++ (<- typeName other) ++ "'")
          else typeError (what ++ " indices must be integers or slices, not " ++ (<- typeName other))
      match seqIndex len n with
      | some j => pure j
      | none => raiseException "IndexError" (what ++ " index out of range")
    match c with
    | .str s =>
      let cs := s.toList
      let j <- index "string" cs.length
      pure (.str cs[j]!.toString)
    | .tuple xs => pure xs[<- index "tuple" xs.size]!
    | .ref r =>
      match <- getObj r with
      | .list xs => pure xs[<- index "list" xs.size]!
      | .dict _ =>
        requireHashable i
        match <- dictGet (host fuel) r i with
        | some v => pure v
        | none => keyError i
      | .range a _ s =>
        let n <- lenOf fuel c
        let j <- index "range object" n
        pure (.int (a + j * s))
      | .inst .. =>
        match <- callSpecial fuel c "__getitem__" [i] with
        | some v => pure v
        | none => typeError ("'" ++ (<- typeName c) ++ "' object is not subscriptable")
      | _ => typeError ("'" ++ (<- typeName c) ++ "' object is not subscriptable")
    | _ => typeError ("'" ++ (<- typeName c) ++ "' object is not subscriptable")

/-- Sets an item of a value: `c[i] = v`. -/
def setItem : Nat -> Value -> Value -> Value -> Run Unit
  | 0, _, _, _ => throw .exhausted
  | fuel + 1, c, i, v => do
    match c with
    | .ref r =>
      match <- getObj r with
      | .list xs =>
        let n <- match i with
          | .int n => pure n
          | .bool b => pure (if b then 1 else 0)
          | other => typeError ("list indices must be integers or slices, not " ++ (<- typeName other))
        match seqIndex xs.size n with
        | some j => setObj r (.list (xs.set! j v))
        | none => raiseException "IndexError" "list assignment index out of range"
      | .dict _ =>
        requireHashable i
        dictSet (host fuel) r i v
      | .inst .. =>
        match <- callSpecial fuel c "__setitem__" [i, v] with
        | some _ => pure ()
        | none => typeError ("'" ++ (<- typeName c) ++ "' object does not support item assignment")
      | _ => typeError ("'" ++ (<- typeName c) ++ "' object does not support item assignment")
    | _ => typeError ("'" ++ (<- typeName c) ++ "' object does not support item assignment")

/-- An iterator over a value. -/
def iterOf : Nat -> Value -> Run Value
  | 0, _ => throw .exhausted
  | fuel + 1, v => do
    let fail : Run Value := do typeError ("'" ++ (<- typeName v) ++ "' object is not iterable")
    match v with
    | .file 0 => pure (.ref (<- alloc .stdinIter))
    | .ref r =>
      match <- getObj r with
      | .list _ => pure (.ref (<- alloc (.listIter r 0)))
      | .range a b c => pure (.ref (<- alloc (.rangeIter a b c)))
      | .seqIter .. | .listIter .. | .rangeIter .. | .stdinIter | .mapIter .. | .filterIter ..
      | .zipIter .. | .enumerateIter .. => pure v
      | .inst .. =>
        match <- callSpecial fuel v "__iter__" [] with
        | some it => pure it
        | none =>
          if (← instanceMethod? v "__getitem__").isSome then
            let mut items : Array Value := #[]
            for k in [0:loopLimit] do
              tick
              let got <- catchBuiltin (some <$> getItem fuel v (.int k)) "IndexError" (pure none)
              match got with
              | some x => items := items.push x
              | none => break
            pure (.ref (<- alloc (.seqIter items 0)))
          else fail
      | _ =>
        match <- plainItems? v with
        | some items => pure (.ref (<- alloc (.seqIter items 0)))
        | none => fail
    | _ =>
      match <- plainItems? v with
      | some items => pure (.ref (<- alloc (.seqIter items 0)))
      | none => fail

/-- The next value of an iterator, if it has one. -/
def nextOf : Nat -> Value -> Run (Option Value)
  | 0, _ => throw .exhausted
  | fuel + 1, it => do
    let fail : Run (Option Value) := do typeError ("'" ++ (<- typeName it) ++ "' object is not an iterator")
    match it with
    | .ref r =>
      match <- getObj r with
      | .seqIter items pos =>
        if h : pos < items.size then
          setObj r (.seqIter items (pos + 1))
          pure (some items[pos])
        else pure none
      | .listIter l pos =>
        match <- getObj l with
        | .list items =>
          if h : pos < items.size then
            setObj r (.listIter l (pos + 1))
            pure (some items[pos])
          else pure none
        | _ => pure none
      | .rangeIter nxt stop step =>
        if (step > 0 && nxt < stop) || (step < 0 && nxt > stop) then
          setObj r (.rangeIter (nxt + step) stop step)
          pure (some (.int nxt))
        else pure none
      | .stdinIter => pure (some (.str (<- readLine)))
      | .mapIter f sources =>
        let mut vals : List Value := []
        for s in sources do
          match <- nextOf fuel s with
          | some x => vals := vals ++ [x]
          | none => return none
        pure (some (<- callValue fuel f vals []))
      | .filterIter f source =>
        for _ in [0:loopLimit] do
          tick
          match <- nextOf fuel source with
          | none => return none
          | some x =>
            let keep <- match f with
              | .none => truthy fuel x
              | _ => truthy fuel (<- callValue fuel f [x] [])
            if keep then return some x
        throw .exhausted
      | .zipIter sources =>
        let mut vals : Array Value := #[]
        for s in sources do
          match <- nextOf fuel s with
          | some x => vals := vals.push x
          | none => return none
        if sources.isEmpty then return none
        pure (some (.tuple vals))
      | .enumerateIter source count =>
        match <- nextOf fuel source with
        | some x =>
          setObj r (.enumerateIter source (count + 1))
          pure (some (.tuple #[.int count, x]))
        | none => pure none
      | .inst .. =>
        match <- instanceMethod? it "__next__" with
        | some m =>
          catchBuiltin (some <$> callValue fuel m [it] []) "StopIteration" (pure none)
        | none => fail
      | _ => fail
    | _ => fail

/-- Every value an iterable gives, in order. -/
def iterateAll : Nat -> Value -> Run (Array Value)
  | 0, _ => throw .exhausted
  | fuel + 1, v => do
    match <- plainItems? v with
    | some items => pure items
    | none =>
      let it <- iterOf fuel v
      let mut out : Array Value := #[]
      for _ in [0:loopLimit] do
        tick
        match <- nextOf fuel it with
        | some x => out := out.push x
        | none => return out
      throw .exhausted

/-- Whether a container holds a value: `x in c`. -/
def contains : Nat -> Value -> Value -> Run Bool
  | 0, _, _ => throw .exhausted
  | fuel + 1, c, x => do
    match c with
    | .str s =>
      match x with
      | .str t => pure (findFrom s.toList t.toList 0).isSome
      | other => typeError ("'in <string>' requires string as left operand, not " ++ (<- typeName other))
    | .tuple xs => xs.anyM (equal fuel · x)
    | .ref r =>
      match <- getObj r with
      | .list xs => xs.anyM (equal fuel · x)
      | .set xs => setHas (host fuel) xs x
      | .dict xs => pure (<- findKey (host fuel) xs x).isSome
      | .dictView "keys" d =>
        match <- getObj d with
        | .dict xs => pure (<- findKey (host fuel) xs x).isSome
        | _ => pure false
      | .range a b s =>
        match x.num? with
        | some (.int n) =>
          let n' := n - a
          pure (rangeLength a b s != 0 && n'.emod s == 0 &&
            (if s > 0 then a <= n && n < b else b < n && n <= a))
        | _ => pure false
      | .inst .. =>
        match <- callSpecial fuel c "__contains__" [x] with
        | some v => truthy fuel v
        | none => (<- iterateAll fuel c).anyM (equal fuel · x)
      | _ => (<- iterateAll fuel c).anyM (equal fuel · x)
    | _ => typeError ("argument of type '" ++ (<- typeName c) ++ "' is not iterable")

/-- A binary operator on two values. -/
def binop : Nat -> BinOp -> Value -> Value -> Run Value
  | 0, _, _, _ => throw .exhausted
  | fuel + 1, op, a, b => do
    match a.num?, b.num? with
    | some x, some y => return <- numBinop op x y
    | _, _ => pure ()
    let unsupported : Run Value := do
      typeError ("unsupported operand type(s) for " ++ op.symbol ++ ": '" ++ (← typeName a) ++
        "' and '" ++ (<- typeName b) ++ "'")
    let repeatCount (v : Value) : Option Int := match v with
      | .int n => some n
      | .bool x => some (if x then 1 else 0)
      | _ => none
    let repeated (xs : Array Value) (n : Int) : Array Value :=
      (List.replicate n.toNat xs).foldl (· ++ ·) #[]
    let special (name rname : String) : Run Value := do
      match <- callSpecial fuel a name [b] with
      | some v => pure v
      | none =>
        match <- callSpecial fuel b rname [a] with
        | some v => pure v
        | none => unsupported
    let dunder : String := match op with
      | .add => "add"
      | .sub => "sub"
      | .mul => "mul"
      | .div => "truediv"
      | .floorDiv => "floordiv"
      | .mod => "mod"
      | .pow => "pow"
      | .matMul => "matmul"
      | .lshift => "lshift"
      | .rshift => "rshift"
      | .bitAnd => "and"
      | .bitOr => "or"
      | .bitXor => "xor"
    let viaSpecial := special ("__" ++ dunder ++ "__") ("__r" ++ dunder ++ "__")
    match op, a, b with
    | .add, .str x, .str y => pure (.str (x ++ y))
    | .add, .str _, _ =>
      match b with
      | .ref _ => viaSpecial
      | _ => typeError ("can only concatenate str (not \"" ++ (<- typeName b) ++ "\") to str")
    | .add, .tuple xs, .tuple ys => pure (.tuple (xs ++ ys))
    | .add, .tuple _, _ => typeError ("can only concatenate tuple (not \"" ++ (<- typeName b) ++ "\") to tuple")
    | .mul, .str s, n | .mul, n, .str s =>
      match repeatCount n with
      | some k => pure (.str (String.join (List.replicate k.toNat s)))
      | none => typeError ("can't multiply sequence by non-int of type '" ++ (<- typeName n) ++ "'")
    | .mul, .tuple xs, n | .mul, n, .tuple xs =>
      match repeatCount n with
      | some k => pure (.tuple (repeated xs k))
      | none => typeError ("can't multiply sequence by non-int of type '" ++ (<- typeName n) ++ "'")
    | .mod, .str s, arg => pure (.str (<- percentFormat (host fuel) s arg))
    | _, .ref r, _ =>
      match <- getObj r with
      | .list xs =>
        match op, b with
        | .add, .ref s =>
          match <- getObj s with
          | .list ys => newList (xs ++ ys)
          | _ => typeError ("can only concatenate list (not \"" ++ (<- typeName b) ++ "\") to list")
        | .add, _ => typeError ("can only concatenate list (not \"" ++ (<- typeName b) ++ "\") to list")
        | .mul, n =>
          match repeatCount n with
          | some k => newList (repeated xs k)
          | none => typeError ("can't multiply sequence by non-int of type '" ++ (<- typeName n) ++ "'")
        | _, _ => unsupported
      | .dict xs =>
        match op, <- dictEntries? b with
        | .bitOr, some (_, ys) =>
          let r' <- alloc (.dict xs)
          for (k, v) in ys do dictSet (host fuel) r' k v
          pure (.ref r')
        | _, _ => unsupported
      | .set xs =>
        match <- getObj (match b with | .ref s => s | _ => r) with
        | .set ys =>
          let h := host fuel
          match op with
          | .bitOr =>
            let mut acc := xs
            for y in ys do acc <- setAdd h acc y
            pure (.ref (<- alloc (.set acc)))
          | .bitAnd => pure (.ref (<- alloc (.set (<- xs.filterM fun x => setHas h ys x))))
          | .sub => pure (.ref (<- alloc (.set (<- xs.filterM fun x => do pure !(<- setHas h ys x)))))
          | .bitXor =>
            let left <- xs.filterM fun x => do pure !(<- setHas h ys x)
            let right <- ys.filterM fun y => do pure !(<- setHas h xs y)
            pure (.ref (<- alloc (.set (left ++ right))))
          | _ => unsupported
        | _ => unsupported
      | .inst .. => viaSpecial
      | _ => unsupported
    | _, _, .ref r =>
      match <- getObj r with
      | .list xs =>
        match op, repeatCount a with
        | .mul, some k => newList (repeated xs k)
        | _, _ => unsupported
      | .inst .. => viaSpecial
      | _ => unsupported
    | _, _, _ => unsupported

/-- A comparison of two values. -/
def compare : Nat -> CmpOp -> Value -> Value -> Run Bool
  | 0, _, _, _ => throw .exhausted
  | fuel + 1, op, a, b => do
    match op with
    | .eq => equal fuel a b
    | .ne =>
      match <- callSpecial fuel a "__ne__" [b] with
      | some v => truthy fuel v
      | none => pure !(<- equal fuel a b)
    | .isIn => contains fuel b a
    | .notIn => pure !(<- contains fuel b a)
    | .is => pure (identical a b)
    | .isNot => pure !(identical a b)
    | _ =>
      match a, b with
      | .ref _, _ | _, .ref _ =>
        let name := match op with
          | .lt => "__lt__"
          | .le => "__le__"
          | .gt => "__gt__"
          | _ => "__ge__"
        let reflected := match op with
          | .lt => "__gt__"
          | .le => "__ge__"
          | .gt => "__lt__"
          | _ => "__le__"
        match <- callSpecial fuel a name [b] with
        | some v => truthy fuel v
        | none =>
          match <- callSpecial fuel b reflected [a] with
          | some v => truthy fuel v
          | none => order fuel op a b
      | _, _ => order fuel op a b
where
  identical (a b : Value) : Bool :=
    match a, b with
    | .ref r, .ref s => r == s
    | .none, .none => true
    | .ellipsis, .ellipsis => true
    | .bool x, .bool y => x == y
    | .int x, .int y => x == y
    | .str x, .str y => x == y
    | .builtin x, .builtin y => x == y
    | .module x, .module y => x == y
    | .file x, .file y => x == y
    | _, _ => false

/-- The value of an expression in a scope. -/
def evalExpr : Nat -> Nat -> Expr -> Run Value
  | 0, _, _ => throw .exhausted
  | fuel + 1, scope, e => do
    match e with
    | .none => pure .none
    | .bool b => pure (.bool b)
    | .ellipsis => pure .ellipsis
    | .int n => pure (.int n)
    | .float x => pure (.float x)
    | .str s => pure (.str s)
    | .joined parts =>
      let mut out := ""
      for p in parts do
        out := out ++ (<- fieldText fuel scope p)
      pure (.str out)
    | .formatted .. => pure (.str (<- fieldText fuel scope e))
    | .name n => lookupName scope n
    | .list items => newList (<- displayItems fuel scope items)
    | .tuple items => pure (.tuple (<- displayItems fuel scope items))
    | .set items =>
      let mut acc : Array Value := #[]
      for x in <- displayItems fuel scope items do acc <- setAdd (host fuel) acc x
      pure (.ref (<- alloc (.set acc)))
    | .dict entries =>
      let r <- alloc (.dict #[])
      for (k, v) in entries do
        match k with
        | some ke =>
          let kv <- evalExpr fuel scope ke
          let vv <- evalExpr fuel scope v
          requireHashable kv
          dictSet (host fuel) r kv vv
        | none =>
          let m <- evalExpr fuel scope v
          match <- dictEntries? m with
          | some (_, xs) => for (k, x) in xs do dictSet (host fuel) r k x
          | none => typeError ("'" ++ (<- typeName m) ++ "' object is not a mapping")
      pure (.ref r)
    | .starred _ => raiseException "SyntaxError" "can't use starred expression here"
    | .attr obj name => getAttr fuel (<- evalExpr fuel scope obj) name
    | .subscript obj index =>
      let c <- evalExpr fuel scope obj
      match index with
      | .slice lo hi step => sliceOf fuel scope c lo hi step
      | _ => getItem fuel c (<- evalExpr fuel scope index)
    | .slice .. => raiseException "SyntaxError" "invalid syntax"
    | .call f args =>
      let fv <- evalExpr fuel scope f
      let (pos, kws) <- evalArgs fuel scope args
      match fv, pos with
      | .builtin "super", [] => superObject scope
      | .builtin "eval", _ => runSource fuel scope true pos
      | .builtin "exec", _ => runSource fuel scope false pos
      | .builtin "globals", [] => scopeDict (<- get).globals
      | .builtin "locals", [] | .builtin "vars", [] => scopeDict scope
      | _, _ => callValue fuel fv pos kws
    | .binary op a b =>
      let x <- evalExpr fuel scope a
      let y <- evalExpr fuel scope b
      binop fuel op x y
    | .unary op a =>
      let v <- evalExpr fuel scope a
      match op with
      | .not => pure (.bool !(<- truthy fuel v))
      | .neg =>
        match v with
        | .int n => pure (.int (-n))
        | .bool b => pure (.int (if b then -1 else 0))
        | .float x => pure (.float (-x))
        | _ =>
          match <- callSpecial fuel v "__neg__" [] with
          | some r => pure r
          | none => typeError ("bad operand type for unary -: '" ++ (<- typeName v) ++ "'")
      | .pos =>
        match v with
        | .int n => pure (.int n)
        | .bool b => pure (.int (if b then 1 else 0))
        | .float x => pure (.float x)
        | _ => typeError ("bad operand type for unary +: '" ++ (<- typeName v) ++ "'")
      | .invert =>
        match v with
        | .int n => pure (.int (-n - 1))
        | .bool b => pure (.int (if b then -2 else -1))
        | _ => typeError ("bad operand type for unary ~: '" ++ (<- typeName v) ++ "'")
    | .compare first rest =>
      let mut left <- evalExpr fuel scope first
      for (op, re) in rest do
        let right <- evalExpr fuel scope re
        if !(<- compare fuel op left right) then return .bool false
        left := right
      pure (.bool true)
    | .and a b =>
      let v <- evalExpr fuel scope a
      if <- truthy fuel v then evalExpr fuel scope b else pure v
    | .or a b =>
      let v <- evalExpr fuel scope a
      if <- truthy fuel v then pure v else evalExpr fuel scope b
    | .ifElse c yes no =>
      if <- truthy fuel (<- evalExpr fuel scope c) then evalExpr fuel scope yes
      else evalExpr fuel scope no
    | .lambda params body =>
      let ps <- evalParams fuel scope params
      pure (.ref (<- alloc (.function "<lambda>" ps [.ret (some body)] scope)))
    | .comp kind elt value clauses =>
      let inner <- newScope scope false
      let acc ← alloc (match kind with
        | .dict => .dict #[]
        | .set => .set #[]
        | _ => .list #[])
      compClauses fuel inner kind elt value clauses acc
      match kind with
      | .generator =>
        match <- getObj acc with
        | .list items => pure (.ref (<- alloc (.seqIter items 0)))
        | _ => pure .none
      | _ => pure (.ref acc)
    | .walrus n v =>
      let x <- evalExpr fuel scope v
      setName scope n x
      pure x

/-- The text of one part of a formatted string. -/
def fieldText : Nat -> Nat -> Expr -> Run String
  | 0, _, _ => throw .exhausted
  | fuel + 1, scope, e => do
    match e with
    | .str s => pure s
    | .formatted value conversion spec =>
      let v <- evalExpr fuel scope value
      let v <- match conversion with
        | "r" => pure (.str (<- reprOf fuel [] v))
        | "s" => pure (.str (<- strOf fuel v))
        | "a" => pure (.str (asciiEscape (<- reprOf fuel [] v)))
        | _ => pure v
      let specText <- match <- evalExpr fuel scope spec with
        | .str s => pure s
        | _ => pure ""
      match v with
      | .ref _ =>
        match <- callSpecial fuel v "__format__" [.str specText] with
        | some (.str s) => pure s
        | _ => formatValue (host fuel) v specText
      | _ => formatValue (host fuel) v specText
    | other => strOf fuel (<- evalExpr fuel scope other)

/-- The items of a display, with starred items unpacked. -/
def displayItems : Nat -> Nat -> List Expr -> Run (Array Value)
  | 0, _, _ => throw .exhausted
  | fuel + 1, scope, items => do
    let mut out : Array Value := #[]
    for item in items do
      match item with
      | .starred inner => out := out ++ (<- iterateAll fuel (<- evalExpr fuel scope inner))
      | other => out := out.push (<- evalExpr fuel scope other)
    pure out

/-- The arguments of a call: positional ones and keyword ones, with `*` and `**` unpacked. -/
def evalArgs : Nat -> Nat -> List (ArgKind × Expr) -> Run (List Value × List (String × Value))
  | 0, _, _ => throw .exhausted
  | fuel + 1, scope, args => do
    let mut pos : Array Value := #[]
    let mut kws : Array (String × Value) := #[]
    for (kind, e) in args do
      let v <- evalExpr fuel scope e
      match kind with
      | .positional => pos := pos.push v
      | .star => pos := pos ++ (<- iterateAll fuel v)
      | .keyword n => kws := kws.push (n, v)
      | .doubleStar =>
        match <- dictEntries? v with
        | some (_, xs) =>
          for (k, x) in xs do
            match k with
            | .str n => kws := kws.push (n, x)
            | _ => typeError "keywords must be strings"
        | none => typeError ("argument after ** must be a mapping, not " ++ (<- typeName v))
    pure (pos.toList, kws.toList)

/-- The parameters of a function with their default values computed. -/
def evalParams : Nat -> Nat -> List (String × ParamKind × Option Expr) ->
    Run (List (String × ParamKind × Option Value))
  | 0, _, _ => throw .exhausted
  | fuel + 1, scope, params =>
    params.mapM fun (n, kind, d) => do
      match d with
      | some e => pure (n, kind, some (<- evalExpr fuel scope e))
      | none => pure (n, kind, none)

/-- A slice of a sequence: `c[lo:hi:step]`. -/
def sliceOf : Nat -> Nat -> Value -> Option Expr -> Option Expr -> Option Expr -> Run Value
  | 0, _, _, _, _, _ => throw .exhausted
  | fuel + 1, scope, c, lo, hi, step => do
    let bound (e : Option Expr) : Run (Option Int) := do
      match e with
      | none => pure none
      | some x => optInt (some (<- evalExpr fuel scope x))
    let lo <- bound lo
    let hi <- bound hi
    let step <- bound step
    match c with
    | .str s =>
      let cs := s.toList.toArray
      let idx <- sliceIndices cs.size lo hi step
      pure (.str (String.ofList (idx.map fun i => cs[i]!)))
    | .tuple xs =>
      let idx <- sliceIndices xs.size lo hi step
      pure (.tuple (idx.toArray.map fun i => xs[i]!))
    | .ref r =>
      match <- getObj r with
      | .list xs =>
        let idx <- sliceIndices xs.size lo hi step
        newList (idx.toArray.map fun i => xs[i]!)
      | .range a _ s =>
        let n <- lenOf fuel c
        let idx <- sliceIndices n lo hi step
        pure (.ref (<- alloc (.seqIter (idx.toArray.map fun (i : Nat) => .int (a + (i : Int) * s)) 0)))
      | _ => typeError ("'" ++ (<- typeName c) ++ "' object is not subscriptable")
    | _ => typeError ("'" ++ (<- typeName c) ++ "' object is not subscriptable")

/-- Runs the clauses of a comprehension, adding what it builds to the object at `acc`. -/
def compClauses : Nat -> Nat -> CompKind -> Expr -> Option Expr -> List (Option Expr × Expr) -> Nat ->
    Run Unit
  | 0, _, _, _, _, _, _ => throw .exhausted
  | fuel + 1, scope, kind, elt, value, clauses, acc => do
    match clauses with
    | [] =>
      let v <- evalExpr fuel scope elt
      match <- getObj acc with
      | .dict _ =>
        let x <- match value with
          | some ve => evalExpr fuel scope ve
          | none => pure .none
        requireHashable v
        dictSet (host fuel) acc v x
      | .set items => setObj acc (.set (<- setAdd (host fuel) items v))
      | .list items => setObj acc (.list (items.push v))
      | _ => pure ()
    | (some target, source) :: rest =>
      let it <- iterOf fuel (<- evalExpr fuel scope source)
      for _ in [0:loopLimit] do
        tick
        match <- nextOf fuel it with
        | none => return
        | some x =>
          assign fuel scope target x
          compClauses fuel scope kind elt value rest acc
      throw .exhausted
    | (none, cond) :: rest =>
      if ← truthy fuel (← evalExpr fuel scope cond) then
        compClauses fuel scope kind elt value rest acc

/-- Assigns a value to a target: a name, an attribute, an item, a slice, or a tuple or list of
targets that the value is unpacked into. -/
def assign : Nat -> Nat -> Expr -> Value -> Run Unit
  | 0, _, _, _ => throw .exhausted
  | fuel + 1, scope, target, v => do
    match target with
    | .name n => setName scope n v
    | .attr obj name => setAttribute (<- evalExpr fuel scope obj) name v
    | .subscript obj index =>
      let c <- evalExpr fuel scope obj
      match index with
      | .slice lo hi none =>
        match c with
        | .ref r =>
          match <- getObj r with
          | .list xs =>
            let bound (e : Option Expr) : Run (Option Int) := do
              match e with
              | none => pure none
              | some x => optInt (some (<- evalExpr fuel scope x))
            let (a, b) := sliceBounds xs.size (<- bound lo) (<- bound hi)
            let b := Nat.max a b
            let new <- iterateAll fuel v
            setObj r (.list (xs.extract 0 a ++ new ++ xs.extract b xs.size))
          | _ => typeError ("'" ++ (<- typeName c) ++ "' object does not support slice assignment")
        | _ => typeError ("'" ++ (<- typeName c) ++ "' object does not support item assignment")
      | _ => setItem fuel c (<- evalExpr fuel scope index) v
    | .tuple targets | .list targets =>
      let items <- iterateAll fuel v
      let starAt := targets.findIdx? fun t => match t with
        | .starred _ => true
        | _ => false
      match starAt with
      | none =>
        if items.size > targets.length then
          valueError ("too many values to unpack (expected " ++ toString targets.length ++ ")")
        if items.size < targets.length then
          valueError ("not enough values to unpack (expected " ++ toString targets.length ++ ", got " ++
            toString items.size ++ ")")
        for (t, x) in targets.zip items.toList do assign fuel scope t x
      | some k =>
        let after := targets.length - k - 1
        if items.size < targets.length - 1 then
          valueError ("not enough values to unpack (expected at least " ++ toString (targets.length - 1) ++
            ", got " ++ toString items.size ++ ")")
        let middle := items.extract k (items.size - after)
        let mut i := 0
        for t in targets do
          if i < k then assign fuel scope t items[i]!
          else if i == k then
            match t with
            | .starred inner => assign fuel scope inner (<- newList middle)
            | _ => pure ()
          else assign fuel scope t items[items.size - (targets.length - i)]!
          i := i + 1
    | .starred inner => assign fuel scope inner v
    | _ => raiseException "SyntaxError" "cannot assign to expression"

/-- Deletes a target: a name, an item or an attribute. -/
def deleteTarget : Nat -> Nat -> Expr -> Run Unit
  | 0, _, _ => throw .exhausted
  | fuel + 1, scope, target => do
    match target with
    | .name n => deleteName scope n
    | .tuple ts | .list ts => for t in ts do deleteTarget fuel scope t
    | .attr obj name =>
      match <- evalExpr fuel scope obj with
      | .ref r =>
        match <- getObj r with
        | .inst c attrs =>
          if (scopeGet? attrs name).isNone then raiseException "AttributeError" name
          setObj r (.inst c (attrs.filter (·.1 != name)))
        | _ => raiseException "AttributeError" name
      | _ => raiseException "AttributeError" name
    | .subscript obj index =>
      let c <- evalExpr fuel scope obj
      match c with
      | .ref r =>
        match <- getObj r, index with
        | .list xs, .slice lo hi step =>
          let bound (e : Option Expr) : Run (Option Int) := do
            match e with
            | none => pure none
            | some x => optInt (some (<- evalExpr fuel scope x))
          let idx <- sliceIndices xs.size (<- bound lo) (<- bound hi) (<- bound step)
          let kept := (List.range xs.size).filter (!idx.contains ·)
          setObj r (.list (kept.toArray.map fun i => xs[i]!))
        | .list xs, _ =>
          let i <- intArg (<- evalExpr fuel scope index)
          match seqIndex xs.size i with
          | some j => setObj r (.list (xs.eraseIdx! j))
          | none => raiseException "IndexError" "list assignment index out of range"
        | .dict xs, _ =>
          let k <- evalExpr fuel scope index
          match <- findKey (host fuel) xs k with
          | some j => setObj r (.dict (xs.eraseIdx! j))
          | none => keyError k
        | _, _ =>
          let k <- evalExpr fuel scope index
          match <- callSpecial fuel c "__delitem__" [k] with
          | some _ => pure ()
          | none => typeError ("'" ++ (<- typeName c) ++ "' object doesn't support item deletion")
      | _ => typeError ("'" ++ (<- typeName c) ++ "' object doesn't support item deletion")
    | _ => raiseException "SyntaxError" "cannot delete expression"

/-- Runs a block of statements. -/
def execBlock : Nat -> Nat -> List Stmt -> Run Unit
  | 0, _, _ => throw .exhausted
  | fuel + 1, scope, body => do
    for s in body do execStmt fuel scope s

/-- Runs a loop body: whether it ended with `break`. -/
def loopBody : Nat -> Nat -> List Stmt -> Run Bool
  | 0, _, _ => throw .exhausted
  | fuel + 1, scope, body =>
    tryCatch (do execBlock fuel scope body; pure false) fun e =>
      match e with
      | .broke => pure true
      | .continued => pure false
      | other => throw other

/-- Runs one statement. -/
def execStmt : Nat -> Nat -> Stmt -> Run Unit
  | 0, _, _ => throw .exhausted
  | fuel + 1, scope, s => do
    tick
    match s with
    | .expr e => let _ <- evalExpr fuel scope e
    | .assign targets value =>
      let v <- evalExpr fuel scope value
      for t in targets do assign fuel scope t v
    | .augAssign target op value =>
      match target with
      | .name n =>
        let cur <- lookupName scope n
        let rhs <- evalExpr fuel scope value
        setName scope n (<- augmented fuel op cur rhs)
      | .attr obj name =>
        let o <- evalExpr fuel scope obj
        let cur <- getAttr fuel o name
        let rhs <- evalExpr fuel scope value
        setAttribute o name (<- augmented fuel op cur rhs)
      | .subscript obj index =>
        let c <- evalExpr fuel scope obj
        let i <- evalExpr fuel scope index
        let cur <- getItem fuel c i
        let rhs <- evalExpr fuel scope value
        setItem fuel c i (<- augmented fuel op cur rhs)
      | _ => raiseException "SyntaxError" "illegal expression for augmented assignment"
    | .annotated _ => pure ()
    | .pass => pure ()
    | .brk => throw .broke
    | .cont => throw .continued
    | .ret value =>
      let v <- match value with
        | some e => evalExpr fuel scope e
        | none => pure .none
      throw (.returned v)
    | .ifs branches orelse =>
      for (cond, body) in branches do
        if ← truthy fuel (← evalExpr fuel scope cond) then
          return <- execBlock fuel scope body
      execBlock fuel scope orelse
    | .whileLoop cond body orelse =>
      for _ in [0:loopLimit] do
        tick
        if !(← truthy fuel (← evalExpr fuel scope cond)) then
          return ← execBlock fuel scope orelse
        if <- loopBody fuel scope body then return
      throw .exhausted
    | .forLoop target source body orelse =>
      let it <- iterOf fuel (<- evalExpr fuel scope source)
      for _ in [0:loopLimit] do
        tick
        match <- nextOf fuel it with
        | none => return ← execBlock fuel scope orelse
        | some x =>
          assign fuel scope target x
          if <- loopBody fuel scope body then return
      throw .exhausted
    | .define name params body decorators =>
      let decos <- decorators.mapM (evalExpr fuel scope)
      let ps <- evalParams fuel scope params
      let mut f : Value := .ref (<- alloc (.function name ps body scope))
      for d in decos.reverse do f <- callValue fuel d [f] []
      setName scope name f
    | .classDef name bases body decorators =>
      let decos <- decorators.mapM (evalExpr fuel scope)
      let bs <- bases.mapM (evalExpr fuel scope)
      let inner <- newScope scope true
      execBlock fuel inner body
      let attrs <- match <- getObj inner with
        | .scope vars .. => pure vars
        | _ => pure #[]
      let cref <- alloc (.classObj name bs attrs)
      setName inner "__class__" (.ref cref)
      let mut cls : Value := .ref cref
      for d in decos.reverse do cls <- callValue fuel d [cls] []
      setName scope name cls
    | .importModules modules =>
      for (m, asName) in modules do
        let top := (m.splitOn ".").headD m
        if !knownModules.contains top then
          raiseException "ModuleNotFoundError" ("No module named '" ++ m ++ "'")
        match asName with
        | some n => setName scope n (.module m)
        | none => setName scope top (.module top)
    | .importFrom m names =>
      if !knownModules.contains ((m.splitOn ".").headD m) then
        raiseException "ModuleNotFoundError" ("No module named '" ++ m ++ "'")
      for (n, asName) in names do
        if n == "*" then continue
        match moduleAttr m n with
        | some v => setName scope (asName.getD n) v
        | none =>
          if m == "sys" && n == "argv" then setName scope (asName.getD n) (<- newList #[.str "-c"])
          else raiseException "ImportError" ("cannot import name '" ++ n ++ "' from '" ++ m ++ "' (unknown location)")
    | .tryStmt body handlers orelse final =>
      let outcome <- tryCatch (do execBlock fuel scope body; pure none) fun e => pure (some e)
      let outcome <- match outcome with
        | some (.raised exc) =>
          handle fuel scope exc handlers
        | some other => pure (some other)
        | none => tryCatch (do execBlock fuel scope orelse; pure none) fun e => pure (some e)
      match outcome with
      | some .waiting => throw .waiting
      | some .exhausted => throw .exhausted
      | _ => pure ()
      execBlock fuel scope final
      match outcome with
      | some e => throw e
      | none => pure ()
    | .raise value _ =>
      match value with
      | none =>
        match (<- get).handling with
        | exc :: _ => throw (.raised exc)
        | [] => raiseException "RuntimeError" "No active exception to reraise"
      | some e =>
        let v <- evalExpr fuel scope e
        throw (.raised (<- raisable fuel v))
    | .global names => declareNames scope names true
    | .nonlocal names => declareNames scope names false
    | .del targets => for t in targets do deleteTarget fuel scope t
    | .assert cond msg =>
      if !(← truthy fuel (← evalExpr fuel scope cond)) then
        let args <- match msg with
          | some m => pure #[<- evalExpr fuel scope m]
          | none => pure #[]
        throw (.raised (<- newException "AssertionError" args))
    | .yieldValue value =>
      let v <- match value with
        | some e => evalExpr fuel scope e
        | none => pure .none
      collect [v]
    | .yieldFrom source => collect (<- iterateAll fuel (<- evalExpr fuel scope source)).toList
    | .withStmt items body =>
      -- contexts are entered in order and left in the reverse order, also when the body raises
      let mut entered : List Value := []
      for (ctx, target) in items do
        let c <- evalExpr fuel scope ctx
        let v <- match c with
          | .ref r =>
            match <- getObj r with
            | .redirect t true =>
              modify fun m => { m with redirects := t :: m.redirects }
              pure t
            | .inst .. =>
              match <- callSpecial fuel c "__enter__" [] with
              | some v => pure v
              | none => raiseException "AttributeError" "__enter__"
            | _ => pure c
          | _ => pure c
        entered := c :: entered
        if let some t := target then assign fuel scope t v
      let outcome <- tryCatch (do execBlock fuel scope body; pure none) fun e => pure (some e)
      match outcome with
      | some .waiting => throw .waiting
      | some .exhausted => throw .exhausted
      | _ => pure ()
      let mut pending := outcome
      for c in entered do
        if let .ref r := c then
          match <- getObj r with
          | .redirect _ true => modify fun m => { m with redirects := m.redirects.drop 1 }
          | .inst .. =>
            let info <- match pending with
              | some (.raised exc) => pure [<- typeOf exc, exc, Value.none]
              | _ => pure [Value.none, Value.none, Value.none]
            let result <- callSpecial fuel c "__exit__" info
            if let some (.raised _) := pending then
              if let some x := result then
                if <- truthy fuel x then pending := none
          | _ => pure ()
      if let some e := pending then throw e

/-- Runs a program text for `eval` (one expression, whose value it gives) or `exec` (any
statements). -/
def runSource : Nat -> Nat -> Bool -> List Value -> Run Value
  | 0, _, _, _ => throw .exhausted
  | fuel + 1, scope, isEval, args => do
    let fname := if isEval then "eval" else "exec"
    let src <- match args.head? with
      | some (.str s) => pure s
      | some _ => typeError (fname ++ "() arg 1 must be a string, bytes or code object")
      | none => typeError (fname ++ " expected at least 1 argument, got 0")
    let program <- match parseProgram src with
      | .ok p => pure p
      | .error _ => raiseException "SyntaxError" "invalid syntax (<string>, line 1)"
    let target <- match args[1]? with
      | none | some Value.none => pure none
      | some d =>
        match <- dictEntries? d with
        | some (dr, entries) =>
          let vars := entries.filterMap fun (k, v) => match k with
            | .str n => some (n, v)
            | _ => none
          pure (some (dr, <- alloc (.scope vars none [] [] false)))
        | none => typeError (fname ++ "() globals must be a dict, not " ++ (<- typeName d))
    let runScope := match target with
      | some (_, s) => s
      | none => scope
    let writeBack : Run Unit := do
      if let some (dr, s) := target then
        match <- getObj s with
        | .scope vars .. => for (n, v) in vars do dictSet (host fuel) dr (.str n) v
        | _ => pure ()
    let result ← tryCatch (do
        if isEval then
          match program with
          | [.expr e] => evalExpr fuel runScope e
          | _ => raiseException "SyntaxError" "invalid syntax (<string>, line 1)"
        else
          execBlock fuel runScope program
          pure .none) fun e => do
      writeBack
      throw e
    writeBack
    pure result

/-- Runs the handler of a `try` that matches an exception; what ends the statement early, if
anything. -/
def handle : Nat -> Nat -> Value -> List (Option Expr × Option String × List Stmt) -> Run (Option Signal)
  | 0, _, _, _ => throw .exhausted
  | fuel + 1, scope, exc, handlers => do
    for (cls, name, body) in handlers do
      let hit <- match cls with
        | none => pure true
        | some ce => isInstance exc (<- evalExpr fuel scope ce)
      if hit then
        if let some n := name then setName scope n exc
        modify fun m => { m with handling := exc :: m.handling }
        let r <- tryCatch (do execBlock fuel scope body; pure none) fun e => pure (some e)
        modify fun m => { m with handling := m.handling.drop 1 }
        if let some n := name then
          let _ <- tryCatch (deleteName scope n) fun _ => pure ()
        return r
    pure (some (.raised exc))

/-- The exception a `raise` raises: an exception as it is, a class made into one. -/
def raisable : Nat -> Value -> Run Value
  | 0, _ => throw .exhausted
  | fuel + 1, v => do
    match v with
    | .builtin n =>
      if isExceptionClass n then newException n #[]
      else typeError "exceptions must derive from BaseException"
    | .ref r =>
      match <- getObj r with
      | .exception .. => pure v
      | .inst c _ =>
        if (<- exceptionBaseOf c).isSome then pure v
        else typeError "exceptions must derive from BaseException"
      | .classObj .. =>
        if (<- exceptionBaseOf r).isSome then callValue fuel v [] []
        else typeError "exceptions must derive from BaseException"
      | _ => typeError "exceptions must derive from BaseException"
    | _ => typeError "exceptions must derive from BaseException"

/-- Adds values to the list the innermost generator being run collects. -/
def collect (values : List Value) : Run Unit := do
  match (<- get).yields with
  | r :: _ =>
    match <- getObj r with
    | .list items => setObj r (.list (items ++ values.toArray))
    | _ => pure ()
  | [] => raiseException "SyntaxError" "'yield' outside function"

/-- The value of an augmented assignment: lists, dictionaries and sets change in place. -/
def augmented : Nat -> BinOp -> Value -> Value -> Run Value
  | 0, _, _, _ => throw .exhausted
  | fuel + 1, op, cur, rhs => do
    match cur with
    | .ref r =>
      match <- getObj r, op with
      | .list xs, .add =>
        let more <- iterateAll fuel rhs
        let xs := match <- getObj r with
          | .list now => now
          | _ => xs
        setObj r (.list (xs ++ more))
        pure cur
      | .dict _, .bitOr =>
        dictUpdate (host fuel) r (some rhs) []
        pure cur
      | .set _, .bitOr | .set _, .bitAnd | .set _, .sub | .set _, .bitXor =>
        match <- binop fuel op cur rhs with
        | .ref n =>
          setObj r (<- getObj n)
          pure cur
        | other => pure other
      | .inst .., _ =>
        let name := "__i" ++ (match op with
          | .add => "add"
          | .sub => "sub"
          | .mul => "mul"
          | _ => "other") ++ "__"
        match <- callSpecial fuel cur name [rhs] with
        | some v => pure v
        | none => binop fuel op cur rhs
      | _, _ => binop fuel op cur rhs
    | _ => binop fuel op cur rhs

end

end TranscriptTest.Python
