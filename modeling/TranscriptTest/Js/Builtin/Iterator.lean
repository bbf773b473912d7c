import TranscriptTest.Js.Builtin.Collection

/-!
# Iterators and their helpers

Every built-in iterator has a prototype of its own, tagged with its kind and holding its
`next`, under `Iterator.prototype`, which gives every iterator the helper methods. The lazy
ones, `map`, `filter`, `take`, `drop` and `flatMap`, make an iterator helper that takes values
from the iterator only as it is asked for its own; the others, `reduce`, `toArray`, `forEach`,
`some`, `every` and `find`, read the iterator at once, stopping (and closing it) as soon as the
answer is known. `Iterator.from` wraps an iterator that does not inherit the helpers.
-/

namespace TranscriptTest.Js

/-- The tags of the built-in iterators, each with a prototype of its own. -/
def iteratorTags : List String :=
  ["Array Iterator", "Map Iterator", "Set Iterator", "String Iterator", "RegExp String Iterator",
   "Segmenter String Iterator", "Iterator Helper"]

/-- The most values one call of an iterator method takes from its iterator. -/
def iteratorFuel : Nat := 10000000

/-- Takes the next value of an iterator with its `next` method; `none` once it is done. -/
def Host.stepIter (h : Host) (it next : Value) : Eval (Option Value) := do
  let r <- h.call next it []
  match r with
  | .obj _ =>
    if (<- h.get r "done").truthy then pure none else some <$> h.get r "value"
  | _ => throwType ("Iterator result " ++ (<- describeValue r) ++ " is not an object")

/-- Closes an iterator: calls its `return` method, if it has one. -/
def Host.closeIter (h : Host) (it : Value) : Eval Unit := do
  let ret <- h.get it "return"
  if ← isCallable ret then
    let _ <- h.call ret it []

/-- Calls a function on a value taken from an iterator; if the call throws, the iterator is
closed before the error goes on. -/
def Host.callClosing (h : Host) (it f : Value) (args : List Value) : Eval Value :=
  tryCatch (h.call f .undefined args) fun a => do
    match a with
    | .thrown _ => h.closeIter it
    | _ => pure ()
    throw a

/-- The iterator `this` refers to, with its `next` method. -/
def Host.directIterator (h : Host) (this : Value) (method : String) : Eval (Value × Value) := do
  match this with
  | .obj _ => pure (this, <- h.get this "next")
  | _ => throwType ("Iterator.prototype." ++ method ++ " called on non-object")

/-- A function argument of a helper method, refused before anything is read. -/
def Host.callbackArg (h : Host) (it f : Value) : Eval Unit := do
  if !(← isCallable f) then
    h.closeIter it
    throwType ((<- describeValue f) ++ " is not a function")

/-- A new iterator helper. -/
def newHelper (source next : Value) (step : HelperStep) : Eval Value := do
  let i <- intrinsics
  let proto := (i.iteratorProtos.lookup "Iterator Helper").getD i.iteratorProto
  pure (.obj (<- alloc { kind := .helper source next step 0 false, proto := some proto }))

/-- The value a helper passes on next, taking as many values from its source as it needs;
`none` once it is done. -/
def Host.helperPull (h : Host) (source next : Value) :
    Nat -> HelperStep -> Nat -> Eval (Option Value × HelperStep × Nat)
  | 0, step, count => pure (none, step, count)
  | fuel + 1, step, count => do
    match step with
    | .pass =>
      pure ((<- h.stepIter source next), step, count)
    | .map f =>
      match <- h.stepIter source next with
      | none => pure (none, step, count)
      | some v => pure (some (<- h.callClosing source f [v, .num count.toFloat]), step, count + 1)
    | .filter f =>
      match <- h.stepIter source next with
      | none => pure (none, step, count)
      | some v =>
        if (<- h.callClosing source f [v, .num count.toFloat]).truthy then pure (some v, step, count + 1)
        else h.helperPull source next fuel step (count + 1)
    | .take left =>
      if left == 0 then
        h.closeIter source
        pure (none, step, count)
      else
        match <- h.stepIter source next with
        | none => pure (none, step, count)
        | some v => pure (some v, .take (left - 1), count + 1)
    | .drop left =>
      if left == 0 then pure ((<- h.stepIter source next), step, count)
      else
        match <- h.stepIter source next with
        | none => pure (none, step, count)
        | some _ => h.helperPull source next fuel (.drop (left - 1)) (count + 1)
    | .flatMap f inner =>
      match inner with
      | some (it, itNext) =>
        match <- h.stepIter it itNext with
        | some v => pure (some v, step, count)
        | none => h.helperPull source next fuel (.flatMap f none) count
      | none =>
        match <- h.stepIter source next with
        | none => pure (none, step, count)
        | some v =>
          let mapped <- h.callClosing source f [v, .num count.toFloat]
          let it <- match mapped with
            | .obj _ => do
              let method <- h.get mapped (wellKnownKey "iterator")
              if method.isNullish then pure mapped else h.call method mapped []
            | _ => do
              h.closeIter source
              throwType ((<- describeValue mapped) ++ " is not an object")
          let itNext <- h.get it "next"
          h.helperPull source next fuel (.flatMap f (some (it, itNext))) (count + 1)

/-- `next` of an iterator helper. -/
def helperNext : NativeFn := fun h this _ _ => do
  let refused : Eval Value := do
    throwType ("Method Iterator Helper.prototype.next called on incompatible receiver " ++
      (<- describeValue this))
  match this with
  | .obj ref =>
    match (<- getObj ref).kind with
    | .helper source next step count done =>
      if done then return <- iterResult .undefined true
      let (v, step, count) <- h.helperPull source next iteratorFuel step count
      match v with
      | some x =>
        modifyObj ref fun o => { o with kind := .helper source next step count false }
        iterResult x false
      | none =>
        modifyObj ref fun o => { o with kind := .helper source next step count true }
        iterResult .undefined true
    | _ => refused
  | _ => refused

/-- `return` of an iterator helper: closes its source and ends it. -/
def helperReturn : NativeFn := fun h this _ _ => do
  match this with
  | .obj ref =>
    match (<- getObj ref).kind with
    | .helper source next step count done =>
      if !done then
        modifyObj ref fun o => { o with kind := .helper source next step count true }
        h.closeIter source
      iterResult .undefined true
    | _ => throwType "Method Iterator Helper.prototype.return called on incompatible receiver"
  | _ => throwType "Method Iterator Helper.prototype.return called on incompatible receiver"

/-- `map`, `filter` and `flatMap`: a helper calling the function on each value. -/
def iteratorLazy (method : String) (make : Value → HelperStep) : NativeFn := fun h this args _ => do
  let (it, next) <- h.directIterator this method
  let f := argAt args 0
  h.callbackArg it f
  newHelper it next (make f)

/-- The count argument of `take` and `drop`: a number that is not negative. -/
def Host.countArg (h : Host) (it v : Value) : Eval Nat := do
  let x <- h.toNum v
  if x.isNaN then
    h.closeIter it
    raiseError .rangeError ((<- h.toStr v) ++ " must be positive")
  let n := if x < 0 then -((-x).floor) else x.floor
  if n < 0 then
    h.closeIter it
    raiseError .rangeError ((<- h.toStr v) ++ " must be positive")
  pure (if n.isInf then iteratorFuel else integerPart n)

/-- `take(n)`: a helper passing on at most `n` values. -/
def iteratorTake : NativeFn := fun h this args _ => do
  let (it, next) <- h.directIterator this "take"
  let n <- h.countArg it (argAt args 0)
  newHelper it next (.take n)

/-- `drop(n)`: a helper passing over the first `n` values. -/
def iteratorDrop : NativeFn := fun h this args _ => do
  let (it, next) <- h.directIterator this "drop"
  let n <- h.countArg it (argAt args 0)
  newHelper it next (.drop n)

/-- Reads an iterator at once: `visit` sees each value with its index and says whether to go
on; stopping early closes the iterator. -/
def Host.readIter (h : Host) (it next : Value) (visit : Value -> Nat -> Eval Bool) :
    Nat -> Nat -> Eval Unit
  | 0, _ => pure ()
  | fuel + 1, i => do
    match <- h.stepIter it next with
    | none => pure ()
    | some v =>
      let goOn ← tryCatch (visit v i) fun a => do
        match a with
        | .thrown _ => h.closeIter it
        | _ => pure ()
        throw a
      if goOn then h.readIter it next visit fuel (i + 1) else h.closeIter it

/-- `toArray()`. -/
def iteratorToArray : NativeFn := fun h this _ _ => do
  let (it, next) <- h.directIterator this "toArray"
  let rec collect : Nat -> Array Value -> Eval (Array Value)
    | 0, xs => pure xs
    | fuel + 1, xs => do
      match <- h.stepIter it next with
      | none => pure xs
      | some v => collect fuel (xs.push v)
  newArray (<- collect iteratorFuel #[])

/-- `forEach(f)`. -/
def iteratorForEach : NativeFn := fun h this args _ => do
  let (it, next) <- h.directIterator this "forEach"
  let f := argAt args 0
  h.callbackArg it f
  h.readIter it next (fun v i => do let _ <- h.call f .undefined [v, .num i.toFloat]; pure true)
    iteratorFuel 0
  pure .undefined

/-- `some(f)`, `every(f)` and `find(f)`: stop at the first value the function answers `stop`
for. -/
def iteratorSearch (method : String) (stop : Bool) (found notFound : Value -> Value) :
    NativeFn := fun h this args _ => do
  let (it, next) <- h.directIterator this method
  let f := argAt args 0
  h.callbackArg it f
  let rec search : Nat -> Nat -> Eval Value
    | 0, _ => pure (notFound .undefined)
    | fuel + 1, i => do
      match <- h.stepIter it next with
      | none => pure (notFound .undefined)
      | some v =>
        let answer <- h.callClosing it f [v, .num i.toFloat]
        if answer.truthy == stop then
          h.closeIter it
          pure (found v)
        else search fuel (i + 1)
  search iteratorFuel 0

/-- `reduce(f, initial)`: without an initial value the first value starts, and an empty
iterator is a type error. -/
def iteratorReduce : NativeFn := fun h this args _ => do
  let (it, next) <- h.directIterator this "reduce"
  let f := argAt args 0
  h.callbackArg it f
  let (start, i) <- if args.length >= 2 then pure (argAt args 1, 0)
    else match <- h.stepIter it next with
      | some v => pure (v, 1)
      | none => throwType "Reduce of empty iterator with no initial value"
  let rec fold : Nat -> Value -> Nat -> Eval Value
    | 0, acc, _ => pure acc
    | fuel + 1, acc, i => do
      match <- h.stepIter it next with
      | none => pure acc
      | some v => fold fuel (<- h.callClosing it f [acc, v, .num i.toFloat]) (i + 1)
  fold iteratorFuel start i

/-- `Iterator()`: an abstract class, made only through a class extending it. -/
def iteratorCtor : NativeFn := fun h _ _ nt => do
  match nt with
  | none => throwType "Constructor Iterator requires 'new'"
  | some _ =>
    let proto <- h.protoFor nt (<- intrinsics).iteratorProto
    if proto == (← intrinsics).iteratorProto then
      throwType "Abstract class Iterator not directly constructable"
    pure (.obj (<- alloc { proto := some proto }))

/-- `Iterator.from(value)`: an iterable's iterator or an iterator itself, wrapped in a helper
when it does not inherit from `Iterator.prototype`. -/
def iteratorFrom : NativeFn := fun h _ args _ => do
  let v := argAt args 0
  let it <- match v with
    | .str _ | .obj _ => do
      let method <- h.get v (wellKnownKey "iterator")
      if method.isNullish then
        match v with
        | .obj _ => pure v
        | _ => throwType ((<- describeValue v) ++ " is not an object")
      else h.call method v []
    | _ => throwType ((<- describeValue v) ++ " is not an object")
  match it with
  | .obj r =>
    if <- inheritsFrom (<- intrinsics).iteratorProto (<- heapBound) r then pure it
    else newHelper it (<- h.get it "next") .pass
  | _ => throwType ((<- describeValue it) ++ " is not an object")

/-- The getter of `Iterator.prototype[Symbol.toStringTag]`. -/
def iteratorTagGetter : NativeFn := fun _ _ _ _ => pure (.str "Iterator")

/-- The getter of `Iterator.prototype.constructor`. -/
def iteratorCtorGetter : NativeFn := fun h _ _ _ => do
  h.get (.obj (<- get).global) "Iterator"

/-- The setters of `Iterator.prototype`'s `constructor` and tag: they define the property on
the object written to, unless that is the prototype itself. -/
def iteratorProtoSetter (key : String) : NativeFn := fun _ this args _ => do
  match this with
  | .obj r =>
    if r == (<- intrinsics).iteratorProto then throwType "Cannot assign to read only property"
    defineData r key (argAt args 0) true true true
  | _ => throwType "Iterator setter called on non-object"
  pure .undefined

end TranscriptTest.Js
