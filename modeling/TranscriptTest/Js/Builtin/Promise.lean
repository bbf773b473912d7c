import TranscriptTest.Js.Builtin.Error
import TranscriptTest.Js.Promise

/-!
# `Promise` and `AggregateError`

`new Promise(executor)` calls the executor at once with the promise's first pair of resolving
functions; an executor that throws rejects the promise. `then` adds a reaction and gives the
promise the reaction's result settles; `catch` and `finally` go through it. `Promise.resolve`
gives a promise as it is and wraps anything else; `all`, `allSettled`, `race` and `any` gather
the promises of an iterable's values.
-/

namespace TranscriptTest.Js

/-- The promise `this` refers to, for a method of `Promise.prototype`. -/
def thisPromise (this : Value) (method : String) : Eval Nat := do
  match this with
  | .obj r =>
    match (<- getObj r).kind with
    | .promise _ => pure r
    | _ => throwType ("Method Promise.prototype." ++ method ++ " called on incompatible receiver " ++
        (<- describeValue this))
  | _ => throwType ("Method Promise.prototype." ++ method ++ " called on incompatible receiver " ++
      (<- describeValue this))

/-- The handler a value given to `then` stands for: a function, or nothing. -/
def handlerOf (v : Value) : Eval Handler := do
  if <- isCallable v then pure (.fn v) else pure .passOn

/-- `new Promise(executor)`. -/
def promiseCtor : NativeFn := fun h _ args nt => do
  if nt.isNone then throwType "Promise constructor cannot be invoked without 'new'"
  let executor := argAt args 0
  if !(← isCallable executor) then
    throwType ("Promise resolver " ++ (<- describeValue executor) ++ " is not a function")
  let p <- newPromiseWith (<- h.protoFor nt (<- intrinsics).promiseProto)
  let (resolve, reject) <- resolvingFunctions p 0
  let depth := (<- get).depth
  tryCatch (do let _ <- h.call executor .undefined [resolve, reject]) fun a => match a with
    | .thrown e => do
      modify fun r => { r with depth := depth }
      let _ <- h.call reject .undefined [e]
    | other => throw other
  pure (.obj p)

/-- The resolve function of a pair: given the promise and the pair's number before the value,
it resolves the promise if the promise still waits for this pair. -/
def promiseResolveFunction : NativeFn := fun h _ args _ => do
  match argAt args 0, argAt args 1 with
  | .obj p, .num t =>
    let token := integerPart t
    if ← awaitsPair p token then
      let _ <- nextPair p
      resolvePromise (h.get · "then") p (argAt args 2)
  | _, _ => pure ()
  pure .undefined

/-- The reject function of a pair. -/
def promiseRejectFunction : NativeFn := fun _ _ args _ => do
  match argAt args 0, argAt args 1 with
  | .obj p, .num t =>
    if <- awaitsPair p (integerPart t) then settlePromise p (argAt args 2) true
  | _, _ => pure ()
  pure .undefined

/-- `Promise.prototype.then(onFulfilled, onRejected)`. -/
def promiseThen : NativeFn := fun _ this args _ => do
  let p <- thisPromise this "then"
  let derived <- newPromise
  reactTo p (<- handlerOf (argAt args 0)) (<- handlerOf (argAt args 1)) (some derived)
  pure (.obj derived)

/-- `Promise.prototype.catch(onRejected)`: `then(undefined, onRejected)`. -/
def promiseCatch : NativeFn := fun h this args _ => do
  let thenFn <- h.get this "then"
  if !(← isCallable thenFn) then
    throwType ((<- describeValue thenFn) ++ " is not a function")
  h.call thenFn this [.undefined, argAt args 0]

/-- `Promise.prototype.finally(onFinally)`: the function runs on either outcome, and the value
or the reason passes on. -/
def promiseFinally : NativeFn := fun h this args _ => do
  let f := argAt args 0
  if ← isCallable f then
    let p <- thisPromise this "finally"
    let derived <- newPromise
    reactTo p (.finallyFn f) (.finallyFn f) (some derived)
    pure (.obj derived)
  else
    let thenFn <- h.get this "then"
    h.call thenFn this [f, f]

/-- `Promise.resolve(value)`. -/
def promiseResolve : NativeFn := fun h _ args _ => do
  pure (.obj (<- promiseOf (h.get · "then") (argAt args 0)))

/-- `Promise.reject(reason)`. -/
def promiseReject : NativeFn := fun _ _ args _ => do
  let p <- newPromise
  settlePromise p (argAt args 0) true
  pure (.obj p)

/-- `Promise.withResolvers()`: a new promise with its resolving functions. -/
def promiseWithResolvers : NativeFn := fun _ _ _ _ => do
  let p <- newPromise
  let (resolve, reject) <- resolvingFunctions p 0
  let o <- newObject
  setField o "promise" (.obj p)
  setField o "resolve" resolve
  setField o "reject" reject
  pure (.obj o)

/-- The error `Promise.any` rejects with: every promise was rejected, with these reasons. -/
def allRejected (reasons : Array Value) : Eval Value := do
  let e <- makeError .aggregateError "All promises were rejected"
  match e with
  | .obj r => defineData r "errors" (<- newArray reasons) true false true
  | _ => pure ()
  pure e

/-- Gathers the promises of an iterable's values into one result, each element reacting to
its promise as `onValue` and `onReason` say. -/
def gatherPromises (h : Host) (iterable : Value) (onValue onReason : Gather)
    (empty : Nat → Eval Unit) : Eval Value := do
  let result <- newPromise
  let depth := (<- get).depth
  tryCatch (do
      let items <- h.iterate iterable
      let state <- alloc { kind := .gathering (Array.replicate items.size none) items.size result }
      for (item, i) in items.toList.zipIdx do
        let p <- promiseOf (h.get · "then") item
        reactTo p (.gather onValue state i) (.gather onReason state i) none
      if items.isEmpty then empty result) fun a => match a with
    | .thrown e => do
      modify fun r => { r with depth := depth }
      settlePromise result e true
    | other => throw other
  pure (.obj result)

/-- `Promise.all(iterable)`. -/
def promiseAll : NativeFn := fun h _ args _ => do
  gatherPromises h (argAt args 0) .value .reject fun result => do
    settlePromise result (<- newArray #[]) false

/-- `Promise.allSettled(iterable)`. -/
def promiseAllSettled : NativeFn := fun h _ args _ => do
  gatherPromises h (argAt args 0) .settledValue .settledReason fun result => do
    settlePromise result (<- newArray #[]) false

/-- `Promise.race(iterable)`: a race with no runners never ends. -/
def promiseRace : NativeFn := fun h _ args _ => do
  gatherPromises h (argAt args 0) .resolve .reject fun _ => pure ()

/-- `Promise.any(iterable)`. -/
def promiseAny : NativeFn := fun h _ args _ => do
  gatherPromises h (argAt args 0) .resolve .reason fun result => do
    settlePromise result (<- allRejected #[]) true

/-- `new AggregateError(errors, message)`. -/
def aggregateErrorCtor : NativeFn := fun h _ args nt => do
  let i <- intrinsics
  let proto <- h.protoFor nt i.aggregateErrorProto
  let trace <- captureTrace (<- traceSkipFor nt)
  let ref <- alloc { kind := .error, proto := some proto, pendingTrace := trace }
  match argAt args 1 with
  | .undefined => pure ()
  | m => defineData ref "message" (.str (<- h.toStr m)) true false true
  match argAt args 2 with
  | .obj opts =>
    if ← hasProperty opts "cause" then
      defineData ref "cause" (<- h.get (.obj opts) "cause") true false true
  | _ => pure ()
  let errors <- h.iterate (argAt args 0)
  defineData ref "errors" (<- newArray errors) true false true
  pure (.obj ref)

/-- `Array.fromAsync(items)`: a promise of an array of the items, each awaited. -/
def arrayFromAsync : NativeFn := fun h _ args _ => do
  let values <- h.iterate (argAt args 0)
  gatherPromises h (← newArray values) .value .reject fun result => do
    settlePromise result (<- newArray #[]) false

end TranscriptTest.Js
