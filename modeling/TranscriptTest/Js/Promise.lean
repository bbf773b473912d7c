import TranscriptTest.Js.Native

/-!
# Promises

A promise waits, then settles once: fulfilled with a value or rejected with a reason. What is
to happen when it settles is a list of reactions, each a handler for either outcome and the
promise that the handler's result settles in turn. Reactions never run at once: settling a
promise queues a job for each, and a reaction added to a promise already settled is queued
straight away. The jobs run when the script running now is done, in the order they were
queued.
-/

namespace TranscriptTest.Js

/-- Queues a job after those already waiting. -/
def enqueueJob (j : Job) : Eval Unit :=
  modify fun r => { r with jobs := r.jobs ++ [j] }

/-- A new pending promise with the given prototype. -/
def newPromiseWith (proto : Nat) : Eval Nat :=
  alloc { kind := .promise (.pending [] 0), proto := some proto }

/-- A new pending promise. -/
def newPromise : Eval Nat := do
  newPromiseWith (<- intrinsics).promiseProto

/-- Settles a pending promise with a value (`rejected`: a reason) and queues its reactions. -/
def settlePromise (ref : Nat) (v : Value) (rejected : Bool) : Eval Unit := do
  match (<- getObj ref).kind with
  | .promise (.pending reactions _) =>
    modifyObj ref fun o =>
      { o with kind := .promise (if rejected then .rejected v else .fulfilled v) }
    for r in reactions do
      enqueueJob (.react (if rejected then r.onRejected else r.onFulfilled) v rejected r.target)
  | _ => pure ()

/-- Whether a promise still waits for the pair of resolving functions numbered `token`. -/
def awaitsPair (ref token : Nat) : Eval Bool := do
  match (<- getObj ref).kind with
  | .promise (.pending _ t) => pure (t == token)
  | _ => pure false

/-- Makes a pending promise wait for the next pair of resolving functions, whose number is the
result: the pairs made before no longer settle it. -/
def nextPair (ref : Nat) : Eval Nat := do
  match (<- getObj ref).kind with
  | .promise (.pending rs t) =>
    modifyObj ref fun o => { o with kind := .promise (.pending rs (t + 1)) }
    pure (t + 1)
  | _ => pure 0

/-- The pair of resolving functions numbered `token` of a promise. -/
def resolvingFunctions (ref token : Nat) : Eval (Value × Value) := do
  let i <- intrinsics
  let args := [Value.obj ref, .num token.toFloat]
  let resolve <- newFunction (.bound i.promiseResolveFn .undefined args) "" 1
  let reject <- newFunction (.bound i.promiseRejectFn .undefined args) "" 1
  pure (.obj resolve, .obj reject)

/-- Resolves a pending promise with a value: a thenable is followed through its `then` in a
job, and anything else fulfills the promise. -/
def resolvePromise (getThen : Value → Eval Value) (ref : Nat) (v : Value) : Eval Unit := do
  match (<- getObj ref).kind with
  | .promise (.pending _ _) =>
    match v with
    | .obj r =>
      if r == ref then
        settlePromise ref (<- makeError .typeError "Chaining cycle detected for promise #<Promise>") true
      else
        let found <- tryCatch (do pure (Except.ok (<- getThen v))) fun a => match a with
          | .thrown e => pure (.error e)
          | other => throw other
        match found with
        | .error e => settlePromise ref e true
        | .ok t =>
          if ← isCallable t then
            let token <- nextPair ref
            enqueueJob (.adopt ref v t token)
          else settlePromise ref v false
    | _ => settlePromise ref v false
  | _ => pure ()

/-- Adds a reaction to a promise: it waits while the promise does, and is queued at once when
the promise has settled. -/
def reactTo (ref : Nat) (onFulfilled onRejected : Handler) (target : Option Nat) : Eval Unit := do
  match (<- getObj ref).kind with
  | .promise (.pending rs t) =>
    modifyObj ref fun o =>
      { o with kind := .promise (.pending (rs ++ [⟨onFulfilled, onRejected, target⟩]) t) }
  | .promise (.fulfilled v) => enqueueJob (.react onFulfilled v false target)
  | .promise (.rejected v) => enqueueJob (.react onRejected v true target)
  | _ => pure ()

/-- Whether a value is a promise made by `Promise` itself: a promise object whose prototype is
`Promise.prototype`. -/
def isPlainPromise (v : Value) : Eval Bool := do
  match v with
  | .obj r =>
    let o <- getObj r
    match o.kind with
    | .promise _ => pure (o.proto == some (<- intrinsics).promiseProto)
    | _ => pure false
  | _ => pure false

/-- The promise a value stands for: a plain promise itself, and anything else a new promise
resolved with it. -/
def promiseOf (getThen : Value → Eval Value) (v : Value) : Eval Nat := do
  match v with
  | .obj r => if <- isPlainPromise v then return r
  | _ => pure ()
  let p <- newPromise
  resolvePromise getThen p v
  pure p

end TranscriptTest.Js
