import TranscriptTest.Js.Builtin.Object

/-!
# Errors

The error constructors, which may be called with or without `new`, and
`Error.prototype.toString`: the name and the message joined by `: `, either alone when the
other is empty. An error takes a stack trace when it is made; its `stack` property, the error's
text and then the frames, is written the first time it is looked at.
-/

namespace TranscriptTest.Js

/-- The constructor of an error kind. -/
def errorCtor (kind : ErrorKind) : NativeFn := fun h _ args nt => do
  let i <- intrinsics
  let proto <- h.protoFor nt (i.errorProtoOf kind)
  let trace <- captureTrace (<- traceSkipFor nt)
  let ref <- alloc { kind := .error, proto := some proto, pendingTrace := trace }
  match argAt args 0 with
  | .undefined => pure ()
  | m => defineData ref "message" (.str (<- h.toStr m)) true false true
  match argAt args 1 with
  | .obj opts =>
    if ← hasProperty opts "cause" then
      defineData ref "cause" (<- h.get (.obj opts) "cause") true false true
  | _ => pure ()
  pure (.obj ref)

/-- `Error.prototype.toString`. -/
def errorToString : NativeFn := fun h this _ _ => do
  match this with
  | .obj _ =>
    let name <- match <- h.get this "name" with
      | .undefined => pure "Error"
      | v => h.toStr v
    let msg <- match <- h.get this "message" with
      | .undefined => pure ""
      | v => h.toStr v
    pure (.str (if name.isEmpty then msg else if msg.isEmpty then name else name ++ ": " ++ msg))
  | _ => throwType "Error.prototype.toString requires that 'this' be an Object"

/-- `Error.captureStackTrace(object, fn)`: gives the object a `stack` of the trace taken now,
less the frames up to and with `fn`'s when given. -/
def errorCaptureStackTrace : NativeFn := fun _ _ args _ => do
  match argAt args 0 with
  | .obj r =>
    let skip := match argAt args 1 with
      | .obj f => some f
      | _ => none
    settleTrace r
    let trace <- captureTrace skip
    modifyObj r fun o => { o.removeOwn "stack" with pendingTrace := trace }
    pure .undefined
  | _ => pure .undefined

end TranscriptTest.Js
