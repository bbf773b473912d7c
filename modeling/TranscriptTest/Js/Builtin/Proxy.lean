import TranscriptTest.Js.Builtin.Object

/-!
# Proxies

`new Proxy(target, handler)` makes an object whose reads, writes, `in` tests, calls and
constructions go to the handler's `get`, `set`, `has`, `apply` and `construct` traps, or to the
target where the handler has no such trap; its own properties and keys are the target's. A
proxy made by `Proxy.revocable` comes with a function that revokes it, after which every
operation on it is a type error.
-/

namespace TranscriptTest.Js

/-- Makes a proxy of a target with a handler; both must be objects. -/
def newProxy (target handler : Value) : Eval Nat := do
  match target, handler with
  | .obj t, .obj hd =>
    let o <- getObj t
    alloc { kind := .proxy t hd o.isCallable false, proto := o.proto }
  | _, _ => throwType "Cannot create proxy with a non-object as target or handler"

/-- `new Proxy(target, handler)`. -/
def proxyCtor : NativeFn := fun _ _ args nt => do
  match nt with
  | none => throwType "Constructor Proxy requires 'new'"
  | some _ => pure (.obj (<- newProxy (argAt args 0) (argAt args 1)))

/-- The revoker of a proxy, bound to it: revokes it, and does nothing the second time. -/
def proxyRevoke : NativeFn := fun _ _ args _ => do
  match argAt args 0 with
  | .obj p =>
    modifyObj p fun o => match o.kind with
      | .proxy t hd c _ => { o with kind := .proxy t hd c true }
      | _ => o
  | _ => pure ()
  pure .undefined

/-- `Proxy.revocable(target, handler)`: an object holding the proxy and its revoker. -/
def proxyRevocable : NativeFn := fun _ _ args _ => do
  let p <- newProxy (argAt args 0) (argAt args 1)
  let revoker <- newFunction (.bound (<- intrinsics).proxyRevokeFn .undefined [.obj p]) "" 0
  let result <- alloc { proto := some (<- intrinsics).objectProto }
  setField result "proxy" (.obj p)
  setField result "revoke" (.obj revoker)
  pure (.obj result)

end TranscriptTest.Js
