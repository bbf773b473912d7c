import TranscriptTest.Js.Builtin.Object

/-!
# `Reflect`

Each function of `Reflect` performs one of the object model's own operations on an object: reading,
writing, defining and deleting properties, listing keys, asking for or changing the prototype,
calling and constructing. They refuse anything that is not an object, and where the matching
`Object` function would throw on a refusal they answer `false` instead.
-/

namespace TranscriptTest.Js

/-- The object the first argument must be, or the error naming the function. -/
def reflectTarget (args : List Value) (name : String) : Eval Nat := do
  match argAt args 0 with
  | .obj r => pure r
  | _ => throwType ("Reflect." ++ name ++ " called on non-object")

/-- `Reflect.ownKeys`: every own key, listed or not. -/
def reflectOwnKeys : NativeFn := fun h _ args _ => do
  let r <- reflectTarget args "ownKeys"
  newArray ((<- h.ownKeysOf proxyChain r).map keyValue).toArray

/-- `Reflect.has`. -/
def reflectHas : NativeFn := fun h _ args _ => do
  let r <- reflectTarget args "has"
  pure (.bool (<- hasProperty r (<- h.toKey (argAt args 1))))

/-- `Reflect.get`. -/
def reflectGet : NativeFn := fun h _ args _ => do
  let r <- reflectTarget args "get"
  h.get (.obj r) (<- h.toKey (argAt args 1))

/-- `Reflect.set`: whether the property now holds the value. -/
def reflectSet : NativeFn := fun h _ args _ => do
  let r <- reflectTarget args "set"
  let key <- h.toKey (argAt args 1)
  let v := argAt args 2
  let before := ownSlot? (<- getObj r) key
  h.put (.obj r) key v
  match ownSlot? (<- getObj r) key, before with
  | some (.data x _ _ _), _ => pure (.bool (sameValue x v))
  | some (.accessor _ (some _) _ _), _ => pure (.bool true)
  | _, _ => pure (.bool false)

/-- `Reflect.getPrototypeOf`. -/
def reflectGetPrototypeOf : NativeFn := fun h _ args _ => do
  let r <- reflectTarget args "getPrototypeOf"
  match <- h.protoOf proxyChain r with
  | some p => pure (.obj p)
  | none => pure .null

/-- `Reflect.setPrototypeOf`: `false` for an object that takes no changes. -/
def reflectSetPrototypeOf : NativeFn := fun h _ args _ => do
  let r <- reflectTarget args "setPrototypeOf"
  let proto <- match argAt args 1 with
    | .obj p => pure (some p)
    | .null => pure none
    | v => throwType ("Object prototype may only be an Object or null: " ++ (<- describeValue v))
  pure (.bool (<- h.setProtoOf proxyChain r proto).isNone)

/-- `Reflect.defineProperty`: `false` where `Object.defineProperty` would throw. -/
def reflectDefineProperty : NativeFn := fun h _ args _ => do
  let r <- reflectTarget args "defineProperty"
  let key <- h.toKey (argAt args 1)
  let d <- h.readDescriptor (argAt args 2)
  pure (.bool (<- h.defineOf proxyChain r key d).isNone)

/-- `Reflect.deleteProperty`. -/
def reflectDeleteProperty : NativeFn := fun h _ args _ => do
  let r <- reflectTarget args "deleteProperty"
  pure (.bool (<- h.deleteOf proxyChain r (<- h.toKey (argAt args 1))))

/-- `Reflect.getOwnPropertyDescriptor`. -/
def reflectGetOwnPropertyDescriptor : NativeFn := fun h _ args _ => do
  let r <- reflectTarget args "getOwnPropertyDescriptor"
  match <- h.ownPropertyOf proxyChain r (<- h.toKey (argAt args 1)) with
  | some s => descriptorObject s
  | none => pure .undefined

/-- `Reflect.isExtensible`. -/
def reflectIsExtensible : NativeFn := fun _ _ args _ => do
  let r <- reflectTarget args "isExtensible"
  pure (.bool (<- getObj r).extensible)

/-- `Reflect.preventExtensions`. -/
def reflectPreventExtensions : NativeFn := fun _ _ args _ => do
  let r <- reflectTarget args "preventExtensions"
  modifyObj r fun o => { o with extensible := false }
  pure (.bool true)

/-- `Reflect.apply`: calls a function with `this` and the items of an array-like object. -/
def reflectApply : NativeFn := fun h _ args _ => do
  let f := argAt args 0
  let callable <- match f with
    | .obj r => pure (<- getObj r).isCallable
    | _ => pure false
  if !callable then
    throwType ("Function.prototype.apply was called on " ++ (← describeValue f) ++
      ", which is " ++ (<- typeOf f) ++ " and not a function")
  match argAt args 2 with
  | .obj _ => h.call f (argAt args 1) (<- h.listOf (argAt args 2))
  | _ => throwType "CreateListFromArrayLike called on non-object"

/-- `Reflect.construct`: `new` with the items of an array-like object. -/
def reflectConstruct : NativeFn := fun h _ args _ => do
  let f := argAt args 0
  if !(<- isConstructor f) then throwType ((<- describeValue f) ++ " is not a constructor")
  match argAt args 1 with
  | .obj _ => h.construct f (<- h.listOf (argAt args 1))
  | _ => throwType "CreateListFromArrayLike called on non-object"

end TranscriptTest.Js
