import TranscriptTest.Js.Builtin.Iterator

/-!
# Set operations and grouping into maps

The set methods `union`, `intersection`, `difference`, `symmetricDifference`, `isSubsetOf`,
`isSupersetOf` and `isDisjointFrom` take any set-like argument: an object with a numeric `size`
and `has` and `keys` methods. Which side is walked depends on the sizes, as the language
defines it, since that decides the order of the result. `Map.groupBy` gathers values into a
map by the key a function gives them.
-/

namespace TranscriptTest.Js

/-- What the set methods read of their argument: the object, its size, and its `has` and
`keys` methods. -/
structure SetLike where
  target : Value
  size : Float
  has : Value
  keys : Value

/-- Reads a set-like argument. -/
def Host.setLike (h : Host) (v : Value) : Eval SetLike := do
  match v with
  | .obj _ =>
    let raw <- h.get v "size"
    let size <- h.toNum raw
    if size.isNaN then
      throwType ("The 'size' property must be a number. Received " ++ (<- describeValue raw))
    let whole := if size < 0 then -((-size).floor) else size.floor
    if whole < 0 then raiseError .rangeError ("'" ++ numberText whole ++ "' is an invalid size")
    let has <- h.get v "has"
    if !(<- isCallable has) then throwType "The 'has' property must be a function"
    let keys <- h.get v "keys"
    if !(<- isCallable keys) then throwType "The 'keys' property must be a function"
    pure ⟨v, whole, has, keys⟩
  | _ => throwType ("The 'other' argument must be an object. Received " ++ (<- describeValue v))

/-- Whether a set-like argument has a value. -/
def Host.setLikeHas (h : Host) (s : SetLike) (v : Value) : Eval Bool := do
  pure (<- h.call s.has s.target [v]).truthy

/-- Every key of a set-like argument. -/
def Host.setLikeKeyList (h : Host) (s : SetLike) : Eval (Array Value) := do
  let it <- h.call s.keys s.target []
  let next <- h.get it "next"
  let rec collect : Nat -> Array Value -> Eval (Array Value)
    | 0, xs => pure xs
    | fuel + 1, xs => do
      match <- h.stepIter it next with
      | none => pure xs
      | some v => collect fuel (xs.push (normalizeKey v))
  collect iteratorFuel #[]

/-- Whether every key of a set-like argument passes a test; the first that fails stops the
reading and closes the iterator. -/
def Host.setLikeAll (h : Host) (s : SetLike) (p : Value → Bool) : Eval Bool := do
  let it <- h.call s.keys s.target []
  let next <- h.get it "next"
  let rec go : Nat -> Eval Bool
    | 0 => pure true
    | fuel + 1 => do
      match <- h.stepIter it next with
      | none => pure true
      | some v =>
        if p (normalizeKey v) then go fuel
        else
          h.closeIter it
          pure false
  go iteratorFuel

/-- A new set of values, as the set methods give. -/
def newSetOf (xs : Array Value) : Eval Value := do
  pure (.obj (<- alloc { kind := .set (xs.map some), proto := some (<- intrinsics).setProto }))

/-- Adds a value to a list of set items unless it is there. -/
def addItem (xs : Array Value) (v : Value) : Array Value :=
  let v := normalizeKey v
  if xs.any (sameValueZero v) then xs else xs.push v

/-- Whether a set holds a value. -/
def setHolds (xs : Array Value) (v : Value) : Bool :=
  xs.any (sameValueZero (normalizeKey v))

/-- The values of a set a test keeps, in order. -/
def Host.keepIf (xs : Array Value) (p : Value → Eval Bool) : Eval (Array Value) :=
  xs.filterM p

/-- `union(other)`: this set's values, then the other's that are new. -/
def setUnion : NativeFn := fun h this args _ => do
  let (_, xs) <- thisSet this "union"
  let other <- h.setLike (argAt args 0)
  newSetOf ((<- h.setLikeKeyList other).foldl addItem xs)

/-- `intersection(other)`: walks the smaller side. -/
def setIntersection : NativeFn := fun h this args _ => do
  let (_, xs) <- thisSet this "intersection"
  let other <- h.setLike (argAt args 0)
  if xs.size.toFloat ≤ other.size then
    newSetOf (<- Host.keepIf xs (h.setLikeHas other))
  else
    let keys <- h.setLikeKeyList other
    newSetOf ((keys.filter (setHolds xs)).foldl addItem #[])

/-- `difference(other)`: this set's values the other lacks. -/
def setDifference : NativeFn := fun h this args _ => do
  let (_, xs) <- thisSet this "difference"
  let other <- h.setLike (argAt args 0)
  if xs.size.toFloat ≤ other.size then
    newSetOf (<- Host.keepIf xs fun v => do pure !(<- h.setLikeHas other v))
  else
    let keys <- h.setLikeKeyList other
    newSetOf (xs.filter fun v => !(setHolds keys v))

/-- `symmetricDifference(other)`: the values in exactly one of the two. -/
def setSymmetricDifference : NativeFn := fun h this args _ => do
  let (_, xs) <- thisSet this "symmetricDifference"
  let other <- h.setLike (argAt args 0)
  let keys <- h.setLikeKeyList other
  let result := keys.foldl (fun acc k =>
    if setHolds xs k then acc.filter fun x => !(sameValueZero x k) else addItem acc k) xs
  newSetOf result

/-- `isSubsetOf(other)`. -/
def setIsSubsetOf : NativeFn := fun h this args _ => do
  let (_, xs) <- thisSet this "isSubsetOf"
  let other <- h.setLike (argAt args 0)
  if xs.size.toFloat > other.size then return .bool false
  pure (.bool (<- xs.allM (h.setLikeHas other)))

/-- `isSupersetOf(other)`. -/
def setIsSupersetOf : NativeFn := fun h this args _ => do
  let (_, xs) <- thisSet this "isSupersetOf"
  let other <- h.setLike (argAt args 0)
  if xs.size.toFloat < other.size then return .bool false
  pure (.bool (<- h.setLikeAll other (setHolds xs)))

/-- `isDisjointFrom(other)`: walks the smaller side. -/
def setIsDisjointFrom : NativeFn := fun h this args _ => do
  let (_, xs) <- thisSet this "isDisjointFrom"
  let other <- h.setLike (argAt args 0)
  if xs.size.toFloat ≤ other.size then
    pure (.bool (<- xs.allM fun v => do pure !(<- h.setLikeHas other v)))
  else
    pure (.bool (<- h.setLikeAll other fun k => !(setHolds xs k)))

/-- `Map.groupBy(items, f)`: a map from each key the function gives to the values it gave it
for, keys compared as map keys are. -/
def mapGroupBy : NativeFn := fun h _ args _ => do
  let groups <- h.groupItems (argAt args 0) (argAt args 1) fun k => pure (normalizeKey k)
  let entries <- groups.toArray.mapM fun (k, vs) => do pure (k, <- newArray vs)
  pure (.obj (<- alloc { kind := .map (entries.map some), proto := some (<- intrinsics).mapProto }))

end TranscriptTest.Js
