import TranscriptTest.Js.Builtin.String
import TranscriptTest.Js.Regex.Match

/-!
# `RegExp`

A regular expression object holds its source, as `source` shows it, and its flags in canonical
order; the pattern is read again each time it matches. Positions a script sees (`index`,
`lastIndex`) count UTF-16 units. A pattern without the `u` or `v` flag walks UTF-16 units too,
so that a character beyond the Basic Multilingual Plane is two places; one with them walks code
points, and positions are converted at the edges.
-/

namespace TranscriptTest.Js

open Regex

/-- The character position of a UTF-16 position: the first character that starts at or after
it, or the end. -/
def charIndexOfUnit (chars : Array Char) (u : Nat) : Nat :=
  let rec go : List Char -> Nat -> Nat -> Nat
    | [], _, i => i
    | c :: rest, units, i => if units >= u then i else go rest (units + charWidth c) (i + 1)
  go chars.toList 0 0

/-- The UTF-16 position of a character position. -/
def unitIndexOfChar (chars : Array Char) (i : Nat) : Nat :=
  (chars.extract 0 i).foldl (fun n c => n + charWidth c) 0

/-- The text of the characters from `a` to `b`; surrogates that stay together are one
character again. -/
def charSlice (chars : Array Char) (a b : Nat) : String :=
  settle (String.ofList (chars.extract a b).toList)

/-- The characters a pattern with these flags walks: code points in Unicode mode, else UTF-16
units, where a character beyond the Basic Multilingual Plane is the stand-ins of its two
surrogates. -/
def subjectOf (flags text : String) : Array Char :=
  let chars := text.toList
  if flags.contains 'u' || flags.contains 'v' || chars.all (fun c => c.toNat < 0x10000) then
    chars.toArray
  else ((unitList text).map unitChar).toArray

/-- How a line terminator is written in a shown source. -/
def terminatorEscape (c : Char) : List Char :=
  if c == '\n' then ['\\', 'n'] else if c == '\r' then ['\\', 'r']
  else if c == '\u2028' then "\\u2028".toList else "\\u2029".toList

/-- The source of a pattern as `source` shows it: an empty pattern as `(?:)`, and slashes
outside classes and line terminators escaped, so that `/source/flags` reads back as the same
pattern. -/
def shownSource (pattern : String) : String :=
  let rec go : List Char -> Bool -> List Char -> List Char
    | [], _, acc => acc.reverse
    | '\\' :: c :: rest, inClass, acc =>
      if isLineTerminator c then go rest inClass ((terminatorEscape c).reverse ++ acc)
      else go rest inClass (c :: '\\' :: acc)
    | '/' :: rest, false, acc => go rest false ('/' :: '\\' :: acc)
    | '[' :: rest, _, acc => go rest true ('[' :: acc)
    | ']' :: rest, _, acc => go rest false (']' :: acc)
    | c :: rest, inClass, acc =>
      if isLineTerminator c then go rest inClass ((terminatorEscape c).reverse ++ acc)
      else go rest inClass (c :: acc)
  if pattern.isEmpty then "(?:)" else String.ofList (go pattern.toList false [])

/-- A new regular expression object from a source that reads and canonical flags. -/
def newRegExp (source flags : String) : Eval Value := do
  let i <- intrinsics
  let ref ← alloc { kind := .regexp source flags, proto := some i.regexpProto,
                    props := #[("lastIndex", .data (.num 0) true false false)] }
  pure (.obj ref)

/-- The source and flags of a value that is a regular expression. -/
def regexpOf? (v : Value) : Eval (Option (Nat × String × String)) := do
  match v with
  | .obj r =>
    match (<- getObj r).kind with
    | .regexp s f => pure (some (r, s, f))
    | _ => pure none
  | _ => pure none

/-- The pattern of a regular expression object, read; objects are only made from sources that
read, so the fallback is never used. -/
def programOf (source flags : String) : Program :=
  let fs := (Flags.read? flags).getD {}
  match Program.read source fs with
  | .ok p => p
  | .error _ => { node := .empty, groups := 0, names := [], flags := fs }

/-- A regular expression from a pattern and flags, as `RegExp` makes one: a regular expression
pattern gives its source, and its flags unless others are given. -/
def Host.regexpFrom (h : Host) (pattern flags : Value) : Eval Value := do
  let (source, ownFlags) <- match <- regexpOf? pattern with
    | some (_, s, f) => pure (s, some f)
    | none => match pattern with
      | .undefined => pure ("", none)
      | v => do pure (<- h.toStr v, none)
  let f <- match flags with
    | .undefined => pure (ownFlags.getD "")
    | v => h.toStr v
  match Flags.read? f with
  | none => raiseError .syntaxError ("Invalid flags supplied to RegExp constructor '" ++ f ++ "'")
  | some fs =>
    match Program.read source fs with
    | .error why => raiseError .syntaxError (invalidMessage source fs.text why)
    | .ok _ => newRegExp (shownSource source) fs.text

/-- `RegExp(pattern, flags)`; without `new`, a regular expression with no flags given is
returned as it is. -/
def regexpCtor : NativeFn := fun h _ args nt => do
  let pattern := argAt args 0
  let flags := argAt args 1
  match nt, flags, <- regexpOf? pattern with
  | none, .undefined, some _ => pure pattern
  | _, _, _ => h.withProtoOf nt (<- h.regexpFrom pattern flags)

/-- The regular expression behind `this`, or a type error naming the method. -/
def thisRegExp (this : Value) (method : String) : Eval (Nat × String × String) := do
  match <- regexpOf? this with
  | some r => pure r
  | none =>
    throwType ("Method RegExp.prototype." ++ method ++ " called on incompatible receiver " ++
      (<- describeValue this))

/-- The spans of one match's groups, in characters; group 0 is the whole match. -/
abbrev Spans := Array (Option (Nat × Nat))

/-- Whether `lastIndex` takes part in matching: for global and sticky patterns. -/
def usesLastIndex (flags : String) : Bool :=
  flags.contains 'g' || flags.contains 'y'

/-- Reads `lastIndex` as a length. -/
def Host.lastIndex (h : Host) (ref : Nat) : Eval Nat := do
  let n <- h.toInteger (<- h.get (.obj ref) "lastIndex")
  pure (if n <= 0 then 0 else if n.isInf then maxArrayLength else integerPart n)

/-- Keeps a match for the legacy properties of `RegExp`. -/
def recordMatch (chars : Array Char) (text : String) (spans : Spans) : Eval Unit := do
  let (a, b) := match spans[0]? with
    | some (some (a, b)) => (a, b)
    | _ => (0, 0)
  let groups := spans.map fun sp => sp.map fun (x, y) => charSlice chars x y
  let found : LastMatch :=
    { input := text, groups := groups, before := charSlice chars 0 a,
      after := charSlice chars b chars.size }
  modify fun r => { r with lastMatch := found }

/-- One match of a regular expression object against a text, as `exec` finds it, with
`lastIndex` read and updated. -/
def Host.execSpans (h : Host) (ref : Nat) (source flags : String) (text : String) :
    Eval (Option Spans) := do
  let p := programOf source flags
  let chars := subjectOf flags text
  let moves := usesLastIndex flags
  let given <- h.lastIndex ref
  let last := if moves then given else 0
  if last > unitLength text then
    if moves then h.put (.obj ref) "lastIndex" (.num 0)
    return none
  let start := charIndexOfUnit chars last
  match p.search chars start p.flags.sticky with
  | none =>
    if moves then h.put (.obj ref) "lastIndex" (.num 0)
    pure none
  | some spans =>
    if moves then
      let e := match spans[0]? with
        | some (some (_, e)) => e
        | _ => start
      h.put (.obj ref) "lastIndex" (.num (unitIndexOfChar chars e).toFloat)
    recordMatch chars text spans
    pure (some spans)

/-- The texts of a match's groups; a group that took no part is `none`. -/
def spanTexts (chars : Array Char) (spans : Spans) : Array (Option String) :=
  spans.map fun sp => sp.map fun (a, b) => charSlice chars a b

/-- Where a match starts, in characters. -/
def matchStart (spans : Spans) : Nat :=
  match spans[0]? with
  | some (some (a, _)) => a
  | _ => 0

/-- Where a match ends, in characters. -/
def matchEnd (spans : Spans) : Nat :=
  match spans[0]? with
  | some (some (_, b)) => b
  | _ => 0

/-- The `groups` object of a match: the named groups' texts, or `undefined` without names. -/
def groupsObject (p : Program) (texts : Array (Option String)) : Eval Value := do
  if p.names.isEmpty then return .undefined
  let g <- alloc { proto := none }
  for (n, i) in p.names do
    defineData g n ((texts.getD i none).elim .undefined Value.str) true true true
  pure (.obj g)

/-- The array `exec` gives for a match: the groups' texts with `index`, `input` and `groups`. -/
def matchArray (p : Program) (text : String) (spans : Spans) : Eval Value := do
  let chars := subjectOf p.flags.text text
  let texts := spanTexts chars spans
  let arr <- newArray (texts.map fun t => t.elim .undefined Value.str)
  match arr with
  | .obj r =>
    defineData r "index" (.num (unitIndexOfChar chars (matchStart spans)).toFloat) true true true
    defineData r "input" (.str text) true true true
    defineData r "groups" (<- groupsObject p texts) true true true
  | _ => pure ()
  pure arr

/-- `RegExp.prototype.exec`. -/
def regexpExec : NativeFn := fun h this args _ => do
  let (ref, source, flags) <- thisRegExp this "exec"
  let text <- h.toStr (argAt args 0)
  match <- h.execSpans ref source flags text with
  | none => pure .null
  | some spans => matchArray (programOf source flags) text spans

/-- `RegExp.prototype.test`. -/
def regexpTest : NativeFn := fun h this args _ => do
  let (ref, source, flags) <- thisRegExp this "test"
  let text <- h.toStr (argAt args 0)
  pure (.bool (<- h.execSpans ref source flags text).isSome)

/-- `RegExp.prototype.toString`: `/source/flags`, read through the getters. -/
def regexpToString : NativeFn := fun h this _ _ => do
  match this with
  | .obj _ =>
    let s <- h.toStr (<- h.get this "source")
    let f <- h.toStr (<- h.get this "flags")
    pure (.str ("/" ++ s ++ "/" ++ f))
  | _ =>
    throwType ("Method RegExp.prototype.toString called on incompatible receiver " ++
      (<- describeValue this))

/-- A getter of `RegExp.prototype` that reads a regular expression's source and flags; on the
prototype itself it gives `onPrototype`. -/
def regexpGetter (name : String) (onPrototype : Value) (read : String -> String -> Value) :
    NativeFn := fun _ this _ _ => do
  match <- regexpOf? this with
  | some (_, s, f) => pure (read s f)
  | none =>
    match this with
    | .obj r =>
      if r == (<- intrinsics).regexpProto then pure onPrototype
      else throwType ("RegExp.prototype." ++ name ++ " getter called on non-RegExp object")
    | _ => throwType ("RegExp.prototype." ++ name ++ " getter called on non-object " ++
      (<- describeValue this))

/-- The getter of the flag `c` under `name`. -/
def flagGetter (name : String) (c : Char) : NativeFn :=
  regexpGetter name .undefined fun _ f => .bool (f.contains c)

/-- `RegExp.prototype.source`. -/
def regexpSource : NativeFn := regexpGetter "source" (.str "(?:)") fun s _ => .str s

/-- `RegExp.prototype.flags`. -/
def regexpFlags : NativeFn := regexpGetter "flags" (.str "") fun _ f => .str f

/-- Every match of a global regular expression from the start, as `match` and `replace` collect
them; after an empty match `lastIndex` moves one on. -/
def Host.allSpans (h : Host) (ref : Nat) (source flags text : String) : Eval (List Spans) := do
  let rec loop : Nat -> List Spans -> Eval (List Spans)
    | 0, acc => pure acc.reverse
    | fuel + 1, acc => do
      match <- h.execSpans ref source flags text with
      | none => pure acc.reverse
      | some spans =>
        if matchStart spans == matchEnd spans then
          let li <- h.lastIndex ref
          h.put (.obj ref) "lastIndex" (.num (li + 1).toFloat)
        loop fuel (spans :: acc)
  loop (unitLength text + 2) []

/-- The regular expression an argument of `match`, `matchAll` or `search` stands for. -/
def Host.patternArg (h : Host) (v : Value) (flags : Value) : Eval (Nat × String × String) := do
  match <- regexpOf? v with
  | some r => pure r
  | none =>
    match <- regexpOf? (<- h.regexpFrom v flags) with
    | some r => pure r
    | none => throwType "not a regular expression"

/-- `String.prototype.match`. -/
def stringMatch : NativeFn := fun h this args _ => do
  let s <- h.thisText this "match"
  let (ref, source, flags) <- h.patternArg (argAt args 0) .undefined
  if flags.contains 'g' then
    h.put (.obj ref) "lastIndex" (.num 0)
    let all <- h.allSpans ref source flags s
    if all.isEmpty then return .null
    let chars := subjectOf flags s
    newArray (all.map fun sp => Value.str (charSlice chars (matchStart sp) (matchEnd sp))).toArray
  else
    match <- h.execSpans ref source flags s with
    | none => pure .null
    | some spans => matchArray (programOf source flags) s spans

/-- `String.prototype.matchAll`: the matches of a copy of a global regular expression, starting
at its `lastIndex`. -/
def stringMatchAll : NativeFn := fun h this args _ => do
  let s <- h.thisText this "matchAll"
  let arg := argAt args 0
  match <- regexpOf? arg with
  | some (_, _, f) =>
    if !f.contains 'g' then
      throwType "String.prototype.matchAll called with a non-global RegExp argument"
  | none => pure ()
  let (ref, source, flags) <- h.patternArg arg (.str "g")
  let start <- h.lastIndex ref
  let copy <- newRegExp source flags
  match copy with
  | .obj c =>
    h.put copy "lastIndex" (.num start.toFloat)
    let all <- h.allSpans c source flags s
    let p := programOf source flags
    let arrays <- all.mapM (matchArray p s)
    newIterator arrays.toArray "RegExp String Iterator"
  | _ => newIterator #[] "RegExp String Iterator"

/-- `String.prototype.search`: where the first match starts, or -1. -/
def stringSearch : NativeFn := fun h this args _ => do
  let s <- h.thisText this "search"
  let (_, source, flags) <- h.patternArg (argAt args 0) .undefined
  let p := programOf source flags
  let chars := subjectOf flags s
  match p.search chars 0 p.flags.sticky with
  | some spans => pure (.num (unitIndexOfChar chars (matchStart spans)).toFloat)
  | none => pure (.num (-1))

/-- The value of a decimal digit. -/
def digitOf (c : Char) : Option Nat :=
  if c.isDigit then some (c.toNat - 48) else none

/-- The replacement text for a match: `$$`, `$&`, `` $` ``, `$'`, `$n` and `$nn` for groups (two
digits when they name one), `$<name>` for named groups; the rest stands for itself. -/
def expandGroups (template matched before after : String) (groups : Array (Option String))
    (named : Option (List (String × Option String))) : String :=
  let m := groups.size
  let groupText (n : Nat) : String := ((groups[n - 1]?).getD none).getD ""
  let rec go : Nat -> List Char -> List Char -> List Char
    | 0, _, acc => acc.reverse
    | _ + 1, [], acc => acc.reverse
    | fuel + 1, '$' :: '$' :: rest, acc => go fuel rest ('$' :: acc)
    | fuel + 1, '$' :: '&' :: rest, acc => go fuel rest (matched.toList.reverse ++ acc)
    | fuel + 1, '$' :: '\x60' :: rest, acc => go fuel rest (before.toList.reverse ++ acc)
    | fuel + 1, '$' :: '\'' :: rest, acc => go fuel rest (after.toList.reverse ++ acc)
    | fuel + 1, '$' :: d1 :: rest, acc =>
      match digitOf d1 with
      | some a =>
        let two := match rest with
          | d2 :: rest' => (digitOf d2).bind fun b =>
            if 1 <= 10 * a + b && 10 * a + b <= m then some (10 * a + b, rest') else none
          | [] => none
        match two with
        | some (n, rest') => go fuel rest' ((groupText n).toList.reverse ++ acc)
        | none =>
          if 1 <= a && a <= m then go fuel rest ((groupText a).toList.reverse ++ acc)
          else go fuel rest (d1 :: '$' :: acc)
      | none =>
        match d1, named with
        | '<', some names =>
          match rest.findIdx? (· == '>') with
          | some k =>
            let name := String.ofList (rest.take k)
            let text := ((names.lookup name).getD none).getD ""
            go fuel (rest.drop (k + 1)) (text.toList.reverse ++ acc)
          | none => go fuel rest (d1 :: '$' :: acc)
        | _, _ => go fuel rest (d1 :: '$' :: acc)
    | fuel + 1, c :: rest, acc => go fuel rest (c :: acc)
  String.ofList (go (template.length + 1) template.toList [])

/-- `replace` and `replaceAll` with a regular expression: every match of a global one, else the
first, replaced by the template's expansion or the function's result. -/
def Host.replacePattern (h : Host) (s : String) (ref : Nat) (source flags : String)
    (repl : Value) : Eval Value := do
  let p := programOf source flags
  let callable <- isCallable repl
  let template <- if callable then pure "" else h.toStr repl
  let found ← if flags.contains 'g' then do
      h.put (.obj ref) "lastIndex" (.num 0)
      h.allSpans ref source flags s
    else pure (<- h.execSpans ref source flags s).toList
  let chars := subjectOf flags s
  let mut out : String := ""
  let mut next := 0
  for spans in found do
    let texts := spanTexts chars spans
    let a := matchStart spans
    let b := matchEnd spans
    let matched := charSlice chars a b
    let groups := texts.extract 1 texts.size
    let r ← if callable then do
        let groupsArg <- groupsObject p texts
        let extra := if p.names.isEmpty then [] else [groupsArg]
        let args := [Value.str matched] ++ groups.toList.map (fun t => t.elim .undefined Value.str) ++
          [.num (unitIndexOfChar chars a).toFloat, .str s] ++ extra
        h.toStr (<- h.call repl .undefined args)
      else
        let named := if p.names.isEmpty then none
          else some (p.names.map fun (n, i) => (n, (texts.getD i none)))
        pure (expandGroups template matched (charSlice chars 0 a) (charSlice chars b chars.size)
          groups named)
    if a ≥ next then
      out := out ++ charSlice chars next a ++ r
      next := b
  pure (.str (out ++ charSlice chars next chars.size))

/-- `String.prototype.replace`, with a text or a regular expression. -/
def stringReplaceAny : NativeFn := fun h this args nt => do
  match <- regexpOf? (argAt args 0) with
  | some (ref, source, flags) =>
    let s <- h.thisText this "replace"
    h.replacePattern s ref source flags (argAt args 1)
  | none => stringReplace h this args nt

/-- `String.prototype.replaceAll`, with a text or a global regular expression. -/
def stringReplaceAllAny : NativeFn := fun h this args nt => do
  match <- regexpOf? (argAt args 0) with
  | some (ref, source, flags) =>
    if !flags.contains 'g' then throwType "String.prototype.replaceAll called with a non-global RegExp argument"
    let s <- h.thisText this "replaceAll"
    h.replacePattern s ref source flags (argAt args 1)
  | none => stringReplaceAll h this args nt

/-- Pushes values while fewer than `limit` are held; whether the limit was reached. -/
def pushUpTo (limit : Nat) : List Value -> Array Value -> Array Value × Bool
  | [], acc => (acc, acc.size == limit)
  | v :: rest, acc =>
    if acc.size == limit then (acc, true) else pushUpTo limit rest (acc.push v)

/-- Splits characters at the matches of a pattern, as `split` does: a match ending where the last
piece ended is skipped, and each match's groups go between the pieces; at most `limit`. -/
def splitAt (p : Program) (chars : Array Char) (limit : Nat) : Array Value :=
  let size := chars.size
  let piece (a b : Nat) : Value := .str (charSlice chars a b)
  let rec go : Nat -> Nat -> Nat -> Array Value -> Array Value
    | 0, _, _, acc => acc
    | fuel + 1, last, q, acc =>
      if q >= size then acc.push (piece last size)
      else
        match p.matchAt chars q with
        | none => go fuel last (q + 1) acc
        | some spans =>
          let e := min (matchEnd spans) size
          if e == last then go fuel last (q + 1) acc
          else
            let groups := (spans.extract 1 spans.size).toList.map fun sp =>
              sp.elim Value.undefined fun (a, b) => piece a b
            match pushUpTo limit (piece last q :: groups) acc with
            | (acc, true) => acc
            | (acc, false) => go fuel e e acc
  if limit == 0 then #[]
  else if size == 0 then
    if (p.matchAt chars 0).isSome then #[] else #[piece 0 0]
  else go (2 * size + 2) 0 0 #[]

/-- `String.prototype.split`, with a text or a regular expression. -/
def stringSplitAny : NativeFn := fun h this args nt => do
  match <- regexpOf? (argAt args 0) with
  | some (_, source, flags) =>
    let s <- h.thisText this "split"
    let limit <- match argAt args 1 with
      | .undefined => pure maxArrayLength
      | v => pure (toUint32 (<- h.toNum v))
    newArray (splitAt (programOf source flags) (subjectOf flags s) limit)
  | none => stringSplit h this args nt

/-- A legacy property of `RegExp` that reads the last match. -/
def legacyGetter (read : LastMatch → String) : NativeFn := fun _ _ _ _ => do
  pure (.str (read (<- get).lastMatch))

/-- The text of group `i` of the last match, empty when it took no part. -/
def LastMatch.group (m : LastMatch) (i : Nat) : String :=
  (m.groups.getD i none).getD ""

/-- The text of the last group of the last match that has one. -/
def LastMatch.lastParen (m : LastMatch) : String :=
  if m.groups.size <= 1 then "" else m.group (m.groups.size - 1)

/-- A setter of a legacy property of `RegExp` that keeps nothing. -/
def legacyIgnore : NativeFn := fun _ _ _ _ => pure .undefined

/-- The setter of `RegExp.input`: the text the next reads of `input` give. -/
def legacyInputSetter : NativeFn := fun h _ args _ => do
  let text <- h.toStr (argAt args 0)
  modify fun r => { r with lastMatch := { r.lastMatch with input := text } }
  pure .undefined

/-- The legacy properties of `RegExp` as names with what they read, the names with a setter
that changes `input` marked. -/
def legacyProperties : List (String × (LastMatch → String) × Bool) :=
  [("input", (·.input), true), ("$_", (·.input), true),
   ("lastMatch", (·.group 0), false), ("$&", (·.group 0), false),
   ("lastParen", LastMatch.lastParen, false), ("$+", LastMatch.lastParen, false),
   ("leftContext", (·.before), false), ("$\x60", (·.before), false),
   ("rightContext", (·.after), false), ("$'", (·.after), false)] ++
  (List.range 9).map fun i => ("$" ++ toString (i + 1), fun m => m.group (i + 1), false)

/-- `RegExp.prototype.compile(pattern, flags)`: gives the regular expression a new pattern and
flags, and sets `lastIndex` to zero. -/
def regexpCompile : NativeFn := fun h this args _ => do
  let (ref, _, _) <- thisRegExp this "compile"
  let (source, flags) <- match <- regexpOf? (argAt args 0) with
    | some (_, s, f) =>
      match argAt args 1 with
      | .undefined => pure (s, f)
      | _ => throwType "Cannot supply flags when constructing one RegExp from another"
    | none => do
      let made <- h.regexpFrom (argAt args 0) (argAt args 1)
      match <- regexpOf? made with
      | some (_, s, f) => pure (s, f)
      | none => pure ("(?:)", "")
  modifyObj ref fun o => { o with kind := .regexp source flags }
  h.put (.obj ref) "lastIndex" (.num 0)
  pure this

end TranscriptTest.Js
