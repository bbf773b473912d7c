import TranscriptTest.Js.Builtin.Array
import TranscriptTest.Unicode.CaseMap
import TranscriptTest.Unicode.Property
import TranscriptTest.Unicode.Normalize
import TranscriptTest.Unicode.Collation

/-!
# `String`

The functions of `String` and `String.prototype`. Positions and lengths count UTF-16 units.
Upper and lower case follow the full case mappings of Unicode, where one character may become
several (`ß` upper-cases to `SS`), and a capital sigma that ends a word lower-cases to `ς`.
-/

namespace TranscriptTest.Js

/-- Characters with case. -/
def casedTable : Unicode.RangeTable := (Unicode.property? "Cased").getD default

/-- Characters that case mapping looks through. -/
def caseIgnorableTable : Unicode.RangeTable := (Unicode.property? "Case_Ignorable").getD default

/-- The upper case of a text. -/
def upperText (s : String) : String :=
  String.ofList (s.toList.flatMap Unicode.upperOf)

/-- Whether the next character with case, looking through case-ignorable ones, is a cased
letter. -/
def casedNext (cs : List Char) : Bool :=
  match cs.dropWhile caseIgnorableTable.contains with
  | c :: _ => casedTable.contains c
  | [] => false

/-- The lower case of a text. -/
def lowerText (s : String) : String :=
  let rec go : List Char -> List Char -> List Char
    | [], _ => []
    | c :: rest, before =>
      let lower := if c == 'Σ' && casedNext before && !casedNext rest then ['ς'] else Unicode.lowerOf c
      lower ++ go rest (c :: before)
  String.ofList (go s.toList [])

/-- The text of `this` for string methods; `null` and `undefined` are refused. -/
def Host.thisText (h : Host) (this : Value) (method : String) : Eval String := do
  match this with
  | .undefined => throwType ("String.prototype." ++ method ++ " called on null or undefined")
  | .null => throwType ("String.prototype." ++ method ++ " called on null or undefined")
  | v => h.toStr v

/-- `String(value)`; with `new`, a wrapped string. -/
def stringCtor : NativeFn := fun h _ args nt => do
  let s <- match args, nt with
    | [], _ => pure ""
    | .symbol _ d :: _, none => pure (symbolText d)
    | v :: _, _ => h.toStr v
  match nt with
  | some _ => h.withProtoOf nt (.obj (<- boxValue (.str s)))
  | none => pure (.str s)

/-- `String.fromCharCode`. -/
def stringFromCharCode : NativeFn := fun h _ args _ => do
  let units <- args.mapM fun a => do pure ((toUint32 (<- h.toNum a)) % 65536)
  pure (.str (ofUnits units))

/-- `String.fromCodePoint`. -/
def stringFromCodePoint : NativeFn := fun h _ args _ => do
  let cs ← args.mapM fun a => do
    let n <- h.toNum a
    if n < 0 || n > 1114111 || n != n.floor then raiseError .rangeError ("Invalid code point " ++ numberText n)
    pure (codePointChar (integerPart n))
  pure (.str (String.ofList cs))

/-- `String.raw`: the raw texts of a template's strings with the substitutions between them. -/
def stringRaw : NativeFn := fun h _ args _ => do
  let raw <- match argAt args 0 with
    | .undefined => throwType "Cannot convert undefined or null to object"
    | .null => throwType "Cannot convert undefined or null to object"
    | strings => h.get strings "raw"
  if raw.isNullish then throwType "Cannot convert undefined or null to object"
  let n <- h.lengthOf raw
  let mut out := ""
  for i in List.range n do
    out := out ++ (<- h.toStr (<- h.get raw (toString i)))
    if i + 1 < n then
      match args[i + 1]? with
      | some v => out := out ++ (<- h.toStr v)
      | none => pure ()
  pure (.str out)

/-- The unit at a position as text, or `none` outside the text. -/
def unitAt? (s : String) (i : Int) : Option Nat :=
  if i < 0 then none else (unitsOf s)[i.toNat]?

/-- `charAt`. -/
def stringCharAt : NativeFn := fun h this args _ => do
  let s <- h.thisText this "charAt"
  let i <- h.toInteger (argAt args 0)
  match unitAt? s (truncInt i) with
  | some u => pure (.str (ofUnits [u]))
  | none => pure (.str "")

/-- `charCodeAt`. -/
def stringCharCodeAt : NativeFn := fun h this args _ => do
  let s <- h.thisText this "charCodeAt"
  let i <- h.toInteger (argAt args 0)
  match unitAt? s (truncInt i) with
  | some u => pure (.num u.toFloat)
  | none => pure (.num nan)

/-- `codePointAt`. -/
def stringCodePointAt : NativeFn := fun h this args _ => do
  let s <- h.thisText this "codePointAt"
  let i <- h.toInteger (argAt args 0)
  let us := unitsOf s
  let k := truncInt i
  if k < 0 || k >= us.size then pure .undefined
  else
    let u := us[k.toNat]!
    let w := us.getD (k.toNat + 1) 0
    if 0xD800 ≤ u && u < 0xDC00 && 0xDC00 ≤ w && w < 0xE000 then
      pure (.num (0x10000 + (u - 0xD800) * 0x400 + (w - 0xDC00)).toFloat)
    else pure (.num u.toFloat)

/-- `at`. -/
def stringAt : NativeFn := fun h this args _ => do
  let s <- h.thisText this "at"
  let n := unitLength s
  let i := truncInt (<- h.toInteger (argAt args 0))
  let k := if i < 0 then i + n else i
  match unitAt? s k with
  | some u => pure (.str (ofUnits [u]))
  | none => pure .undefined

/-- The first position at or after `start` where `needle` occurs in `hay` (as unit lists). -/
def findUnits (hay needle : List Nat) (start : Nat) : Option Nat :=
  let n := needle.length
  (List.range (hay.length + 1)).find? fun i => i >= start && i + n <= hay.length && (hay.drop i).take n == needle

/-- The last position at or before `start` where `needle` occurs. -/
def findUnitsBack (hay needle : List Nat) (start : Nat) : Option Nat :=
  let n := needle.length
  ((List.range (hay.length + 1)).reverse).find? fun i => i <= start && i + n <= hay.length && (hay.drop i).take n == needle

/-- `indexOf`. -/
def stringIndexOf : NativeFn := fun h this args _ => do
  let s <- h.thisText this "indexOf"
  let needle <- h.toStr (argAt args 0)
  let len := unitLength s
  let startF <- h.toInteger (argAt args 1)
  let start := if startF < 0 then 0 else min (integerPart startF) len
  pure (.num (match findUnits (unitList s) (unitList needle) start with
    | some i => i.toFloat
    | none => -1))

/-- `lastIndexOf`. -/
def stringLastIndexOf : NativeFn := fun h this args _ => do
  let s <- h.thisText this "lastIndexOf"
  let needle <- h.toStr (argAt args 0)
  let len := unitLength s
  let posF <- h.toNum (argAt args 1)
  let start := if posF.isNaN then len else if posF < 0 then 0 else min (integerPart posF) len
  pure (.num (match findUnitsBack (unitList s) (unitList needle) start with
    | some i => i.toFloat
    | none => -1))

/-- `includes`. -/
def stringIncludes : NativeFn := fun h this args _ => do
  let s <- h.thisText this "includes"
  let needle <- h.toStr (argAt args 0)
  let startF <- h.toInteger (argAt args 1)
  let start := if startF < 0 then 0 else integerPart startF
  pure (.bool (findUnits (unitList s) (unitList needle) start).isSome)

/-- `startsWith`. -/
def stringStartsWith : NativeFn := fun h this args _ => do
  let s <- h.thisText this "startsWith"
  let needle <- h.toStr (argAt args 0)
  let startF <- h.toInteger (argAt args 1)
  let start := if startF < 0 then 0 else integerPart startF
  let us := (unitList s).drop start
  pure (.bool ((unitList needle).isPrefixOf us))

/-- `endsWith`. -/
def stringEndsWith : NativeFn := fun h this args _ => do
  let s <- h.thisText this "endsWith"
  let needle <- h.toStr (argAt args 0)
  let len := unitLength s
  let stop <- match argAt args 1 with
    | .undefined => pure len
    | v => do
      let n <- h.toInteger v
      pure (if n < 0 then 0 else min (integerPart n) len)
  let us := (unitList s).take stop
  pure (.bool ((unitList needle).reverse.isPrefixOf us.reverse))

/-- `slice`. -/
def stringSlice : NativeFn := fun h this args _ => do
  let s <- h.thisText this "slice"
  let len := unitLength s
  let start <- h.indexArg (argAt args 0) len 0
  let stop <- h.indexArg (argAt args 1) len len
  pure (.str (if start < stop then unitSlice s start stop else ""))

/-- A `substring` bound: NaN and negatives are zero, clamped to the length. -/
def Host.clampArg (h : Host) (v : Value) (len : Nat) (dflt : Nat) : Eval Nat := do
  match v with
  | .undefined => pure dflt
  | _ =>
    let n <- h.toInteger v
    pure (if n < 0 then 0 else min (integerPart n) len)

/-- `substring`: the bounds are swapped when out of order. -/
def stringSubstring : NativeFn := fun h this args _ => do
  let s <- h.thisText this "substring"
  let len := unitLength s
  let a <- h.clampArg (argAt args 0) len 0
  let b <- h.clampArg (argAt args 1) len len
  pure (.str (unitSlice s (min a b) (max a b)))

/-- `substr`: a start (negative from the end) and a length. -/
def stringSubstr : NativeFn := fun h this args _ => do
  let s <- h.thisText this "substr"
  let len := unitLength s
  let start <- h.indexArg (argAt args 0) len 0
  let count <- h.clampArg (argAt args 1) (len - start) (len - start)
  pure (.str (unitSlice s start (start + count)))

/-- `toUpperCase`. -/
def stringToUpperCase : NativeFn := fun h this _ _ => do
  let s <- h.thisText this "toUpperCase"
  pure (.str (upperText s))

/-- `toLowerCase`. -/
def stringToLowerCase : NativeFn := fun h this _ _ => do
  let s <- h.thisText this "toLowerCase"
  pure (.str (lowerText s))

/-- The language of the first locale a case method is given, in lower case: Turkish and
Azerbaijani tell `i` with a dot from `ı` without, Lithuanian keeps the dot of `i` under other
accents. -/
def Host.caseLanguage (h : Host) (v : Value) : Eval String := do
  let first <- match v with
    | .undefined => pure ""
    | .obj _ =>
      match <- h.get v "0" with
      | .undefined => pure ""
      | x => h.toStr x
    | x => h.toStr x
  let language := (first.splitOn "-").headD ""
  pure (String.ofList (language.toList.map Char.toLower))

/-- Lower case under the Turkic rules: dotted capital I and I with a combining dot above become
`i`, a plain capital I becomes dotless `ı`. -/
def turkicLower (s : String) : String :=
  let rec go : List Char -> List Char
    | 'I' :: '\u0307' :: rest => 'i' :: go rest
    | 'I' :: rest => 'ı' :: go rest
    | 'İ' :: rest => 'i' :: go rest
    | c :: rest => c :: go rest
    | [] => []
  lowerText (String.ofList (go s.toList))

/-- Upper case under the Turkic rules: `i` becomes dotted capital I. -/
def turkicUpper (s : String) : String :=
  upperText (String.ofList (s.toList.map fun c => if c == 'i' then 'İ' else c))

/-- The letters whose dot goes away under an accent above them. -/
def softDotted : List Nat :=
  [0x69, 0x6A, 0x12F, 0x249, 0x268, 0x29D, 0x2B2, 0x3F3, 0x456, 0x458, 0x1D62, 0x1D96, 0x1DA4,
   0x1DA8, 0x1E2D, 0x1ECB, 0x2071, 0x2148, 0x2149, 0x2C7C]

/-- The rank of the combining class of accents above a letter, as the grave accent has it. -/
def aboveRank : Nat := Unicode.combiningRank 0x300

/-- Whether an accent above follows before the next base character or other accent above. -/
def accentAboveFollows (rest : List Char) : Bool :=
  match rest.find? fun c => Unicode.combiningRank c.toNat == 0 || Unicode.combiningRank c.toNat == aboveRank with
  | some c => Unicode.combiningRank c.toNat == aboveRank
  | none => false

/-- Lower case under the Lithuanian rules: `I`, `J` and `Į` keep a dot above when an accent
above follows, and `Ì`, `Í`, `Ĩ` become `i` with a dot and the accent. -/
def lithuanianLower (s : String) : String :=
  let rec go : List Char -> List Char
    | [] => []
    | c :: rest =>
      let dotted (l : Char) := if accentAboveFollows rest then l :: '\u0307' :: go rest else l :: go rest
      match c with
      | 'I' => dotted 'i'
      | 'J' => dotted 'j'
      | 'Į' => dotted 'į'
      | 'Ì' => 'i' :: '\u0307' :: '\u0300' :: go rest
      | 'Í' => 'i' :: '\u0307' :: '\u0301' :: go rest
      | 'Ĩ' => 'i' :: '\u0307' :: '\u0303' :: go rest
      | _ => c :: go rest
  lowerText (String.ofList (go s.toList))

/-- Upper case under the Lithuanian rules: a dot above right after a soft-dotted letter goes
away, as the capital has no dot. -/
def lithuanianUpper (s : String) : String :=
  let rec go : Bool -> List Char -> List Char
    | _, [] => []
    | afterDotted, c :: rest =>
      if c == '\u0307' && afterDotted then go false rest
      else if softDotted.contains c.toNat then c :: go true rest
      else if Unicode.combiningRank c.toNat == 0 || Unicode.combiningRank c.toNat == aboveRank then c :: go false rest
      else c :: go afterDotted rest
  upperText (String.ofList (go false s.toList))

/-- `toLocaleUpperCase(locale)`. -/
def stringToLocaleUpperCase : NativeFn := fun h this args _ => do
  let s <- h.thisText this "toLocaleUpperCase"
  match <- h.caseLanguage (argAt args 0) with
  | "tr" | "az" => pure (.str (turkicUpper s))
  | "lt" => pure (.str (lithuanianUpper s))
  | _ => pure (.str (upperText s))

/-- `toLocaleLowerCase(locale)`. -/
def stringToLocaleLowerCase : NativeFn := fun h this args _ => do
  let s <- h.thisText this "toLocaleLowerCase"
  match <- h.caseLanguage (argAt args 0) with
  | "tr" | "az" => pure (.str (turkicLower s))
  | "lt" => pure (.str (lithuanianLower s))
  | _ => pure (.str (lowerText s))

/-- `isWellFormed`: whether the text has no lone surrogate. -/
def stringIsWellFormed : NativeFn := fun h this _ _ => do
  let s <- h.thisText this "isWellFormed"
  pure (.bool (s.toList.all fun c => (standIn? c).isNone))

/-- `toWellFormed`: each lone surrogate becomes the replacement character. -/
def stringToWellFormed : NativeFn := fun h this _ _ => do
  let s <- h.thisText this "toWellFormed"
  pure (.str (String.ofList (s.toList.map fun c => if (standIn? c).isSome then '\uFFFD' else c)))

/-- Drops spaces and line breaks from the start. -/
def trimStartText (s : String) : String :=
  String.ofList (s.toList.dropWhile isTrimmed)

/-- Drops spaces and line breaks from the end. -/
def trimEndText (s : String) : String :=
  String.ofList (s.toList.reverse.dropWhile isTrimmed).reverse

/-- `trim`. -/
def stringTrim : NativeFn := fun h this _ _ => do
  pure (.str (trimEndText (trimStartText (<- h.thisText this "trim"))))

/-- `trimStart`. -/
def stringTrimStart : NativeFn := fun h this _ _ => do
  pure (.str (trimStartText (<- h.thisText this "trimStart")))

/-- `trimEnd`. -/
def stringTrimEnd : NativeFn := fun h this _ _ => do
  pure (.str (trimEndText (<- h.thisText this "trimEnd")))

/-- The filler of `padStart` or `padEnd` for `n` units. -/
def padding (fill : String) (n : Nat) : String :=
  let us := unitList fill
  if us.isEmpty then "" else ofUnits ((List.range n).map fun i => us[i % us.length]!)

/-- `padStart` and `padEnd`. -/
def Host.pad (h : Host) (this : Value) (args : List Value) (atStart : Bool) : Eval Value := do
  let s <- h.thisText this (if atStart then "padStart" else "padEnd")
  let target <- h.toInteger (argAt args 0)
  let fill <- match argAt args 1 with
    | .undefined => pure " "
    | v => h.toStr v
  let len := unitLength s
  if target <= len.toFloat then pure (.str s)
  else
    let p := padding fill (integerPart target - len)
    pure (.str (if atStart then p ++ s else s ++ p))

/-- `padStart`. -/
def stringPadStart : NativeFn := fun h this args _ => h.pad this args true

/-- `padEnd`. -/
def stringPadEnd : NativeFn := fun h this args _ => h.pad this args false

/-- `repeat`. -/
def stringRepeat : NativeFn := fun h this args _ => do
  let s <- h.thisText this "repeat"
  let n <- h.toInteger (argAt args 0)
  if n < 0 || n.isInf then raiseError .rangeError ("Invalid count value: " ++ numberText n)
  else if s.isEmpty then pure (.str "")
  else if n * (unitLength s).toFloat > 536870888 then raiseError .rangeError "Invalid string length"
  else pure (.str (String.join (List.replicate (integerPart n) s)))

/-- `concat`. -/
def stringConcat : NativeFn := fun h this args _ => do
  let s <- h.thisText this "concat"
  let rest <- args.mapM h.toStr
  pure (.str (settle (s ++ String.join rest)))

/-- Splits units at each occurrence of a separator. -/
def splitUnits (us sep : List Nat) : List (List Nat) :=
  let n := sep.length
  let rec go : Nat -> List Nat -> List Nat -> List (List Nat)
    | 0, cur, rest => [cur.reverse ++ rest]
    | fuel + 1, cur, rest =>
      match rest with
      | [] => [cur.reverse]
      | x :: more =>
        if sep.isPrefixOf rest then cur.reverse :: go fuel [] (rest.drop n)
        else go fuel (x :: cur) more
  go (us.length + 1) [] us

/-- `split` with a text separator. -/
def stringSplit : NativeFn := fun h this args _ => do
  let s <- h.thisText this "split"
  let limit <- match argAt args 1 with
    | .undefined => pure maxArrayLength
    | v => pure (toUint32 (<- h.toNum v))
  let parts <- match argAt args 0 with
    | .undefined => pure [s]
    | v => do
      let sep <- h.toStr v
      if sep.isEmpty then pure ((unitsOf s).toList.map fun u => ofUnits [u])
      else if s.isEmpty then pure [s]
      else pure ((splitUnits (unitList s) (unitList sep)).map ofUnits)
  newArray ((parts.take limit).map Value.str).toArray

/-- The replacement text for a match, with `$$`, `$&`, `` $` `` and `$'` expanded. -/
def expandReplacement (template matched before after : String) : String :=
  let rec go : List Char -> List Char -> List Char
    | [], acc => acc.reverse
    | '$' :: '$' :: rest, acc => go rest ('$' :: acc)
    | '$' :: '&' :: rest, acc => go rest (matched.toList.reverse ++ acc)
    | '$' :: '\x60' :: rest, acc => go rest (before.toList.reverse ++ acc)
    | '$' :: '\'' :: rest, acc => go rest (after.toList.reverse ++ acc)
    | c :: rest, acc => go rest (c :: acc)
  String.ofList (go template.toList [])

/-- `replace` and `replaceAll` with a text pattern. -/
def Host.replaceText (h : Host) (this : Value) (args : List Value) (all : Bool) : Eval Value := do
  let s <- h.thisText this (if all then "replaceAll" else "replace")
  let pat <- h.toStr (argAt args 0)
  let repl := argAt args 1
  let callable <- isCallable repl
  let template <- if callable then pure "" else h.toStr repl
  let hay := unitList s
  let needle := unitList pat
  let rec positions : Nat -> Nat -> List Nat
    | 0, _ => []
    | fuel + 1, from_ =>
      match findUnits hay needle from_ with
      | some i => i :: (if all then positions fuel (i + max needle.length 1) else [])
      | none => []
  let found := positions (hay.length + 2) 0
  let mut out : String := ""
  let mut last := 0
  for i in found do
    out := out ++ ofUnits ((hay.drop last).take (i - last))
    let before := ofUnits (hay.take i)
    let after := ofUnits (hay.drop (i + needle.length))
    let r <- if callable then h.toStr (<- h.call repl .undefined [.str pat, .num i.toFloat, .str s])
      else pure (expandReplacement template pat before after)
    out := out ++ r
    last := i + needle.length
  out := out ++ ofUnits (hay.drop last)
  pure (.str (settle out))

/-- `replace`. -/
def stringReplace : NativeFn := fun h this args _ => h.replaceText this args false

/-- `replaceAll`. -/
def stringReplaceAll : NativeFn := fun h this args _ => h.replaceText this args true

/-- `toString` and `valueOf` of strings. -/
def stringValueOf : NativeFn := fun _ this _ _ => do
  match this with
  | .str s => pure (.str s)
  | .obj r => match (<- getObj r).kind with
    | .boxed (.str s) => pure (.str s)
    | _ => throwType "String.prototype.toString requires that 'this' be a String"
  | _ => throwType "String.prototype.toString requires that 'this' be a String"

/-- `normalize`: the text in one of the four normalization forms, NFC by default. -/
def stringNormalize : NativeFn := fun h this args _ => do
  let s <- h.thisText this "normalize"
  let name <- match argAt args 0 with
    | .undefined => pure "NFC"
    | v => h.toStr v
  let form <- match name with
    | "NFC" => pure Unicode.NormalForm.nfc
    | "NFD" => pure .nfd
    | "NFKC" => pure .nfkc
    | "NFKD" => pure .nfkd
    | _ => raiseError .rangeError "The normalization form should be one of NFC, NFD, NFKC, NFKD."
  pure (.str (String.ofList ((Unicode.normalize form (s.toList.map Char.toNat)).map Char.ofNat)))

/-- The iterator over a string's characters. -/
def stringIterator : NativeFn := fun h this _ _ => do
  let s <- h.thisText this "Symbol.iterator"
  newIterator (s.toList.map fun c => Value.str (String.singleton c)).toArray "String Iterator"

/-- An HTML method of strings such as `anchor`: the text between an opening and a closing
tag, the opening one with an attribute whose value is the argument, its double quotes
written `&quot;`. -/
def stringHtml (method tag : String) (attr? : Option String) : NativeFn :=
  fun h this args _ => do
    let s <- h.thisText this method
    let attr <- match attr? with
      | some a => do
        let v <- h.toStr (argAt args 0)
        pure (" " ++ a ++ "=\"" ++ v.replace "\"" "&quot;" ++ "\"")
      | none => pure ""
    pure (.str ("<" ++ tag ++ attr ++ ">" ++ s ++ "</" ++ tag ++ ">"))

/-- The HTML methods of strings: their names, tags and attributes. -/
def htmlMethods : List (String × String × Option String) :=
  [("anchor", "a", some "name"), ("big", "big", none), ("blink", "blink", none),
   ("bold", "b", none), ("fixed", "tt", none), ("fontcolor", "font", some "color"),
   ("fontsize", "font", some "size"), ("italics", "i", none), ("link", "a", some "href"),
   ("small", "small", none), ("strike", "strike", none), ("sub", "sub", none),
   ("sup", "sup", none)]

end TranscriptTest.Js
