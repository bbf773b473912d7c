import TranscriptTest.Pattern.CharSet
import TranscriptTest.Js.Utf16
import TranscriptTest.Unicode.Property
import TranscriptTest.Unicode.Script
import TranscriptTest.Unicode.ScriptExtension

/-!
# Script patterns

A script pattern is read into a tree: characters and classes become character sets (closed
under case variants when the pattern ignores case), groups are numbered from 1 in the order
their opening brackets stand, and a repetition knows which groups it holds, since each
repetition starts those groups afresh.
-/

namespace TranscriptTest.Js.Regex

open TranscriptTest.Pattern

/-- The flags of a pattern. -/
structure Flags where
  hasIndices : Bool := false
  global : Bool := false
  ignoreCase : Bool := false
  multiline : Bool := false
  dotAll : Bool := false
  unicode : Bool := false
  unicodeSets : Bool := false
  sticky : Bool := false
  deriving Inhabited

/-- Reads flags: each of `dgimsuvy` at most once, and not both `u` and `v`. -/
def Flags.read? (text : String) : Option Flags :=
  text.toList.foldl (fun acc c => acc.bind fun (f : Flags) =>
    match c with
    | 'd' => if f.hasIndices then none else some { f with hasIndices := true }
    | 'g' => if f.global then none else some { f with global := true }
    | 'i' => if f.ignoreCase then none else some { f with ignoreCase := true }
    | 'm' => if f.multiline then none else some { f with multiline := true }
    | 's' => if f.dotAll then none else some { f with dotAll := true }
    | 'u' => if f.unicode then none else some { f with unicode := true }
    | 'v' => if f.unicodeSets then none else some { f with unicodeSets := true }
    | 'y' => if f.sticky then none else some { f with sticky := true }
    | _ => none) (some {}) |>.filter fun f => !(f.unicode && f.unicodeSets)

/-- The flags as text, in the canonical order. -/
def Flags.text (f : Flags) : String :=
  String.ofList ([('d', f.hasIndices), ('g', f.global), ('i', f.ignoreCase), ('m', f.multiline),
    ('s', f.dotAll), ('u', f.unicode), ('v', f.unicodeSets), ('y', f.sticky)].filterMap
      fun (c, on) => if on then some c else none)

/-- A pattern as a tree. -/
inductive Node where
  | empty
  /-- One character of the set. -/
  | char (s : CharSet)
  /-- `^`: the start of the input, or of a line in multiline mode. -/
  | lineStart
  /-- `$`: the end of the input, or of a line in multiline mode. -/
  | lineEnd
  /-- `\b`, or `\B` when negated. -/
  | boundary (negated : Bool)
  /-- A group; `some i` records its span as group `i`. -/
  | group (index : Option Nat) (body : Node)
  | concat (parts : List Node)
  /-- Alternatives in order of preference. -/
  | alt (branches : List Node)
  /-- Between `min` and `max` repetitions of `body`, which holds the groups `firstGroup` to
  `firstGroup + groups - 1`. -/
  | rep (body : Node) (min : Nat) (max : Option Nat) (greedy : Bool) (firstGroup groups : Nat)
  /-- The text group `i` matched. -/
  | backref (index : Nat)
  /-- A look ahead or behind, which may be negated. -/
  | look (behind negated : Bool) (body : Node)
  deriving Inhabited

/-- A pattern read and ready to match. -/
structure Program where
  node : Node
  /-- The number of groups. -/
  groups : Nat
  /-- Named groups with their numbers, in order. -/
  names : List (String × Nat)
  flags : Flags
  deriving Inhabited

/-- The line terminators. -/
def isLineTerminator (c : Char) : Bool :=
  c == '\n' || c == '\r' || c == '\u2028' || c == '\u2029'

/-- `\s`: white space and line terminators. -/
def blankSet : CharSet :=
  CharSet.ofRanges [(0x9, 0xD), (0x20, 0x20), (0xA0, 0xA0), (0x1680, 0x1680), (0x2000, 0x200A),
    (0x2028, 0x2029), (0x202F, 0x202F), (0x205F, 0x205F), (0x3000, 0x3000), (0xFEFF, 0xFEFF)]

/-- `\d`. -/
def digitSet : CharSet := CharSet.range 0x30 0x39

/-- `\w`. -/
def wordSet : CharSet := CharSet.ofRanges [(0x30, 0x39), (0x41, 0x5A), (0x5F, 0x5F), (0x61, 0x7A)]

/-- What the reader knows about the whole pattern. -/
structure Context where
  src : Array Char
  flags : Flags
  /-- The number of groups in the whole pattern. -/
  totalGroups : Nat
  /-- Whether the pattern has named groups. -/
  hasNames : Bool

/-- What the reader keeps: its place, the groups opened so far and their names. -/
structure Progress where
  pos : Nat := 0
  groups : Nat := 0
  names : List (String × Nat) := []
  /-- Named backreferences, checked when the whole pattern has been read. -/
  namedRefs : List String := []

/-- Reading a pattern. -/
abbrev Reader := ReaderT Context (StateT Progress (Except String))

/-- The character at an index, or a blank past the end. -/
def charAt (src : Array Char) (i : Nat) : Option Char := src[i]?

/-- The character at the reader's place. -/
def peek : Reader (Option Char) := do
  pure (charAt (<- read).src (<- get).pos)

/-- The character after the reader's place. -/
def peekAt (k : Nat) : Reader (Option Char) := do
  pure (charAt (<- read).src ((<- get).pos + k))

/-- Moves on by `k` characters. -/
def skip (k : Nat := 1) : Reader Unit :=
  modify fun p => { p with pos := p.pos + k }

/-- How a pattern with these flags folds case: by simple case folding in Unicode mode, by upper
case otherwise. -/
def Flags.folding (f : Flags) : Unicode.Folding :=
  if f.unicode || f.unicodeSets then .unicode else .legacy

/-- The word characters of `\w`: with Unicode case folding, also the long s and the Kelvin sign,
whose folds are word characters. -/
def Flags.wordChars (f : Flags) : CharSet :=
  if f.ignoreCase && (f.unicode || f.unicodeSets) then
    .union wordSet (CharSet.ofRanges [(0x17F, 0x17F), (0x212A, 0x212A)])
  else wordSet

/-- A set for one character, closed under case variants when the pattern ignores case. -/
def charSet (flags : Flags) (s : CharSet) : CharSet :=
  if flags.ignoreCase then .caseless flags.folding s else s

/-- The value of a hexadecimal digit. -/
def hexValue (c : Char) : Option Nat :=
  if '0' <= c && c <= '9' then some (c.toNat - 48)
  else if 'a' <= c && c <= 'f' then some (c.toNat - 87)
  else if 'A' <= c && c <= 'F' then some (c.toNat - 55)
  else none

/-- Reads exactly `n` hexadecimal digits at the reader's place, without moving. -/
def hexDigits (n : Nat) : Reader (Option Nat) := do
  let ctx <- read
  let pos := (<- get).pos
  let digits := (List.range n).map fun k => (charAt ctx.src (pos + k)).bind hexValue
  if digits.all Option.isSome then pure (some (digits.foldl (fun acc d => 16 * acc + d.getD 0) 0))
  else pure none

/-- Reads a decimal number at the reader's place. -/
def decimal : Reader (Option Nat) := do
  let ctx <- read
  let pos := (<- get).pos
  let digits := ((ctx.src.extract pos ctx.src.size).toList.takeWhile Char.isDigit)
  if digits.isEmpty then pure none
  else
    skip digits.length
    pure (some (digits.foldl (fun acc c => 10 * acc + (c.toNat - 48)) 0))

/-- A code point or UTF-16 unit as a character: a surrogate is its stand-in, and a value past
the last code point the replacement character. -/
def pointChar (n : Nat) : Char := unitChar n

/-- What an escape stands for: one character, or a class. -/
inductive Escaped where
  | char (c : Char)
  | set (s : CharSet)
  | backref (index : Nat)
  | namedBackref (name : String)

/-- Reads a group name after `<` up to `>`. -/
def groupName : Reader String := do
  let ctx <- read
  let pos := (<- get).pos
  let rest := (ctx.src.extract pos ctx.src.size).toList
  let name := rest.takeWhile (· != '>')
  let valid := match name with
    | c :: cs => (c.isAlpha || c == '_' || c == '$' || c.toNat > 127) &&
        cs.all fun d => d.isAlphanum || d == '_' || d == '$' || d.toNat > 127
    | [] => false
  if !valid || name.length == rest.length then throw "Invalid capture group name"
  skip (name.length + 1)
  pure (String.ofList name)

/-- The table of the row that has `name` among its aliases, spelled exactly. -/
def exactRow (rows : List (List String × String)) (name : String) : Option Unicode.RangeTable :=
  (rows.find? fun row => row.1.contains name).map fun row => Unicode.RangeTable.ofPacked row.2

/-- A table as the engine's Unicode version knows it: without the characters added later. -/
def knownSet (t : Unicode.RangeTable) : CharSet := .diff (.table t) (.table Unicode.addedIn17)

/-- A general category value by one of its names; `digit`, `punct` and `cntrl` are spelled in
lower case. -/
def categorySet (name : String) : Option CharSet :=
  let name := match name with
    | "digit" => "Nd"
    | "punct" => "P"
    | "cntrl" => "Cc"
    | "Digit" | "Punct" | "Cntrl" => ""
    | n => n
  if name == "Cn" || name == "Unassigned" then
    (exactRow Unicode.categoryRows name).map fun t => .union (.table t) (.table Unicode.addedIn17)
  else (exactRow Unicode.categoryRows name).map knownSet

/-- A binary property by one of its names, as patterns may name it. -/
def binarySet (name : String) : Option CharSet :=
  match name with
  | "Any" => some CharSet.all
  | "ASCII" => some (.range 0 0x7F)
  | "Assigned" => (categorySet "Cn").map .compl
  | "WSpace" => none
  | _ =>
    match Unicode.propertyRows.find? fun row => row.1.contains name with
    | some row =>
      if Unicode.patternOnlyProperties.contains (row.1.headD "") then none
      else some (knownSet (Unicode.RangeTable.ofPacked row.2))
    | none => none

/-- The set a property escape names: `name`, or `name=value` for a category or script. -/
def propertySet (text : String) : Option CharSet :=
  match text.splitOn "=" with
  | [name] => (categorySet name).orElse fun _ => binarySet name
  | [prop, value] =>
    if prop == "General_Category" || prop == "gc" then categorySet value
    else if prop == "Script" || prop == "sc" then (exactRow Unicode.scriptRows value).map knownSet
    else if prop == "Script_Extensions" || prop == "scx" then
      (exactRow Unicode.scriptExtensionRows value).map knownSet
    else none
  | _ => none

/-- Reads `{name}` after `\p` or `\P` (`negated`). -/
def property (inClass negated : Bool) : Reader CharSet := do
  let ctx <- read
  let failure := if inClass then "Invalid property name in character class" else "Invalid property name"
  if (← peek) != some '{' then throw failure
  let pos := (<- get).pos + 1
  let inside := (ctx.src.extract pos ctx.src.size).toList.takeWhile (· != '}')
  if charAt ctx.src (pos + inside.length) != some '}' then throw failure
  let valid := inside.all fun c => c.isAlphanum || c == '_' || c == '='
  let some s := if valid then propertySet (String.ofList inside) else none | throw failure
  skip (inside.length + 2)
  pure (if negated then .compl s else s)

/-- Reads an escape after its backslash; `inClass` reads it inside a class, where `\b` is a
backspace. -/
def escape (inClass : Bool) : Reader Escaped := do
  let ctx <- read
  let some c <- peek | throw "\\ at end of pattern"
  skip
  match c with
  | 'd' => pure (.set digitSet)
  | 'D' => pure (.set (.compl digitSet))
  | 'w' => pure (.set (ctx.flags.wordChars))
  | 'W' => pure (.set (.compl ctx.flags.wordChars))
  | 's' => pure (.set blankSet)
  | 'S' => pure (.set (.compl blankSet))
  | 'n' => pure (.char '\n')
  | 'r' => pure (.char '\r')
  | 't' => pure (.char '\t')
  | 'v' => pure (.char '\x0b')
  | 'f' => pure (.char '\x0c')
  | 'b' => if inClass then pure (.char '\x08') else pure (.char 'b')
  | 'c' =>
    match <- peek with
    | some l =>
      if l.isAlpha then
        skip
        pure (.char (pointChar (l.toNat % 32)))
      else
        modify fun p => { p with pos := p.pos - 1 }
        pure (.char '\\')
    | none =>
      modify fun p => { p with pos := p.pos - 1 }
      pure (.char '\\')
  | 'x' =>
    match <- hexDigits 2 with
    | some n => skip 2; pure (.char (pointChar n))
    | none =>
      if ctx.flags.unicode then throw "Invalid escape" else pure (.char 'x')
  | 'u' =>
    if ctx.flags.unicode && (← peek) == some '{' then
      skip
      let ctx <- read
      let pos := (<- get).pos
      let digits := (ctx.src.extract pos ctx.src.size).toList.takeWhile fun d => (hexValue d).isSome
      let n := digits.foldl (fun acc d => 16 * acc + (hexValue d).getD 0) 0
      if digits.isEmpty || charAt ctx.src (pos + digits.length) != some '}' || n > 0x10FFFF then
        throw "Invalid Unicode escape"
      skip (digits.length + 1)
      pure (.char (pointChar n))
    else match <- hexDigits 4 with
      | some n =>
        skip 4
        -- in Unicode mode the escapes of a surrogate pair stand for one character
        if ctx.flags.unicode && isHighSurrogate n && (← peek) == some '\\' && (← peekAt 1) == some 'u' then
          skip 2
          match <- hexDigits 4 with
          | some m =>
            if isLowSurrogate m then
              skip 4
              return .char (pointChar (pairCodePoint n m))
          | none => pure ()
          modify fun p => { p with pos := p.pos - 2 }
        pure (.char (pointChar n))
      | none => if ctx.flags.unicode then throw "Invalid Unicode escape" else pure (.char 'u')
  | 'p' => if ctx.flags.unicode || ctx.flags.unicodeSets then pure (.set (<- property inClass false)) else pure (.char 'p')
  | 'P' => if ctx.flags.unicode || ctx.flags.unicodeSets then pure (.set (<- property inClass true)) else pure (.char 'P')
  | 'k' =>
    if ctx.hasNames || ctx.flags.unicode then
      if (<- peek) != some '<' then throw "Invalid named reference"
      skip
      let name <- groupName
      if inClass then pure (.char 'k') else pure (.namedBackref name)
    else pure (.char 'k')
  | '0' =>
    match <- peek with
    | some d =>
      if d.isDigit && !ctx.flags.unicode then
        -- an octal escape of up to three digits
        let digits := ((ctx.src.extract ((← get).pos - 1) ctx.src.size).toList.takeWhile
          fun e => '0' <= e && e <= '7').take 3
        skip (digits.length - 1)
        pure (.char (pointChar (digits.foldl (fun acc e => 8 * acc + (e.toNat - 48)) 0)))
      else if d.isDigit then throw "Invalid decimal escape"
      else pure (.char '\x00')
    | none => pure (.char '\x00')
  | _ =>
    if c.isDigit then
      modify fun p => { p with pos := p.pos - 1 }
      let n := (<- decimal).getD 0
      if !inClass && n <= ctx.totalGroups then pure (.backref n)
      else if ctx.flags.unicode then throw "Invalid escape"
      else
        -- an octal escape, or the digit itself
        modify fun p => { p with pos := p.pos - (toString n).length }
        if c == '8' || c == '9' then
          skip
          pure (.char c)
        else
          let start := (<- get).pos
          let digits := ((ctx.src.extract start ctx.src.size).toList.takeWhile
            fun e => '0' <= e && e <= '7').take 3
          let digits := if digits.length == 3 && digits.headD '0' > '3' then digits.take 2 else digits
          skip digits.length
          pure (.char (pointChar (digits.foldl (fun acc e => 8 * acc + (e.toNat - 48)) 0)))
    else if ctx.flags.unicode && !("^$\\.*+?()[]{}|/-".toList.contains c) then throw "Invalid escape"
    else pure (.char c)

/-- Reads the members of a class after `[` and an optional `^`, up to its `]`. -/
def classItems : Nat -> List CharSet -> Reader (List CharSet)
  | 0, _ => throw "Unterminated character class"
  | fuel + 1, acc => do
    let ctx <- read
    let some c <- peek | throw "Unterminated character class"
    if c == ']' then
      skip
      return acc.reverse
    let first <- atom
    -- a range when a `-` follows that is not the class's end
    if (← peek) == some '-' && (← peekAt 1) != some ']' && (← peekAt 1).isSome then
      let save := (<- get).pos
      skip
      let second <- atom
      match first, second with
      | .inl a, .inl b =>
        if a.toNat > b.toNat then throw "Range out of order in character class"
        classItems fuel (CharSet.range a.toNat b.toNat :: acc)
      | _, _ =>
        if ctx.flags.unicode then throw "Invalid character class"
        modify fun p => { p with pos := save }
        classItems fuel (toSet first :: acc)
    else classItems fuel (toSet first :: acc)
where
  /-- One member: a character, or a class escape. -/
  atom : Reader (Char ⊕ CharSet) := do
    let some c <- peek | throw "Unterminated character class"
    skip
    if c == '\\' then
      match <- escape true with
      | .char d => pure (.inl d)
      | .set s => pure (.inr s)
      | .backref _ => pure (.inl 'k')
      | .namedBackref _ => pure (.inl 'k')
    else pure (.inl c)
  toSet : Char ⊕ CharSet -> CharSet
    | .inl c => CharSet.single c
    | .inr s => s

/-- Reads a count `{n}`, `{n,}` or `{n,m}` at the reader's place; `none`, without moving, when
no count stands there. -/
def count : Reader (Option (Nat × Option Nat)) := do
  let start := (<- get).pos
  if (← peek) != some '{' then return none
  skip
  let some lo <- decimal | do modify (fun p => { p with pos := start }); return none
  match <- peek with
  | some '}' => skip; pure (some (lo, some lo))
  | some ',' =>
    skip
    match <- peek with
    | some '}' => skip; pure (some (lo, none))
    | _ =>
      match <- decimal with
      | some hi =>
        if (← peek) == some '}' then
          skip
          if hi < lo then throw "numbers out of order in \x7b\x7d quantifier"
          pure (some (lo, some hi))
        else do modify (fun p => { p with pos := start }); pure none
      | none => do modify (fun p => { p with pos := start }); pure none
  | _ => do modify (fun p => { p with pos := start }); pure none

/-- Reads a quantifier after an atom; `none` when none stands there. -/
def quantifier : Reader (Option (Nat × Option Nat × Bool)) := do
  let bounds <- match <- peek with
    | some '*' => skip; pure (some (0, none))
    | some '+' => skip; pure (some (1, none))
    | some '?' => skip; pure (some (0, some 1))
    | some '{' => count
    | _ => pure none
  match bounds with
  | none => pure none
  | some (lo, hi) =>
    if (← peek) == some '?' then
      skip
      pure (some (lo, hi, false))
    else pure (some (lo, hi, true))

/-- Whether a quantifier starts here. -/
def atQuantifier : Reader Bool := do
  match <- peek with
  | some '*' => pure true
  | some '+' => pure true
  | some '?' => pure true
  | some '{' =>
    let start := (<- get).pos
    let q <- count
    modify fun p => { p with pos := start }
    pure q.isSome
  | _ => pure false

mutual

/-- Reads alternatives up to the end or a `)`. -/
def disjunction : Nat -> Reader Node
  | 0 => throw "Regular expression too large"
  | fuel + 1 => do
    let first <- alternative fuel []
    if (← peek) == some '|' then
      skip
      match <- disjunction fuel with
      | .alt rest => pure (.alt (first :: rest))
      | other => pure (.alt [first, other])
    else pure first

/-- Reads terms up to a `|`, a `)` or the end. -/
def alternative : Nat -> List Node -> Reader Node
  | 0, _ => throw "Regular expression too large"
  | fuel + 1, acc => do
    match <- peek with
    | none => pure (done acc)
    | some '|' => pure (done acc)
    | some ')' => pure (done acc)
    | some _ =>
      let t <- term fuel
      alternative fuel (t :: acc)
where
  done (acc : List Node) : Node :=
    match acc with
    | [] => .empty
    | [n] => n
    | ns => .concat ns.reverse

/-- Reads one term: an assertion, or an atom with its quantifier. -/
def term : Nat -> Reader Node
  | 0 => throw "Regular expression too large"
  | fuel + 1 => do
    let ctx <- read
    let groupsBefore := (<- get).groups
    let some c <- peek | throw "Unexpected end"
    let lookaround (behind negated : Bool) : Reader (Node × Bool) := do
      skip 2
      let body <- disjunction fuel
      if (<- peek) != some ')' then throw "Unterminated group"
      skip
      pure (Node.look behind negated body, !behind && !ctx.flags.unicode)
    let (node, quantifiable) <- match c with
      | '^' => skip; pure (Node.lineStart, false)
      | '$' => skip; pure (Node.lineEnd, false)
      | '\\' =>
        match <- peekAt 1 with
        | some 'b' => skip 2; pure (Node.boundary false, false)
        | some 'B' => skip 2; pure (Node.boundary true, false)
        | _ =>
          skip
          match <- escape false with
          | .char d => pure (Node.char (charSet ctx.flags (CharSet.single d)), true)
          | .set s => pure (Node.char (charSet ctx.flags s), true)
          | .backref i => pure (Node.backref i, true)
          | .namedBackref name =>
            modify fun p => { p with namedRefs := p.namedRefs ++ [name] }
            pure (Node.backref 0, true)
      | '(' =>
        skip
        if (← peek) == some '?' then
          match <- peekAt 1 with
          | some ':' =>
            skip 2
            let body <- disjunction fuel
            if (<- peek) != some ')' then throw "Unterminated group"
            skip
            pure (Node.group none body, true)
          | some '=' => lookaround false false
          | some '!' => lookaround false true
          | some '<' =>
            match <- peekAt 2 with
            | some '=' => skip; lookaround true false
            | some '!' => skip; lookaround true true
            | _ =>
              skip 2
              let name <- groupName
              let p <- get
              if p.names.any (·.1 == name) then throw "Duplicate capture group name"
              let index := p.groups + 1
              set { p with groups := index, names := p.names ++ [(name, index)] }
              let body <- disjunction fuel
              if (<- peek) != some ')' then throw "Unterminated group"
              skip
              pure (Node.group (some index) body, true)
          | _ => throw "Invalid group"
        else
          let index := (<- get).groups + 1
          modify fun p => { p with groups := index }
          let body <- disjunction fuel
          if (<- peek) != some ')' then throw "Unterminated group"
          skip
          pure (Node.group (some index) body, true)
      | ')' => throw "Unmatched ')'"
      | '[' =>
        skip
        let negated := (<- peek) == some '^'
        if negated then skip
        let items <- classItems (ctx.src.size + 1) []
        let s := CharSet.unionAll items
        let s := charSet ctx.flags s
        pure (Node.char (if negated then .compl s else s), true)
      | '.' =>
        skip
        let s := if ctx.flags.dotAll then CharSet.all
          else .compl (CharSet.ofRanges [(0xA, 0xA), (0xD, 0xD), (0x2028, 0x2029)])
        pure (Node.char s, true)
      | '*' => throw "Nothing to repeat"
      | '+' => throw "Nothing to repeat"
      | '?' => throw "Nothing to repeat"
      | '{' =>
        if <- atQuantifier then throw "Nothing to repeat"
        if ctx.flags.unicode then throw "Lone quantifier brackets"
        skip
        pure (Node.char (charSet ctx.flags (CharSet.single '{')), true)
      | '}' =>
        if ctx.flags.unicode then throw "Lone quantifier brackets"
        skip
        pure (Node.char (charSet ctx.flags (CharSet.single '}')), true)
      | ']' =>
        if ctx.flags.unicode then throw "Lone quantifier brackets"
        skip
        pure (Node.char (charSet ctx.flags (CharSet.single ']')), true)
      | d =>
        skip
        pure (Node.char (charSet ctx.flags (CharSet.single d)), true)
    match <- quantifier with
    | none => pure node
    | some (lo, hi, greedy) =>
      if !quantifiable then throw "Nothing to repeat"
      if <- atQuantifier then throw "Nothing to repeat"
      let groupsAfter := (<- get).groups
      pure (.rep node lo hi greedy (groupsBefore + 1) (groupsAfter - groupsBefore))

end

/-- Counts the groups of a pattern and tells whether any is named, without reading it. -/
def scanGroups (src : List Char) : Nat × Bool :=
  let rec go : List Char -> Bool -> Nat -> Bool -> Nat × Bool
    | [], _, n, named => (n, named)
    | '\\' :: _ :: rest, inClass, n, named => go rest inClass n named
    | '[' :: rest, false, n, named => go rest true n named
    | ']' :: rest, true, n, named => go rest false n named
    | '(' :: '?' :: '<' :: c :: rest, false, n, named =>
      if c == '=' || c == '!' then go rest false n named else go rest false (n + 1) true
    | '(' :: '?' :: rest, false, n, named => go rest false n named
    | '(' :: rest, false, n, named => go rest false (n + 1) named
    | _ :: rest, inClass, n, named => go rest inClass n named
  go src false 0 false

/-- Replaces named backreferences, numbered 0 while reading, by their groups' numbers in the
order they were read. -/
def resolveNamed (names : List (String × Nat)) (refs : List String) (n : Node) : Node × List String :=
  match n with
  | .backref 0 =>
    match refs with
    | r :: rest => (.backref ((names.lookup r).getD 0), rest)
    | [] => (n, [])
  | .group i body => let (b, rs) := resolveNamed names refs body; (.group i b, rs)
  | .concat parts =>
    let (ps, rs) := parts.foldl (fun (acc : List Node × List String) p =>
      let (q, rs) := resolveNamed names acc.2 p
      (acc.1 ++ [q], rs)) ([], refs)
    (.concat ps, rs)
  | .alt parts =>
    let (ps, rs) := parts.foldl (fun (acc : List Node × List String) p =>
      let (q, rs) := resolveNamed names acc.2 p
      (acc.1 ++ [q], rs)) ([], refs)
    (.alt ps, rs)
  | .rep body lo hi g f k => let (b, rs) := resolveNamed names refs body; (.rep b lo hi g f k, rs)
  | .look behind neg body => let (b, rs) := resolveNamed names refs body; (.look behind neg b, rs)
  | other => (other, refs)

/-- Reads a pattern with its flags; the error is the engine's reason. -/
def Program.read (source : String) (flags : Flags) : Except String Program := do
  let src := if flags.unicode || flags.unicodeSets then source.toList.toArray
    else ((unitList source).map unitChar).toArray
  let (total, named) := scanGroups source.toList
  let ctx : Context := { src, flags, totalGroups := total, hasNames := named }
  let (node, p) <- (disjunction (4 * src.size + 8)).run ctx |>.run {}
  if p.pos < src.size then
    if charAt src p.pos == some ')' then throw "Unmatched ')'" else throw "Unexpected character"
  for r in p.namedRefs do
    if !(p.names.any (·.1 == r)) then throw "Invalid named capture referenced"
  let (node, _) := resolveNamed p.names p.namedRefs node
  pure { node, groups := p.groups, names := p.names, flags }

/-- The message of a pattern that cannot be read. -/
def invalidMessage (source flags reason : String) : String :=
  "Invalid regular expression: /" ++ source ++ "/" ++ flags ++ ": " ++ reason

end TranscriptTest.Js.Regex
