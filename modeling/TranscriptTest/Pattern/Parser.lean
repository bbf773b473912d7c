import TranscriptTest.Pattern.Syntax
import TranscriptTest.Unicode.Category
import TranscriptTest.Unicode.Script
import TranscriptTest.Unicode.Property
import TranscriptTest.Unicode.ScriptExtension
import TranscriptTest.Unicode.Age

/-!
# Reading patterns

Patterns follow the usual syntax of leftmost-first regular expressions with Unicode classes:
`\w`, `\d`, `\s` and `\b` use Unicode; `(?P<name>…)` and `(?<name>…)` name groups; flags
`imsUuxR` apply to the rest of the enclosing group. Look-around and back-references are refused.
-/

namespace TranscriptTest.Pattern

open TranscriptTest.Unicode

/-! ## Characters -/

/-- Characters with a meaning of their own; escaped, they stand for themselves. -/
def isMeta (c : Char) : Bool :=
  "\\.+*?()|[]{}^$#&-~".toList.contains c

/-- Characters whose escape stands for the character itself. -/
def isEscapable (c : Char) : Bool :=
  isMeta c || (c.toNat < 128 && !c.isAlphanum && c != '<' && c != '>')

mutual
/-- Skips blanks and `#` comments, as the `x` flag asks. -/
def skipBlanks : List Char -> List Char
  | [] => []
  | c :: rest =>
    if isBlank c then skipBlanks rest
    else if c == '#' then skipComment rest
    else c :: rest

/-- Skips the rest of a comment, up to and including its line feed. -/
def skipComment : List Char -> List Char
  | [] => []
  | c :: rest => if c == '\n' then skipBlanks rest else skipComment rest
end

/-- Skips blanks and comments when the `x` flag is on. -/
def space (flags : Flags) (cs : List Char) : List Char :=
  if flags.verbose then skipBlanks cs else cs

/-- A code point that is a Unicode scalar value, as a character. -/
def scalar? (n : Nat) : Option Char :=
  if n < 0xD800 ∨ (0xDFFF < n ∧ n <= 0x10FFFF) then some (Char.ofNat n) else none

/-! ## Escapes -/

/-- What an escape stands for. -/
inductive Primitive where
  | literal (c : Char)
  | set (s : CharSet)
  | look (l : Look)

/-- Reads exactly `n` hexadecimal digits into `acc`. -/
def readHexDigits : Nat -> List Char -> Nat -> Except PatternError (Nat × List Char)
  | 0, cs, acc => .ok (acc, cs)
  | _ + 1, [], _ => .error .escapeUnexpectedEnd
  | k + 1, c :: rest, acc =>
    match RangeTable.hexValue? c with
    | some d => readHexDigits k rest (16 * acc + d)
    | none => .error .hexInvalid

/-- Reads hexadecimal digits up to a `}`; `seen` counts the digits so far. -/
def readHexBraced (flags : Flags) : List Char -> Nat -> Nat -> Except PatternError (Nat × List Char)
  | [], _, _ => .error .escapeUnexpectedEnd
  | c :: rest, seen, acc =>
    if c == '}' then
      if seen == 0 then .error .hexInvalid else .ok (acc, rest)
    else match RangeTable.hexValue? c with
      | some d => readHexBraced flags rest (seen + 1) (16 * acc + d)
      | none => .error .hexInvalid

/-- Reads the number of `\x`, `\u` or `\U` (two, four or eight digits, or braced). -/
def readHexEscape (flags : Flags) (digits : Nat) (cs : List Char) : Except PatternError (Char × List Char) := do
  let (n, rest) <- match cs with
    | '{' :: r => readHexBraced flags (space flags r) 0 0
    | _ => readHexDigits digits cs 0
  match scalar? n with
  | some c => pure (c, rest)
  | none => throw .hexInvalid

/-- `\d`, `\s`, `\w` and their complements. -/
def perlClass (flags : Flags) (c : Char) : Except PatternError CharSet := do
  let base := match c.toLower, flags.unicode with
    | 'd', true => CharSet.digit
    | 's', true => CharSet.blank
    | 'w', true => CharSet.word
    | 'd', false => CharSet.asciiDigit
    | 's', false => CharSet.asciiBlank
    | _, _ => CharSet.asciiWord
  if c.isUpper then
    -- a complement without Unicode would match bytes that are no characters
    if flags.unicode then pure (.compl base) else throw .invalidUtf8
  else pure base

/-- A table as the identity patterns see it: Unicode 16.0, without the characters 17.0 added. -/
def knownTable (t : RangeTable) : CharSet := .diff (.table t) (.table addedIn17)

/-- A table of unassigned characters as the identity patterns see it: with the characters 17.0
added, which they do not know. -/
def unassignedTable (t : RangeTable) : CharSet := .union (.table t) (.table addedIn17)

/-- The general category named, with `any`, `assigned` and `ascii`. -/
def categoryByName (name : String) : Option CharSet :=
  let norm := normalizeName name
  if norm == "any" then some CharSet.all
  else if norm == "assigned" then (category? "Cn").map fun t => .compl (unassignedTable t)
  else if norm == "ascii" then some (.range 0 0x7F)
  else match lookupRow categoryRows name with
    | some (canonical, t) => some (if canonical == "C" || canonical == "Cn" then unassignedTable t else knownTable t)
    | none => none

/-- The script named; `Unknown` holds the characters the identity patterns do not know. -/
def scriptByName (rows : List (List String × String)) (name : String) : Option CharSet :=
  (lookupRow rows name).map fun (canonical, t) =>
    if canonical == "Zzzz" then unassignedTable t else knownTable t

/-- The binary property named, among those the identity patterns know. -/
def propertyByName (name : String) : Option CharSet :=
  match lookupRow propertyRows name with
  | some (canonical, t) => if scriptOnlyProperties.contains canonical then none else some (knownTable t)
  | none => none

/-- The characters assigned up to a version, 16.0 at most. -/
def ageByName (version : String) : Option CharSet :=
  match versionsThrough? version with
  | some vs =>
    if vs.contains "17.0" then none
    else some (CharSet.unionAll (vs.filterMap fun v => (assignedIn? v).map CharSet.table))
  | none => none

/-- A class named without a property: a binary property, a general category or a script. -/
def classByName (name : String) : Option CharSet :=
  let norm := normalizeName name
  let binary := if norm == "cf" || norm == "sc" || norm == "lc" then none else propertyByName name
  match binary with
  | some s => some s
  | none => match categoryByName name with
    | some s => some s
    | none => scriptByName scriptRows name

/-- A class named as `property=value`. -/
def classByValue (prop value : String) : Option CharSet :=
  let p := normalizeName prop
  if p == "gc" || p == "generalcategory" then categoryByName value
  else if p == "sc" || p == "script" then scriptByName scriptRows value
  else if p == "scx" || p == "scriptextensions" then scriptByName scriptExtensionRows value
  else if p == "age" then ageByName value
  else none

/-- Splits the inside of `\p{…}` at `!=`, `=` or `:`. -/
def splitPropertyQuery (s : String) : Option (String × String × Bool) :=
  match s.splitOn "!=" with
  | [a, b] => some (a, b, true)
  | _ =>
    let cs := s.toList
    match cs.findIdx? (fun c => c == '=' || c == ':') with
    | some i => some (String.ofList (cs.take i), String.ofList (cs.drop (i + 1)), false)
    | none => none

/-- Reads the class of `\p` or `\P` (`negated`) after the letter. -/
def unicodeClass (flags : Flags) (negated : Bool) (cs : List Char) :
    Except PatternError (CharSet × List Char) := do
  let (text, rest) <- match cs with
    | [] => throw .escapeUnexpectedEnd
    | '{' :: r =>
      let r := space flags r
      let inside := r.takeWhile (· != '}')
      match r.drop inside.length with
      | '}' :: after => pure (String.ofList (if flags.verbose then inside.filter (fun c => !isBlank c) else inside), after)
      | _ => throw .escapeUnexpectedEnd
    | c :: r => pure (c.toString, r)
  unless flags.unicode do throw .invalidUtf8
  let (negated, text) := match text.toList with
    | '^' :: t => (!negated, String.ofList t)
    | _ => (negated, text)
  let found := match splitPropertyQuery text with
    | some (p, v, neq) => (classByValue p v).map fun s => (s, neq)
    | none => (classByName text).map fun s => (s, false)
  match found with
  | none => throw .propertyNotFound
  | some (s, neq) =>
    let s := if flags.caseless then CharSet.caseless .pattern s else s
    pure (if negated != neq then .compl s else s, rest)

/-- Reads `\b{start}` and its kin after `\b`; `none` when the brace opens a repetition. -/
def specialBoundary (flags : Flags) (cs : List Char) : Except PatternError (Option (Look × List Char)) :=
  let valid (c : Char) : Bool := c.isAlpha || c == '-'
  match space flags cs with
  | [] => .error .specialWordBoundary
  | c :: _ =>
    if !valid c then .ok none
    else
      let body := (space flags cs).takeWhile valid
      match (space flags cs).drop body.length with
      | '}' :: after =>
        let u := flags.unicode
        match String.ofList body with
        | "start" => .ok (some (.wordStart u, after))
        | "end" => .ok (some (.wordEnd u, after))
        | "start-half" => .ok (some (.wordStartHalf u, after))
        | "end-half" => .ok (some (.wordEndHalf u, after))
        | _ => .error .specialWordBoundary
      | _ => .error .specialWordBoundary

/-- Reads an escape after its backslash. -/
def parseEscape (flags : Flags) : List Char -> Except PatternError (Primitive × List Char)
  | [] => .error .escapeUnexpectedEnd
  | c :: rest =>
    if '0' <= c ∧ c <= '9' then .error .backreference
    else if c == 'x' then (readHexEscape flags 2 rest).map fun (ch, r) => (.literal ch, r)
    else if c == 'u' then (readHexEscape flags 4 rest).map fun (ch, r) => (.literal ch, r)
    else if c == 'U' then (readHexEscape flags 8 rest).map fun (ch, r) => (.literal ch, r)
    else if c == 'p' then (unicodeClass flags false rest).map fun (s, r) => (.set s, r)
    else if c == 'P' then (unicodeClass flags true rest).map fun (s, r) => (.set s, r)
    else if "dswDSW".toList.contains c then (perlClass flags c).map fun s => (.set s, rest)
    else if isEscapable c then .ok (.literal c, rest)
    else match c with
      | 'a' => .ok (.literal '\x07', rest)
      | 'f' => .ok (.literal '\x0c', rest)
      | 't' => .ok (.literal '\t', rest)
      | 'n' => .ok (.literal '\n', rest)
      | 'r' => .ok (.literal '\r', rest)
      | 'v' => .ok (.literal '\x0b', rest)
      | 'A' => .ok (.look .textStart, rest)
      | 'z' => .ok (.look .textEnd, rest)
      | 'B' => .ok (.look (.notWordBoundary flags.unicode), rest)
      | '<' => .ok (.look (.wordStart flags.unicode), rest)
      | '>' => .ok (.look (.wordEnd flags.unicode), rest)
      | 'b' =>
        let plain : Primitive × List Char := (.look (.wordBoundary flags.unicode), rest)
        match rest with
        | '{' :: afterBrace =>
          match specialBoundary flags afterBrace with
          | .ok (some (l, after)) => .ok (.look l, after)
          | .ok none => .ok plain
          | .error e => .error e
        | _ => .ok plain
      | _ => .error .escapeUnrecognized

/-! ## Classes in brackets -/

/-- The ASCII classes of `[[:name:]]`. -/
def asciiClass? (name : String) : Option CharSet :=
  let r := CharSet.ofRanges
  match name with
  | "alnum" => some (r [(0x30, 0x39), (0x41, 0x5A), (0x61, 0x7A)])
  | "alpha" => some (r [(0x41, 0x5A), (0x61, 0x7A)])
  | "ascii" => some (r [(0x0, 0x7F)])
  | "blank" => some (r [(0x9, 0x9), (0x20, 0x20)])
  | "cntrl" => some (r [(0x0, 0x1F), (0x7F, 0x7F)])
  | "digit" => some (r [(0x30, 0x39)])
  | "graph" => some (r [(0x21, 0x7E)])
  | "lower" => some (r [(0x61, 0x7A)])
  | "print" => some (r [(0x20, 0x7E)])
  | "punct" => some (r [(0x21, 0x2F), (0x3A, 0x40), (0x5B, 0x60), (0x7B, 0x7E)])
  | "space" => some (r [(0x9, 0xD), (0x20, 0x20)])
  | "upper" => some (r [(0x41, 0x5A)])
  | "word" => some (r [(0x30, 0x39), (0x41, 0x5A), (0x5F, 0x5F), (0x61, 0x7A)])
  | "xdigit" => some (r [(0x30, 0x39), (0x41, 0x46), (0x61, 0x66)])
  | _ => none

/-- Tries `[:name:]` or `[:^name:]` after a `[` inside a class. -/
def asciiClassAt (flags : Flags) (cs : List Char) : Option (CharSet × List Char) :=
  match cs with
  | ':' :: rest =>
    let (negated, rest) := match rest with
      | '^' :: r => (true, r)
      | _ => (false, rest)
    let name := rest.takeWhile (· != ':')
    match rest.drop name.length with
    | ':' :: ']' :: after =>
      (asciiClass? (String.ofList name)).map fun s =>
        let s := if flags.caseless then CharSet.caseless .pattern s else s
        (if negated then .compl s else s, after)
    | _ => none
  | _ => none

/-- A binary operation between class operands. -/
inductive SetOp where
  | inter
  | diff
  | symmDiff

/-- Applies a class operation; operands are closed under case folding first when asked. -/
def SetOp.apply (flags : Flags) (op : SetOp) (a b : CharSet) : CharSet :=
  let fold := fun s => if flags.caseless then CharSet.caseless .pattern s else s
  match op with
  | .inter => .inter (fold a) (fold b)
  | .diff => .diff (fold a) (fold b)
  | .symmDiff => .symmDiff (fold a) (fold b)

/-- One item of a class: an escape or a plain character. -/
def classItem (flags : Flags) : List Char -> Except PatternError (Primitive × List Char)
  | [] => .error .unclosedClass
  | '\\' :: rest => parseEscape flags rest
  | c :: rest => .ok (.literal c, rest)

/-- The set an item stands for; an assertion cannot stand in a class. -/
def Primitive.toSet : Primitive -> Except PatternError CharSet
  | .literal c => .ok (.single c)
  | .set s => .ok s
  | .look _ => .error .classEscapeInvalid

/-- Reads an item or a range `a-z`. -/
def classRange (flags : Flags) (cs : List Char) : Except PatternError (CharSet × List Char) := do
  let (first, rest) <- classItem flags cs
  let rest := space flags rest
  match rest with
  | [] => throw .unclosedClass
  | '-' :: afterDash =>
    match space flags afterDash with
    | ']' :: _ => pure (<- first.toSet, rest)
    | '-' :: _ => pure (<- first.toSet, rest)
    | [] => throw .unclosedClass
    | r2 =>
      let (second, after) <- classItem flags r2
      match first, second with
      | .literal a, .literal b =>
        if a.toNat <= b.toNat then pure (.range a.toNat b.toNat, after) else throw .invalidClassRange
      | _, _ => throw .classRangeNotLiteral
  | _ => pure (<- first.toSet, rest)

/-- Leading `-` characters and a first `]` stand for themselves. -/
def classLeading (flags : Flags) : Nat -> List Char -> List CharSet -> Except PatternError (List CharSet × List Char)
  | 0, _, _ => .error .tooComplex
  | fuel + 1, cs, acc =>
    match cs with
    | '-' :: rest =>
      match space flags rest with
      | [] => .error .unclosedClass
      | r => classLeading flags fuel r (.single '-' :: acc)
    | ']' :: rest =>
      if acc.isEmpty then
        match space flags rest with
        | [] => .error .unclosedClass
        | r => .ok ([.single ']'], r)
      else .ok (acc, cs)
    | _ => .ok (acc, cs)

/-- Finishes a class: union of the items, the pending operation, case folding, complement. -/
def finishClass (flags : Flags) (negated : Bool) (pending : Option (CharSet × SetOp × Nat))
    (items : List CharSet) : Except PatternError CharSet :=
  let cur := CharSet.unionAll items.reverse
  let whole := match pending with
    | some (lhs, op, _) => op.apply flags lhs cur
    | none => cur
  let whole := if flags.caseless then CharSet.caseless .pattern whole else whole
  if negated then
    if flags.unicode then .ok (.compl whole) else .error .invalidUtf8
  else .ok whole

/-- How deep a list of items nests: a union of two or more items is one level more than its
deepest item, a single item is itself. -/
def unionDepth (count deepest : Nat) : Nat :=
  if count >= 2 then deepest + 1 else deepest

/-- How deep the contents of a class nest: an operation is one level more than its deeper
operand. -/
def operandDepth (pending : Option (CharSet × SetOp × Nat)) (count deepest : Nat) : Nat :=
  match pending with
  | some (_, _, lhs) => Nat.max lhs (unionDepth count deepest) + 1
  | none => unionDepth count deepest

mutual
/-- Reads a bracketed class after its `[`; returns the set, how deep the class nests (itself
included) and the text after its `]`. -/
def parseBracket (flags : Flags) : Nat -> List Char -> Except PatternError (CharSet × Nat × List Char)
  | 0, _ => .error .tooComplex
  | fuel + 1, cs => do
    let cs := space flags cs
    let (negated, cs) <- match cs with
      | '^' :: r => match space flags r with
        | [] => throw .unclosedClass
        | r' => pure (true, r')
      | [] => throw .unclosedClass
      | _ => pure (false, cs)
    let (items, cs) <- classLeading flags (cs.length + 1) cs []
    classBody flags negated fuel none items 0 cs

/-- Reads class items up to the closing `]`; `deepest` is the depth of the deepest item read
since the last operation. -/
def classBody (flags : Flags) (negated : Bool) : Nat -> Option (CharSet × SetOp × Nat) ->
    List CharSet -> Nat -> List Char -> Except PatternError (CharSet × Nat × List Char)
  | 0, _, _, _, _ => .error .tooComplex
  | fuel + 1, pending, items, deepest, cs =>
    match space flags cs with
    | [] => .error .unclosedClass
    | ']' :: rest => do
      let s <- finishClass flags negated pending items
      pure (s, operandDepth pending items.length deepest + 1, rest)
    | '[' :: rest =>
      match asciiClassAt flags rest with
      | some (s, after) => classBody flags negated fuel pending (s :: items) deepest after
      | none => do
        let (s, d, after) <- parseBracket flags fuel rest
        classBody flags negated fuel pending (s :: items) (Nat.max deepest d) after
    | '&' :: '&' :: rest => classBody flags negated fuel (some (operation pending items deepest .inter)) [] 0 rest
    | '-' :: '-' :: rest => classBody flags negated fuel (some (operation pending items deepest .diff)) [] 0 rest
    | '~' :: '~' :: rest => classBody flags negated fuel (some (operation pending items deepest .symmDiff)) [] 0 rest
    | cs' => do
      let (s, after) <- classRange flags cs'
      classBody flags negated fuel pending (s :: items) deepest after
where
  /-- The left operand of the next operation, with how deep it nests. -/
  operation (pending : Option (CharSet × SetOp × Nat)) (items : List CharSet) (deepest : Nat)
      (op : SetOp) : CharSet × SetOp × Nat :=
    let cur := CharSet.unionAll items.reverse
    let lhs := match pending with
      | some (lhs, prev, _) => prev.apply flags lhs cur
      | none => cur
    (lhs, op, operandDepth pending items.length deepest)
end

/-! ## The reader -/

/-- An open group, with what the enclosing group had read before it. -/
structure Frame where
  capture : Option Nat
  outer : Flags
  branches : List Node
  items : List Node
  branchDepths : List Nat
  depths : List Nat

/-- The reader's state. -/
structure Reading where
  flags : Flags := {}
  branches : List Node := []
  items : List Node := []
  /-- The last thing read was a flag group such as `(?i)`. -/
  afterFlags : Bool := false
  frames : List Frame := []
  captures : Nat := 0
  names : List (String × Nat) := []
  /-- How deep each finished branch of the current group nests. -/
  branchDepths : List Nat := []
  /-- How deep each item of the current branch nests, flag groups included, newest first. -/
  depths : List Nat := []

/-- How deep a sequence of items nests: two or more items are one level more than the deepest. -/
def sequenceDepth (ds : List Nat) : Nat :=
  match ds with
  | [] => 0
  | [d] => d
  | _ => ds.foldl Nat.max 0 + 1

/-- How deep the branches of a group nest, the current one last. -/
def Reading.bodyDepth (st : Reading) : Nat :=
  match st.branchDepths with
  | [] => sequenceDepth st.depths
  | ds => (ds.foldl Nat.max (sequenceDepth st.depths)) + 1

/-- One branch as a node. -/
def branchNode (items : List Node) : Node :=
  match items with
  | [] => .empty
  | [n] => n
  | _ => .concat items.reverse

/-- The branches of a group as a node. -/
def groupBody (st : Reading) : Node :=
  match st.branches with
  | [] => branchNode st.items
  | bs => .alt (bs.reverse ++ [branchNode st.items])

/-- Adds an item that nests `d` levels deep to the current branch. -/
def Reading.pushNested (st : Reading) (n : Node) (d : Nat) : Reading :=
  { st with items := n :: st.items, depths := d :: st.depths, afterFlags := false }

/-- Adds an item to the current branch. -/
def Reading.push (st : Reading) (n : Node) : Reading := st.pushNested n 0

/-- Applies a repetition to the last item. -/
def Reading.repeat (st : Reading) (min : Nat) (max : Option Nat) (lazy : Bool) :
    Except PatternError Reading :=
  match st.items with
  | [] => .error .repetitionMissing
  | last :: before =>
    if st.afterFlags then .error .repetitionMissing
    else
      let greedy := if st.flags.swapGreed then lazy else !lazy
      .ok { st with items := .rep last min max greedy :: before,
                    depths := match st.depths with
                      | d :: ds => (d + 1) :: ds
                      | [] => [] }

/-- Drops leading white space, which a repetition's counts may have around them whatever the
flags. -/
def dropBlanks : List Char -> List Char
  | c :: rest => if isBlank c then dropBlanks rest else c :: rest
  | [] => []

/-- Reads decimal digits into `acc`; `seen` counts them. -/
def readDecimal (flags : Flags) : Nat -> List Char -> Nat -> Nat -> Nat × Nat × List Char
  | 0, cs, seen, acc => (seen, acc, cs)
  | fuel + 1, c :: rest, seen, acc =>
    if '0' ≤ c ∧ c ≤ '9' then
      readDecimal flags fuel (space flags rest) (seen + 1) (10 * acc + (c.toNat - '0'.toNat))
    else (seen, acc, c :: rest)
  | _ + 1, [], seen, acc => (seen, acc, [])

/-- A decimal count of a repetition, at most 2^32 - 1, with white space around it; `none` when
there are no digits. -/
def repetitionCount (flags : Flags) (cs : List Char) :
    Except PatternError (Option Nat × List Char) :=
  let cs := dropBlanks cs
  let (seen, n, rest) := readDecimal flags cs.length cs 0 0
  let rest := dropBlanks rest
  if seen == 0 then .ok (none, rest)
  else if n >= Nat.pow 2 32 then .error .repetitionCountDecimal
  else .ok (some n, rest)

/-- Reads `{n}`, `{n,}` or `{n,m}` after the `{`. -/
def countedRepetition (flags : Flags) (cs : List Char) :
    Except PatternError ((Nat × Option Nat) × List Char) := do
  let cs := space flags cs
  if cs.isEmpty then throw .repetitionCountUnclosed
  let (lo?, rest) <- repetitionCount flags cs
  let need (n? : Option Nat) : Except PatternError Nat := match n? with
    | some n => pure n
    | none => throw .repetitionCountDecimal
  match rest with
  | [] => throw .repetitionCountUnclosed
  | ',' :: r =>
    match space flags r with
    | [] => throw .repetitionCountUnclosed
    | '}' :: after => pure ((<- need lo?, none), after)
    | r' =>
      let lo <- need lo?
      let (hi?, rest') <- repetitionCount flags r'
      let hi <- need hi?
      match rest' with
      | '}' :: after => if lo <= hi then pure ((lo, some hi), after) else throw .repetitionCountInvalid
      | _ => throw .repetitionCountUnclosed
  | '}' :: after => pure ((<- need lo?, some (<- need lo?)), after)
  | _ => do let _ <- need lo?; throw .repetitionCountUnclosed

/-- Applies the flag letters of `(?…)`; returns the new flags, the terminator and the rest. -/
def readFlags (base : Flags) : List Char -> Bool -> Bool -> List Char -> Except PatternError (Flags × Char × List Char)
  | [], _, _, _ => .error .flagUnexpectedEnd
  | c :: rest, negating, lastWasNegation, seen =>
    if c == ':' || c == ')' then
      if lastWasNegation then .error .flagDanglingNegation
      else if c == ')' && seen.isEmpty && !negating then .error .repetitionMissing
      else .ok (base, c, rest)
    else if c == '-' then
      if negating then .error .flagRepeatedNegation
      else readFlags base rest true true seen
    else if seen.contains c then .error .flagDuplicate
    else
      let v := !negating
      let set : Option Flags := match c with
        | 'i' => some { base with caseless := v }
        | 'm' => some { base with multiLine := v }
        | 's' => some { base with dotAll := v }
        | 'U' => some { base with swapGreed := v }
        | 'u' => some { base with unicode := v }
        | 'x' => some { base with verbose := v }
        | 'R' => some { base with crlf := v }
        | _ => none
      match set with
      | some f => readFlags f rest negating false (c :: seen)
      | none => .error .flagUnrecognized

/-- Characters allowed in a group name (`first`: in first place). -/
def isNameChar (first : Bool) (c : Char) : Bool :=
  if first then c == '_' || isAlphabetic c
  else c == '_' || c == '.' || c == '[' || c == ']' || isAlphabetic c || isNumeric c
where
  isAlphabetic (c : Char) : Bool := ((propertyByName "Alphabetic").map (·.contains c)).getD false
  isNumeric (c : Char) : Bool := ((categoryByName "N").map (·.contains c)).getD false

/-- Reads a group name up to `>`. -/
def groupName (cs : List Char) : Except PatternError (String × List Char) :=
  let name := cs.takeWhile (· != '>')
  match cs.drop name.length with
  | '>' :: after =>
    match name with
    | [] => .error .groupNameEmpty
    | c :: more =>
      if isNameChar true c && more.all (isNameChar false) then .ok (String.ofList name, after)
      else .error .groupNameInvalid
  | _ => .error .groupNameUnexpectedEnd

/-- Opens a group whose body is read with `inner` flags. -/
def Reading.openGroup (st : Reading) (capture : Option Nat) (inner : Flags) : Reading :=
  { st with
    frames := ⟨capture, st.flags, st.branches, st.items, st.branchDepths, st.depths⟩ :: st.frames,
    flags := inner, branches := [], items := [], branchDepths := [], depths := [],
    afterFlags := false }

/-- Records a new capture group and its name. -/
def Reading.addCapture (st : Reading) (index : Nat) (name : Option String) : Reading :=
  { st with captures := index, names := match name with
    | some n => st.names ++ [(n, index)]
    | none => st.names }

/-- Opens a capture group. -/
def Reading.openCapture (st : Reading) (name : Option String) : Except PatternError Reading :=
  let index := st.captures + 1
  match name with
  | some n =>
    if st.names.any (·.1 == n) then .error .groupNameDuplicate
    else .ok ((st.openGroup (some index) st.flags).addCapture index (some n))
  | none => .ok ((st.openGroup (some index) st.flags).addCapture index none)

/-- Closes the innermost group at `)`. -/
def Reading.closeGroup (st : Reading) : Except PatternError Reading :=
  match st.frames with
  | [] => .error .unopenedGroup
  | f :: rest =>
    let node := Node.group f.capture (groupBody st)
    .ok { st with frames := rest, flags := f.outer, branches := f.branches,
                  items := node :: f.items, branchDepths := f.branchDepths,
                  depths := (st.bodyDepth + 1) :: f.depths, afterFlags := false }

/-- A literal character, folded when the `i` flag is on. -/
def literalNode (flags : Flags) (c : Char) : Node :=
  .char (if flags.caseless then .caseless .pattern (.single c) else .single c)

/-- The dot. -/
def dotNode (flags : Flags) : Except PatternError Node :=
  if !flags.unicode then .error .invalidUtf8
  else if flags.dotAll then .ok (.char CharSet.all)
  else if flags.crlf then .ok (.char (.compl (.ofRanges [(0xA, 0xA), (0xD, 0xD)])))
  else .ok (.char (.compl (.single '\n')))

/-- Reads a group opener after `(`. -/
def Reading.openParen (st : Reading) (cs : List Char) : Except PatternError (Reading × List Char) :=
  match space st.flags cs with
  | '?' :: rest =>
    match rest with
    | 'P' :: '<' :: r => do
      let (n, after) <- groupName r
      pure (<- st.openCapture (some n), after)
    | 'P' :: _ => .error .groupNameUnexpectedEnd
    | '<' :: '=' :: _ => .error .lookAround
    | '<' :: '!' :: _ => .error .lookAround
    | '<' :: r => do
      let (n, after) <- groupName r
      pure (<- st.openCapture (some n), after)
    | '=' :: _ => .error .lookAround
    | '!' :: _ => .error .lookAround
    | _ => do
      let (flags, stop, after) <- readFlags st.flags rest false false []
      if stop == ')' then pure ({ st with flags := flags, depths := 0 :: st.depths, afterFlags := true }, after)
      else pure (st.openGroup none flags, after)
  | cs' => do
    pure (<- st.openCapture none, cs')

/-- Reads the whole pattern. -/
def readLoop : Nat -> Reading -> List Char -> Except PatternError Reading
  | 0, _, _ => .error .tooComplex
  | fuel + 1, st, cs =>
    match space st.flags cs with
    | [] => .ok st
    | c :: rest =>
      match c with
      | '(' => do
        let (st', after) <- st.openParen rest
        readLoop fuel st' after
      | ')' => do readLoop fuel (<- st.closeGroup) rest
      | '|' =>
        readLoop fuel { st with branches := branchNode st.items :: st.branches, items := [],
                                branchDepths := sequenceDepth st.depths :: st.branchDepths, depths := [],
                                afterFlags := false } rest
      | '*' | '+' | '?' =>
        let (lazy, after) := match rest with
          | '?' :: r => (true, r)
          | _ => (false, rest)
        let (lo, hi) : Nat × Option Nat := match c with
          | '*' => (0, none)
          | '+' => (1, none)
          | _ => (0, some 1)
        do readLoop fuel (<- st.repeat lo hi lazy) after
      | '{' => do
        if st.items.isEmpty || st.afterFlags then throw .repetitionMissing
        let ((lo, hi), after) <- countedRepetition st.flags rest
        let (lazy, after) := match space st.flags after with
          | '?' :: r => (true, r)
          | _ => (false, after)
        readLoop fuel (<- st.repeat lo hi lazy) after
      | '[' => do
        let (s, d, after) <- parseBracket st.flags (rest.length + 1) rest
        readLoop fuel (st.pushNested (.char s) d) after
      | '\\' => do
        let (p, after) <- parseEscape st.flags rest
        let node := match p with
          | .literal ch => literalNode st.flags ch
          | .set s => .char s
          | .look l => .look l
        readLoop fuel (st.push node) after
      | '.' => do readLoop fuel (st.push (<- dotNode st.flags)) rest
      | '^' =>
        let l := if st.flags.multiLine then (if st.flags.crlf then Look.lineStartCRLF else .lineStart) else .textStart
        readLoop fuel (st.push (.look l)) rest
      | '$' =>
        let l := if st.flags.multiLine then (if st.flags.crlf then Look.lineEndCRLF else .lineEnd) else .textEnd
        readLoop fuel (st.push (.look l)) rest
      | _ => readLoop fuel (st.push (literalNode st.flags c)) rest

/-- A read pattern: its tree (whole match as group 0), group count and group names. -/
structure Parsed where
  root : Node
  groups : Nat
  names : List (String × Nat)

/-- How deep groups, repetitions, sequences, alternations and classes may nest. -/
def nestLimit : Nat := 250

/-- Reads a pattern. -/
def parse (src : String) : Except PatternError Parsed := do
  let cs := src.toList
  let st <- readLoop (cs.length + 1) {} cs
  unless st.frames.isEmpty do throw .unclosedGroup
  if st.bodyDepth > nestLimit then throw .nestedTooDeep
  pure ⟨.group (some 0) (groupBody st), st.captures + 1, st.names⟩

end TranscriptTest.Pattern
