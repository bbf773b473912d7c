import TranscriptTest.Pattern.Parser
import TranscriptTest.Js.Regex.Match

/-!
# The stream editor

`sed` runs a script on each line of its input and writes what the script leaves. A script is
a list of commands, separated by `;` or line feeds, each with up to two addresses and `!` to
turn them around. An address is a line number, `first~step`, `$` for the last line, or a
pattern between slashes (or between any characters, after a backslash); two addresses make a
range, whose end may also be `+n` lines on or the next multiple `~n`, and `0,/re/` is a range
open before the first line.
-/

namespace TranscriptTest.Shell.Sed

open TranscriptTest.Pattern hiding Node
open TranscriptTest.Js.Regex

/-! ## Patterns -/

/-- How a pattern is read: basic or extended syntax, whether case is ignored, and whether `^`
and `$` also match around the line feeds of the pattern space. -/
structure Dialect where
  extended : Bool := false
  caseless : Bool := false
  multiline : Bool := false
  deriving Inhabited

/-- A character set, closed under case when case is ignored. -/
def Dialect.set (d : Dialect) (s : CharSet) : CharSet :=
  if d.caseless then .caseless .pattern s else s

/-- A node matching one character. -/
def Dialect.literal (d : Dialect) (c : Char) : Node :=
  .char (d.set (CharSet.single c))

/-- `^`: the start of the pattern space, or of a line in it in multiline mode. -/
def Dialect.lineStart (d : Dialect) : Node :=
  if d.multiline then .look true true (.char (.compl (CharSet.single '\n'))) else .lineStart

/-- `$`: the end of the pattern space, or of a line in it in multiline mode. -/
def Dialect.lineEnd (d : Dialect) : Node :=
  if d.multiline then .look false true (.char (.compl (CharSet.single '\n'))) else .lineEnd

/-- The word characters of `\w`, `\b`, `\<` and `\>`. -/
def wordChars : CharSet := (asciiClass? "word").getD CharSet.empty

/-- The blanks of `\s`. -/
def spaceChars : CharSet := (asciiClass? "space").getD CharSet.empty

/-- The character of a one-letter escape: `\a`, `\f`, `\n`, `\r`, `\t` and `\v`. -/
def controlEscape? : Char -> Option Char
  | 'a' => some '\x07'
  | 'f' => some '\x0c'
  | 'n' => some '\n'
  | 'r' => some '\r'
  | 't' => some '\t'
  | 'v' => some '\x0b'
  | _ => none

/-- The value of a digit in a base, if it is one. -/
def digitIn (base : Nat) (c : Char) : Option Nat :=
  let v := if c.isDigit then some (c.toNat - 48)
    else if 'a' <= c && c <= 'f' then some (c.toNat - 87)
    else if 'A' <= c && c <= 'F' then some (c.toNat - 55)
    else none
  v.filter (· < base)

/-- Reads up to `count` digits of a base: the value and what follows, or nothing without a
digit. -/
def readDigits (base count : Nat) (cs : List Char) : Option (Nat × List Char) :=
  let ds := (cs.take count).takeWhile fun c => (digitIn base c).isSome
  if ds.isEmpty then none
  else some (ds.foldl (fun v c => v * base + (digitIn base c).getD 0) 0, cs.drop ds.length)

/-- The numeric escapes: `\dNNN` (decimal), `\oNNN` (octal), `\xHH` (hexadecimal) and `\cX`,
the control character of `X` (its upper case with bit 6 flipped). -/
def numericEscape : List Char -> Option (Char × List Char)
  | 'd' :: rest => (readDigits 10 3 rest).map fun (v, r) => (Char.ofNat (v % 256), r)
  | 'o' :: rest => (readDigits 8 3 rest).map fun (v, r) => (Char.ofNat (v % 256), r)
  | 'x' :: rest => (readDigits 16 2 rest).map fun (v, r) => (Char.ofNat v, r)
  | 'c' :: x :: rest => some (Char.ofNat (x.toUpper.toNat ^^^ 0x40), rest)
  | _ => none

/-- A bracket expression after its `[`: the members up to the closing `]`, which is a member
when it comes first. -/
def bracketItems : Nat -> Bool -> List Char -> List CharSet -> Option (List CharSet × List Char)
  | 0, _, _, _ => none
  | _ + 1, _, [], _ => none
  | fuel + 1, first, c :: rest, acc =>
    match c, rest with
    | ']', _ =>
      if first then bracketItems fuel false rest (CharSet.single ']' :: acc) else some (acc, rest)
    | '[', ':' :: more =>
      let name := more.takeWhile (· != ':')
      match more.drop name.length, asciiClass? (String.ofList name) with
      | ':' :: ']' :: after, some s => bracketItems fuel false after (s :: acc)
      | _, _ => none
    | '[', '=' :: e :: '=' :: ']' :: after => bracketItems fuel false after (CharSet.single e :: acc)
    | '[', '.' :: e :: '.' :: ']' :: after => bracketItems fuel false after (CharSet.single e :: acc)
    | '\\', 'n' :: after => bracketItems fuel false after (CharSet.single '\n' :: acc)
    | '\\', 't' :: after => bracketItems fuel false after (CharSet.single '\t' :: acc)
    | _, '-' :: d :: after =>
      if d == ']' then bracketItems fuel false rest (CharSet.single c :: acc)
      else if c.toNat <= d.toNat then bracketItems fuel false after (CharSet.range c.toNat d.toNat :: acc)
      else none
    | _, _ => bracketItems fuel false rest (CharSet.single c :: acc)

/-- Reads a bracket expression after its `[`. -/
def readBracket (d : Dialect) (cs : List Char) : Option (Node × List Char) :=
  let (negated, cs) := match cs with
    | '^' :: rest => (true, rest)
    | _ => (false, cs)
  (bracketItems (cs.length + 1) true cs []).map fun (items, rest) =>
    let s := d.set (CharSet.unionAll items.reverse)
    (.char (if negated then .compl s else s), rest)

/-- The bounds of an interval `{m}`, `{m,}`, `{,n}` or `{m,n}` up to its closing brace (written
`\}` in basic syntax). -/
def readInterval (d : Dialect) (cs : List Char) : Option (Nat × Option Nat × List Char) :=
  let number (cs : List Char) : Option Nat × List Char :=
    let ds := cs.takeWhile Char.isDigit
    (if ds.isEmpty then none else some (String.ofList ds).toNat!, cs.drop ds.length)
  let close (cs : List Char) : Option (List Char) :=
    if d.extended then (match cs with | '}' :: r => some r | _ => none)
    else (match cs with | '\\' :: '}' :: r => some r | _ => none)
  let (lo, cs) := number cs
  match cs with
  | ',' :: more =>
    let (hi, more) := number more
    (close more).bind fun rest =>
      let lo := lo.getD 0
      match hi with
      | some h => if lo <= h then some (lo, some h, rest) else none
      | none => some (lo, none, rest)
  | _ => lo.bind fun l => (close cs).map fun rest => (l, some l, rest)

/-- Why a script cannot be read. -/
inductive SedError where
  | unterminated (command : Char)
  | unknownCommand (c : Char)
  | badPattern
  | unsupported
  | extraCharacters
  | noScript
  | missingLabel (name : String)
  | unmatchedBrace
  deriving Inhabited, BEq

/-- Whether a `$` in basic syntax ends the pattern: at its end, or before the close of a group or
an alternation bar. -/
def endsPattern : List Char -> Bool
  | [] => true
  | '\\' :: ')' :: _ => true
  | '\\' :: '|' :: _ => true
  | _ => false

/-- Reads a pattern, one item at a time. -/
def readItems (d : Dialect) : Nat -> List Char -> Nat -> List Node -> List (Node × Nat) -> Bool ->
    Except SedError (Node × List Char × Nat)
  | 0, _, _, _, _, _ => throw .badPattern
  | fuel + 1, cs, groups, branches, current, atStart =>
    let sequence (items : List (Node × Nat)) : Node := .concat (items.reverse.map (·.1))
    let finish (rest : List Char) : Node × List Char × Nat :=
      let all := (sequence current :: branches).reverse
      (match all with
        | [one] => one
        | _ => .alt all, rest, groups)
    let push (n : Node) (rest : List Char) :=
      readItems d fuel rest groups branches ((n, groups) :: current) false
    let repeatLast (lo : Nat) (hi : Option Nat) (rest : List Char) (last : Node) (before : Nat)
        (older : List (Node × Nat)) :=
      readItems d fuel rest groups branches
        ((.rep last lo hi true (before + 1) (groups - before), before) :: older) false
    let repeated (lo : Nat) (hi : Option Nat) (rest : List Char) (literal : Char) :=
      match current, atStart with
      | (last, before) :: older, false => repeatLast lo hi rest last before older
      | _, _ => push (d.literal literal) rest
    let openGroup (rest : List Char) : Except SedError (Node × List Char × Nat) := do
      let index := groups + 1
      let (inner, after, groups') <- readItems d fuel rest index [] [] true
      let closed := if d.extended then (match after with | ')' :: r => some r | _ => none)
        else (match after with | '\\' :: ')' :: r => some r | _ => none)
      match closed with
      | some r => readItems d fuel r groups' branches ((.group (some index) inner, groups) :: current) false
      | none => throw .badPattern
    let bar (rest : List Char) :=
      readItems d fuel rest groups (sequence current :: branches) [] true
    let interval (rest : List Char) (orElse : Except SedError (Node × List Char × Nat)) :=
      match readInterval d rest, current with
      | some (lo, hi, after), (last, before) :: older => repeatLast lo hi after last before older
      | _, _ => orElse
    match cs, d.extended with
    | [], _ => pure (finish [])
    | '\\' :: ')' :: _, false => pure (finish cs)
    | ')' :: _, true => pure (finish cs)
    | '\\' :: '(' :: rest, false => openGroup rest
    | '(' :: rest, true => openGroup rest
    | '\\' :: '|' :: rest, false => bar rest
    | '|' :: rest, true => bar rest
    | '*' :: rest, _ => repeated 0 none rest '*'
    | '\\' :: '+' :: rest, false => repeated 1 none rest '+'
    | '+' :: rest, true => repeated 1 none rest '+'
    | '\\' :: '?' :: rest, false => repeated 0 (some 1) rest '?'
    | '?' :: rest, true => repeated 0 (some 1) rest '?'
    | '\\' :: '{' :: rest, false => interval rest (throw .badPattern)
    | '{' :: rest, true => interval rest (push (d.literal '{') rest)
    | '^' :: rest, ext =>
      if ext || atStart then readItems d fuel rest groups branches ((d.lineStart, groups) :: current) true
      else push (d.literal '^') rest
    | '$' :: rest, ext =>
      if ext || endsPattern rest then push d.lineEnd rest else push (d.literal '$') rest
    | '.' :: rest, _ => push (.char CharSet.all) rest
    | '[' :: rest, _ =>
      match readBracket d rest with
      | some (n, after) => push n after
      | none => throw .badPattern
    | '\\' :: c :: rest, _ =>
      match c with
      | 'w' => push (.char wordChars) rest
      | 'W' => push (.char (.compl wordChars)) rest
      | 's' => push (.char spaceChars) rest
      | 'S' => push (.char (.compl spaceChars)) rest
      | 'b' => push (.boundary false) rest
      | 'B' => push (.boundary true) rest
      | '<' => push (.concat [.look true true (.char wordChars), .look false false (.char wordChars)]) rest
      | '>' => push (.concat [.look true false (.char wordChars), .look false true (.char wordChars)]) rest
      | _ =>
        if c == '\x60' then push (.look true true (.char CharSet.all)) rest
        else if c == '\'' then push (.look false true (.char CharSet.all)) rest
        else if '1' ≤ c && c ≤ '9' then
          let n := c.toNat - 48
          if n <= groups then push (.backref n) rest else throw .badPattern
        else match controlEscape? c, numericEscape (c :: rest) with
          | some e, _ => push (d.literal e) rest
          | none, some (e, after) => push (d.literal e) after
          | none, none => push (d.literal c) rest
    | ['\\'], _ => throw .badPattern
    | c :: rest, _ => push (d.literal c) rest

/-- The number of places where a pattern offers a choice (alternatives and repetitions). -/
def choices : Nat -> Node -> Nat
  | 0, _ => 0
  | fuel + 1, n =>
    match n with
    | .group _ body => choices fuel body
    | .concat parts => (parts.map (choices fuel)).sum
    | .alt branches => 2 + (branches.map (choices fuel)).sum
    | .rep body _ _ _ _ _ => 1 + choices fuel body
    | .look _ _ body => choices fuel body
    | _ => 0

/-- A compiled pattern, and whether the first match the matcher finds at a place may be shorter
than the longest one there. -/
structure Matcher where
  program : Js.Regex.Program
  ambiguous : Bool
  deriving Inhabited

/-- Compiles a pattern of a script. -/
def compilePattern (d : Dialect) (src : String) : Except SedError Matcher := do
  let cs := src.toList
  let (root, rest, groups) <- readItems d (4 * cs.length + 4) cs 0 [] [] true
  unless rest.isEmpty do throw .badPattern
  pure ⟨{ node := root, groups, names := [], flags := { ignoreCase := d.caseless } },
    choices (cs.length + 1) root >= 2⟩

/-- The spans of a match, group 0 being the whole match. -/
abbrev Spans := Array (Option (Nat × Nat))

/-- A match at `start` that ends exactly at `stop`. -/
def Matcher.matchEnding (m : Matcher) (text : Array Char) (start stop : Nat) : Option Spans :=
  let s : Subject := { text, flags := m.program.flags }
  let init : MatchState := { pos := start, caps := Array.replicate (m.program.groups + 1) none }
  let found := matchNode (matchFuel text.size) s false m.program.node init fun st =>
    if st.pos == stop then some st else none
  found.map fun st => st.caps.set! 0 (some (start, st.pos))

/-- Where a match ends. -/
def spansStop (caps : Spans) (start : Nat) : Nat :=
  match caps[0]? with
  | some (some (_, e)) => e
  | _ => start

/-- The longest match at a place: the matcher's first match, or a longer one when the pattern
has choices, tried from the longest end down. -/
def Matcher.longestAt (m : Matcher) (text : Array Char) (start : Nat) : Option Spans :=
  match m.program.matchAt text start with
  | none => none
  | some caps =>
    if !m.ambiguous then some caps
    else
      let e := spansStop caps start
      let longer := (List.range (text.size - e)).map (text.size - ·)
      match longer.findSome? (m.matchEnding text start) with
      | some c => some c
      | none => some caps

/-- The leftmost match at or after a place. -/
def Matcher.searchFrom (m : Matcher) (text : Array Char) (start : Nat) : Option Spans :=
  ((List.range (text.size + 1 - start)).map (· + start)).findSome? (m.longestAt text)

/-- Whether a pattern matches somewhere in a text. -/
def Matcher.isMatch (m : Matcher) (text : String) : Bool :=
  (m.program.search text.toList.toArray 0 false).isSome

/-- The matches from a place on, left to right; an empty match where the last one ended is
passed over. -/
def Matcher.findAll (m : Matcher) (text : Array Char) : Nat -> Nat -> Option Nat -> List Spans -> List Spans
  | 0, _, _, acc => acc.reverse
  | fuel + 1, pos, lastEnd, acc =>
    if pos > text.size then acc.reverse
    else match m.searchFrom text pos with
      | none => acc.reverse
      | some caps =>
        let (a, b) := (caps[0]?.bind id).getD (pos, pos)
        if a == b && lastEnd == some a then m.findAll text fuel (a + 1) none acc
        else m.findAll text fuel b (some b) (caps :: acc)

/-! ## Scripts -/

/-- A change of case in a replacement: `\U` and `\L` for what follows until `\E`, `\u` and `\l`
for the next character only. -/
inductive CaseChange where
  | upper
  | lower
  | upperNext
  | lowerNext
  | stop
  deriving Inhabited, BEq

/-- A piece of a replacement. -/
inductive Part where
  | text (c : Char)
  /-- The text of a group; group zero is the whole match. -/
  | group (n : Nat)
  | caseChange (c : CaseChange)
  deriving Inhabited

/-- Reads a replacement: `&` the match, `\0` to `\9` the groups, `\U`, `\L`, `\u`, `\l`, `\E`
change case, character escapes, and a backslash before anything else quotes it. -/
def readReplacement : Nat -> List Char -> List Part
  | 0, _ => []
  | _ + 1, [] => []
  | fuel + 1, '&' :: rest => .group 0 :: readReplacement fuel rest
  | fuel + 1, '\\' :: c :: rest =>
    if c.isDigit then .group (c.toNat - 48) :: readReplacement fuel rest
    else match c with
      | 'U' => .caseChange .upper :: readReplacement fuel rest
      | 'L' => .caseChange .lower :: readReplacement fuel rest
      | 'u' => .caseChange .upperNext :: readReplacement fuel rest
      | 'l' => .caseChange .lowerNext :: readReplacement fuel rest
      | 'E' => .caseChange .stop :: readReplacement fuel rest
      | _ =>
        match controlEscape? c, numericEscape (c :: rest) with
        | some e, _ => .text e :: readReplacement fuel rest
        | none, some (e, after) => .text e :: readReplacement fuel after
        | none, none => .text c :: readReplacement fuel rest
  | fuel + 1, c :: rest => .text c :: readReplacement fuel rest

/-- Changes the case of a character: to upper case for `some true`, to lower for `some false`. -/
def changeCase : Option Bool -> Char -> Char
  | some true, c => c.toUpper
  | some false, c => c.toLower
  | none, c => c

/-- Writes a replacement for a match, given the text of each group: `mode` is the case of what
follows and `once` the case of the next character only. -/
def expandParts (piece : Nat -> List Char) : List Part -> Option Bool -> Option Bool -> List Char -> List Char
  | [], _, _, acc => acc.reverse
  | p :: rest, mode, once, acc =>
    let emit (cs : List Char) : List Char × Option Bool :=
      match cs, once with
      | c :: more, some _ => (changeCase once c :: more.map (changeCase mode), none)
      | _, _ => (cs.map (changeCase mode), once)
    match p with
    | .text c =>
      let (cs, once) := emit [c]
      expandParts piece rest mode once (cs.reverse ++ acc)
    | .group n =>
      let (cs, once) := emit (piece n)
      expandParts piece rest mode once (cs.reverse ++ acc)
    | .caseChange .upper => expandParts piece rest (some true) once acc
    | .caseChange .lower => expandParts piece rest (some false) once acc
    | .caseChange .upperNext => expandParts piece rest mode (some true) acc
    | .caseChange .lowerNext => expandParts piece rest mode (some false) acc
    | .caseChange .stop => expandParts piece rest none none acc

/-- A single address. -/
inductive Address where
  | line (n : Nat)
  | last
  /-- A pattern; none stands for the last pattern used. -/
  | matching (m : Option Matcher)
  /-- `first~step`: the lines from `first` on, every `step` lines. -/
  | every (first step : Nat)

/-- The end of a range. -/
inductive RangeEnd where
  | address (a : Address)
  /-- `+n`: n lines after the first. -/
  | count (n : Nat)
  /-- `~n`: up to the next line whose number is a multiple of n. -/
  | multiple (n : Nat)

/-- The lines a command applies to. -/
inductive Selector where
  | always
  | one (a : Address)
  /-- From a line the first address takes to one the end takes; without a first address (`0,/re/`)
the range is open before the first line, which the end may close. -/
  | range (first : Option Address) (stop : RangeEnd)

/-- How a jump decides: always (`b`), after a substitution (`t`), or when there was none (`T`). -/
inductive Jump where
  | always
  | ifReplaced
  | unlessReplaced
  deriving Inhabited, BEq

/-- A command of a script. -/
inductive Command where
  /-- `s`: the pattern (none for the last one used), the replacement, every match or only the
  n-th, and how many times to print the result. -/
  | substitute (m : Option Matcher) (replacement : List Part) (global : Bool) (nth : Nat) (print : Nat)
  | transliterate (pairs : List (Char × Char))
  /-- `p`, or `P` for the first line only. -/
  | print (firstLine : Bool)
  /-- `d`, or `D` for the first line only. -/
  | delete (firstLine : Bool)
  /-- `q` (printing the pattern space first) or `Q`, with the exit status. -/
  | quit (printing : Bool) (status : Nat)
  | lineNumber
  | append (text : String)
  | insert (text : String)
  | change (text : String)
  | hold (appending : Bool)
  | get (appending : Bool)
  | exchange
  /-- `n`, or `N` appending the next line. -/
  | next (appending : Bool)
  /-- `l`, with the width of its lines if given. -/
  | list (width : Option Nat)
  | zap
  | fileName
  /-- `w /dev/stdout`, or `W` for the first line only. -/
  | writeOut (firstLine : Bool)
  | label (name : String)
  /-- A jump to a label (the end of the script for none), with the place it goes to. -/
  | jump (kind : Jump) (name : Option String) (target : Nat)
  /-- `{`, with the place of its `}`. -/
  | block (close : Nat)
  | blockEnd
  /-- A command without effect here: `r`, `R`, `w` to a file, `v`. -/
  | nothing

/-- A command with the lines it applies to. -/
structure Step where
  selector : Selector
  negated : Bool
  command : Command

/-- Splits text at the first unescaped delimiter; a backslash before the delimiter gives the
delimiter itself, other escapes are kept for later. -/
def untilDelimiter (delim : Char) : Nat -> List Char -> List Char -> Option (String × List Char)
  | 0, _, _ => none
  | _ + 1, [], _ => none
  | fuel + 1, '\\' :: c :: rest, acc =>
    if c == delim then untilDelimiter delim fuel rest (c :: acc)
    else if c == '\n' then untilDelimiter delim fuel rest ('\n' :: acc)
    else untilDelimiter delim fuel rest (c :: '\\' :: acc)
  | fuel + 1, c :: rest, acc =>
    if c == delim then some (String.ofList acc.reverse, rest) else untilDelimiter delim fuel rest (c :: acc)

/-- Blanks between the parts of a script. -/
def isBlank (c : Char) : Bool := c == ' ' || c == '\t'

/-- Compiles a pattern, the empty one standing for the last pattern used. -/
def patternOf (d : Dialect) (src : String) : Except SedError (Option Matcher) :=
  if src.isEmpty then pure none else some <$> compilePattern d src

/-- A file name, up to the end of the line. -/
def readFileName (cs : List Char) : String × List Char :=
  let cs := cs.dropWhile isBlank
  let name := cs.takeWhile (· != '\n')
  (String.ofList name, cs.drop name.length)

/-- The flags of `s`, as they are read. -/
structure SubstFlags where
  dialect : Dialect
  global : Bool := false
  nth : Nat := 1
  print : Nat := 0

/-- Reads the flags of `s`: `g`, a number, `p`, `I`, `M` and `w` with a file name. -/
def readFlags : Nat -> List Char -> SubstFlags -> Except SedError (SubstFlags × List Char)
  | 0, _, _ => throw .extraCharacters
  | fuel + 1, cs, f =>
    match cs with
    | 'g' :: rest => readFlags fuel rest { f with global := true }
    | 'p' :: rest => readFlags fuel rest { f with print := f.print + 1 }
    | 'i' :: rest | 'I' :: rest => readFlags fuel rest { f with dialect.caseless := true }
    | 'm' :: rest | 'M' :: rest => readFlags fuel rest { f with dialect.multiline := true }
    | 'e' :: _ => throw .unsupported
    | 'w' :: rest =>
      let (name, rest) := readFileName rest
      pure ({ f with print := f.print + (if name == "/dev/stdout" then 1 else 0) }, rest)
    | c :: _ =>
      if c.isDigit then
        let ds := cs.takeWhile Char.isDigit
        let k := (String.ofList ds).toNat!
        if k == 0 then throw .extraCharacters
        else readFlags fuel (cs.drop ds.length) { f with nth := k }
      else pure (f, cs)
    | [] => pure (f, [])

/-- The text of `a`, `i` or `c`: after blanks, and after a backslash and line feed if there is
one, up to a line feed that no backslash escapes. -/
def readTextBody : Nat -> List Char -> List Char -> String × List Char
  | 0, rest, acc => (String.ofList acc.reverse, rest)
  | _ + 1, [], acc => (String.ofList acc.reverse, [])
  | _ + 1, '\n' :: rest, acc => (String.ofList acc.reverse, '\n' :: rest)
  | fuel + 1, '\\' :: c :: rest, acc =>
    match controlEscape? c with
    | some e => readTextBody fuel rest (e :: acc)
    | none => readTextBody fuel rest (c :: acc)
  | fuel + 1, c :: rest, acc => readTextBody fuel rest (c :: acc)

/-- Reads the text of `a`, `i` or `c`. -/
def readText (command : Char) (cs : List Char) : Except SedError (String × List Char) :=
  let cs := cs.dropWhile isBlank
  let cs := match cs with
    | '\\' :: '\n' :: rest => rest
    | '\\' :: rest => rest.dropWhile isBlank
    | _ => cs
  match cs with
  | [] | '\n' :: _ => throw (.unterminated command)
  | _ => pure (readTextBody (cs.length + 1) cs [])

/-- What may follow a command: blanks, then the end, a separator, a comment or a closing
brace, which is left to be read as a command. -/
def afterCommand (cs : List Char) : Except SedError (List Char) :=
  match cs.dropWhile isBlank with
  | [] => pure []
  | ';' :: rest | '\n' :: rest => pure rest
  | '#' :: rest => pure (rest.dropWhile (· != '\n'))
  | '}' :: rest => pure ('}' :: rest)
  | _ => throw .extraCharacters

/-- A label: after blanks, up to a blank, a separator or the end of the line. -/
def readLabel (cs : List Char) : String × List Char :=
  let cs := cs.dropWhile isBlank
  let name := cs.takeWhile fun c => !(isBlank c || c == '\n' || c == ';')
  (String.ofList name, cs.drop name.length)

/-- Reads a pattern address after its opening delimiter, with its flags `I` and `M`. -/
def readPatternAddress (d : Dialect) (delim : Char) (cs : List Char) :
    Except SedError (Address × List Char) := do
  let some (src, after) := untilDelimiter delim (cs.length + 1) cs [] | throw (.unterminated '/')
  let flags := after.takeWhile fun c => c == 'I' || c == 'M'
  let d := { d with caseless := d.caseless || flags.contains 'I',
                    multiline := d.multiline || flags.contains 'M' }
  let m <- patternOf d src
  pure (.matching m, after.drop flags.length)

/-- Reads a number. -/
def readNumber (cs : List Char) : Option (Nat × List Char) :=
  let ds := cs.takeWhile Char.isDigit
  if ds.isEmpty then none else some ((String.ofList ds).toNat!, cs.drop ds.length)

/-- Reads an address, if one starts here. -/
def readAddress (d : Dialect) (cs : List Char) : Except SedError (Option Address × List Char) :=
  match cs with
  | '$' :: rest => pure (some .last, rest)
  | '/' :: rest => do
    let (a, rest) <- readPatternAddress d '/' rest
    pure (some a, rest)
  | '\\' :: delim :: rest => do
    let (a, rest) <- readPatternAddress d delim rest
    pure (some a, rest)
  | _ =>
    match readNumber cs with
    | some (n, '~' :: rest) =>
      match readNumber rest with
      | some (step, rest) => pure (some (.every n step), rest)
      | none => pure (some (.every n 0), rest)
    | some (n, rest) => pure (some (.line n), rest)
    | none => pure (none, cs)

/-- Reads the addresses of a command: none, one, or a range after a comma. -/
def readSelector (d : Dialect) (cs : List Char) : Except SedError (Selector × List Char) := do
  let (first, rest) <- readAddress d cs
  match first with
  | none => pure (.always, cs)
  | some a =>
    match rest.dropWhile isBlank with
    | ',' :: more =>
      let more := more.dropWhile isBlank
      let (stop, after) <- match more with
        | '+' :: r =>
          match readNumber r with
          | some (n, r) => pure (RangeEnd.count n, r)
          | none => throw .unsupported
        | '~' :: r =>
          match readNumber r with
          | some (n, r) => pure (RangeEnd.multiple n, r)
          | none => throw .unsupported
        | _ => do
          let (b, r) <- readAddress d more
          match b with
          | some b => pure (RangeEnd.address b, r)
          | none => throw .unsupported
      match a, stop with
      | .line 0, .address (.matching _) => pure (.range none stop, after)
      | .line 0, _ => throw .unsupported
      | _, _ => pure (.range (some a) stop, after)
    | _ =>
      match a with
      | .line 0 => throw .unsupported
      | _ => pure (.one a, rest)

/-- Reads one command after its addresses. -/
def readCommand (d : Dialect) (cs : List Char) : Except SedError (Command × List Char) :=
  match cs with
  | 's' :: delim :: rest => do
    let some (pat, rest) := untilDelimiter delim (rest.length + 1) rest [] | throw (.unterminated 's')
    let some (rep, rest) := untilDelimiter delim (rest.length + 1) rest [] | throw (.unterminated 's')
    let (f, rest) <- readFlags (rest.length + 1) rest { dialect := d }
    let m <- patternOf f.dialect pat
    let rest <- afterCommand rest
    pure (.substitute m (readReplacement (rep.length + 1) rep.toList) f.global f.nth f.print, rest)
  | 'y' :: delim :: rest => do
    let some (src, rest) := untilDelimiter delim (rest.length + 1) rest [] | throw (.unterminated 'y')
    let some (dst, rest) := untilDelimiter delim (rest.length + 1) rest [] | throw (.unterminated 'y')
    let unescape (s : String) : List Char := (readReplacement (s.length + 1) s.toList).map fun
      | .text c => c
      | .group _ => '&'
      | .caseChange _ => '\\'
    let (a, b) := (unescape src, unescape dst)
    if a.length != b.length then throw (.unterminated 'y')
    let rest <- afterCommand rest
    pure (.transliterate (a.zip b), rest)
  | 'q' :: rest | 'Q' :: rest | 'l' :: rest | 'L' :: rest => do
    let rest' := rest.dropWhile isBlank
    let number := readNumber rest'
    let rest <- afterCommand ((number.map (·.2)).getD rest')
    let value := number.map (·.1)
    match cs.head? with
    | some 'q' => pure (.quit true (value.getD 0), rest)
    | some 'Q' => pure (.quit false (value.getD 0), rest)
    | some 'l' => pure (.list value, rest)
    | _ => throw .unsupported
  | 'a' :: rest => do let (t, rest) <- readText 'a' rest; pure (.append t, rest)
  | 'i' :: rest => do let (t, rest) <- readText 'i' rest; pure (.insert t, rest)
  | 'c' :: rest => do let (t, rest) <- readText 'c' rest; pure (.change t, rest)
  | ':' :: rest => do
    let (name, rest) := readLabel rest
    if name.isEmpty then throw (.unterminated ':')
    let rest <- afterCommand rest
    pure (.label name, rest)
  | 'b' :: rest | 't' :: rest | 'T' :: rest => do
    let (name, rest) := readLabel rest
    let rest <- afterCommand rest
    let kind := match cs.head? with
      | some 't' => Jump.ifReplaced
      | some 'T' => .unlessReplaced
      | _ => .always
    pure (.jump kind (if name.isEmpty then none else some name) 0, rest)
  | 'r' :: rest | 'R' :: rest => pure (.nothing, (readFileName rest).2)
  | 'w' :: rest | 'W' :: rest =>
    let (name, rest) := readFileName rest
    pure (if name == "/dev/stdout" then .writeOut (cs.head? == some 'W') else .nothing, rest)
  | 'v' :: rest => do
    let rest <- afterCommand (readLabel rest).2
    pure (.nothing, rest)
  | '{' :: rest => pure (.block 0, rest)
  | c :: rest => do
    let cmd <- match c with
      | 'p' => pure (Command.print false)
      | 'P' => pure (.print true)
      | 'd' => pure (.delete false)
      | 'D' => pure (.delete true)
      | '=' => pure .lineNumber
      | 'h' => pure (.hold false)
      | 'H' => pure (.hold true)
      | 'g' => pure (.get false)
      | 'G' => pure (.get true)
      | 'x' => pure .exchange
      | 'n' => pure (.next false)
      | 'N' => pure (.next true)
      | 'z' => pure .zap
      | 'F' => pure .fileName
      | '}' => pure .blockEnd
      | _ => throw (.unknownCommand c)
    let rest <- afterCommand rest
    pure (cmd, rest)
  | [] => throw .noScript

/-- Reads the commands of a script, in order. -/
def readSteps (d : Dialect) : Nat -> List Char -> Except SedError (List Step)
  | 0, _ => pure []
  | fuel + 1, cs =>
    let cs := cs.dropWhile fun c => isBlank c || c == '\n' || c == ';'
    match cs with
    | [] => pure []
    | '#' :: rest => readSteps d fuel (rest.dropWhile (· != '\n'))
    | _ => do
      let (selector, rest) <- readSelector d cs
      let rest := rest.dropWhile isBlank
      let (negated, rest) := match rest with
        | '!' :: more => (true, more.dropWhile fun c => isBlank c || c == '!')
        | _ => (false, rest)
      let (command, rest) <- readCommand d rest
      let more <- readSteps d fuel rest
      pure (⟨selector, negated, command⟩ :: more)

/-- The place of the `}` that closes the block opened just before `start`: the first place from
`start` on where more blocks have closed than opened. -/
def closingBrace (steps : Array Step) : Nat -> Nat -> Nat -> Option Nat
  | 0, _, _ => none
  | fuel + 1, i, depth =>
    match steps[i]? with
    | none => none
    | some s =>
      match s.command with
      | .block _ => closingBrace steps fuel (i + 1) (depth + 1)
      | .blockEnd => if depth == 0 then some i else closingBrace steps fuel (i + 1) (depth - 1)
      | _ => closingBrace steps fuel (i + 1) depth

/-- Ties jumps to their labels and blocks to their ends. -/
def linkSteps (steps : Array Step) : Except SedError (Array Step) := do
  let labels := steps.toList.zipIdx.filterMap fun (s, i) =>
    match s.command with
    | .label name => some (name, i)
    | _ => none
  let opened := steps.toList.foldl (fun (depth : Int) s =>
    match s.command with
    | .block _ => depth + 1
    | .blockEnd => if depth <= 0 then -1000000 else depth - 1
    | _ => depth) 0
  unless opened == 0 do throw .unmatchedBrace
  steps.toList.zipIdx.toArray.mapM fun (s, i) =>
    match s.command with
    | .jump kind (some name) _ =>
      match labels.lookup name with
      | some target => pure { s with command := .jump kind (some name) target }
      | none => throw (.missingLabel name)
    | .jump kind none _ => pure { s with command := .jump kind none steps.size }
    | .block _ =>
      match closingBrace steps steps.size (i + 1) 0 with
      | some close => pure { s with command := .block close }
      | none => throw .unmatchedBrace
    | _ => pure s

/-- A command line of `sed`: the script, whether lines are printed only on request (`-n`),
whether output is written line by line (`-u`), the width of the lines of `l` (`-l`), and the
files to read. -/
structure Invocation where
  steps : Array Step
  quiet : Bool
  unbuffered : Bool
  lineWrap : Nat
  files : List String

/-- The options of a command line, before the script is read. -/
structure Options where
  quiet : Bool := false
  unbuffered : Bool := false
  extended : Bool := false
  lineWrap : Nat := 70
  scripts : List String := []
  operands : List String := []

/-- Reads the options of a command line. -/
def readOptions : Nat -> List String -> Options -> Except SedError Options
  | 0, _, o => pure o
  | _ + 1, [], o => pure o
  | fuel + 1, a :: rest, o =>
    if a == "--" then pure { o with operands := o.operands ++ rest }
    else if a == "-n" || a == "--quiet" || a == "--silent" then readOptions fuel rest { o with quiet := true }
    else if a == "-u" || a == "--unbuffered" then readOptions fuel rest { o with unbuffered := true }
    else if a == "-E" || a == "-r" || a == "--regexp-extended" then
      readOptions fuel rest { o with extended := true }
    else if a == "-e" then
      match rest with
      | s :: more => readOptions fuel more { o with scripts := o.scripts ++ [s] }
      | [] => throw .noScript
    else if a == "-l" then
      match rest with
      | s :: more => readOptions fuel more { o with lineWrap := s.toNat! }
      | [] => throw .noScript
    else if a.startsWith "--line-length=" then
      readOptions fuel rest { o with lineWrap := (a.drop 14).toString.toNat! }
    else if a.startsWith "--expression=" then
      readOptions fuel rest { o with scripts := o.scripts ++ [a.drop 13 |>.toString] }
    else if a.startsWith "-" && a.length > 1 && !a.startsWith "--" then
      -- clustered short options; `e` takes the rest, or the next argument, as a script
      let flags := a.toList.drop 1
      let simple := flags.takeWhile (· != 'e')
      if !simple.all (fun c => c == 'n' || c == 'u' || c == 'E' || c == 'r' || c == 's') then
        throw .unsupported
      else
        let o := { o with quiet := o.quiet || simple.contains 'n',
                          unbuffered := o.unbuffered || simple.contains 'u',
                          extended := o.extended || simple.contains 'E' || simple.contains 'r' }
        match flags.drop simple.length with
        | [] => readOptions fuel rest o
        | _ :: [] =>
          match rest with
          | s :: more => readOptions fuel more { o with scripts := o.scripts ++ [s] }
          | [] => throw .noScript
        | _ :: script => readOptions fuel rest { o with scripts := o.scripts ++ [String.ofList script] }
    else if a.startsWith "-" && a != "-" then throw .unsupported
    else readOptions fuel rest { o with operands := o.operands ++ [a] }

/-- Reads a command line: without `-e`, the first operand is the script. -/
def Invocation.ofArgs (args : List String) : Except SedError Invocation := do
  let o <- readOptions (args.length + 1) args {}
  let (scripts, files) <- match o.scripts, o.operands with
    | [], s :: files => pure ([s], files)
    | [], [] => throw .noScript
    | ss, files => pure (ss, files)
  let text := "\n".intercalate scripts
  let steps <- readSteps { extended := o.extended } (text.length + 1) text.toList
  let steps <- linkSteps steps.toArray
  -- a first line `#n` asks for no automatic printing
  let quiet := o.quiet || text.take 3 == "#n\n" || text == "#n"
  pure ⟨steps, quiet, o.unbuffered, o.lineWrap, files.filter (· != "-")⟩

/-! ## Running -/

/-- Where a range stands: closed, or open, ending on a fixed line or where its end address
takes one. -/
inductive Phase where
  | idle
  | opened (stop : Option Nat)
  deriving Inhabited, BEq

/-- What the editor keeps from line to line. -/
structure State where
  /-- Lines read so far. -/
  lineNo : Nat := 0
  hold : String := ""
  /-- The exit status once the script has quit. -/
  quitWith : Option Nat := none
  /-- The ranges whose phase has changed, by the place of their command. -/
  ranges : List (Nat × Phase) := []
  /-- A cycle that waits at `n` or `N` for the next line: the pattern space, the place to go on
  from, and whether the line is appended. -/
  waiting : Option (String × Nat × Bool) := none
  /-- Whether a substitution was made since a line was read or a `t` or `T` jumped. -/
  replaced : Bool := false
  /-- The last pattern used, which an empty pattern stands for. -/
  lastPattern : Option Matcher := none
  deriving Inhabited

/-- A cycle under way: the pattern space, what has been written, the text to write at the end
of the cycle, and the state. -/
structure Cycle where
  space : String
  out : String := ""
  after : String := ""
  st : State

/-- The pattern a command names, or the last one used; using a pattern makes it the last one. -/
def Cycle.pattern (c : Cycle) (m : Option Matcher) : Option Matcher × Cycle :=
  match m <|> c.st.lastPattern with
  | some m => (some m, { c with st.lastPattern := some m })
  | none => (none, c)

/-- Whether an address takes the current line. -/
def Cycle.takes (c : Cycle) (a : Address) (last : Bool) : Bool × Cycle :=
  let n := c.st.lineNo
  match a with
  | .line k => (k == n, c)
  | .last => (last, c)
  | .every first step => (if step == 0 then n == first else first <= n && (n - first) % step == 0, c)
  | .matching m =>
    match c.pattern m with
    | (some m, c) => (m.isMatch c.space, c)
    | (none, c) => (false, c)

/-- The phase of the range of the command at a place. -/
def Cycle.phase (c : Cycle) (i : Nat) (first : Option Address) : Phase :=
  match c.st.ranges.lookup i with
  | some p => p
  | none => if first.isNone then .opened none else .idle

/-- Records the phase of a range. -/
def Cycle.setPhase (c : Cycle) (i : Nat) (p : Phase) : Cycle :=
  { c with st.ranges := (i, p) :: c.st.ranges.filter (·.1 != i) }

/-- Whether a range takes the current line, opening or closing it. -/
def Cycle.inRange (c : Cycle) (i : Nat) (first : Option Address) (stop : RangeEnd) (last : Bool) :
    Bool × Cycle :=
  let n := c.st.lineNo
  let opening (c : Cycle) : Bool × Cycle :=
    match first with
    | none => (false, c)
    | some a =>
      match c.takes a last with
      | (false, c) => (false, c)
      | (true, c) =>
        match stop with
        | .address (.line e) => (true, if e <= n then c else c.setPhase i (.opened (some e)))
        | .count k => (true, if k == 0 then c else c.setPhase i (.opened (some (n + k))))
        | .multiple k =>
          (true, if k == 0 || n % k == 0 then c else c.setPhase i (.opened (some ((n / k + 1) * k))))
        | .address _ => (true, c.setPhase i (.opened none))
  match c.phase i first with
  | .idle => opening c
  | .opened (some e) =>
    if n < e then (true, c)
    else if n == e then (true, c.setPhase i .idle)
    else opening (c.setPhase i .idle)
  | .opened none =>
    match stop with
    | .address a =>
      match c.takes a last with
      | (true, c) => (true, c.setPhase i .idle)
      | (false, c) => (true, c)
    | _ => (true, c)

/-- Whether a command applies to the current line. -/
def Step.selects (s : Step) (i : Nat) (c : Cycle) (last : Bool) : Bool × Cycle :=
  let (hit, c) := match s.selector with
    | .always => (true, c)
    | .one a => c.takes a last
    | .range first stop => c.inRange i first stop last
  (hit != s.negated, c)

/-- Replaces the n-th match, or every match from the n-th on. -/
def substituteIn (m : Matcher) (rep : List Part) (global : Bool) (nth : Nat) (text : String) :
    Option String :=
  let cs := text.toList.toArray
  let found := m.findAll cs (cs.size + 2) 0 none []
  let chosen := (found.zipIdx.filter fun (_, i) => if global then i + 1 >= nth else i + 1 == nth).map (·.1)
  if chosen.isEmpty then none
  else
    let piece (a b : Nat) : List Char := (cs.extract a b).toList
    let expand (caps : Spans) : List Char :=
      expandParts (fun n => match caps[n]? with
        | some (some (a, b)) => piece a b
        | _ => []) rep none none []
    let (out, last) := chosen.foldl (fun (acc, pos) caps =>
      let (a, b) := (caps[0]?.bind id).getD (pos, pos)
      (acc ++ piece pos a ++ expand caps, b)) ([], 0)
    some (String.ofList (out ++ piece last cs.size))

/-- The octal digits of a byte, three of them. -/
def octalByte (n : Nat) : String :=
  String.ofList [Char.ofNat (48 + n / 64 % 8), Char.ofNat (48 + n / 8 % 8), Char.ofNat (48 + n % 8)]

/-- How `l` shows a character: printable ones as they are, a backslash doubled, the usual
control characters by their escapes, and other bytes in octal. -/
def listedChar (c : Char) : String :=
  match c with
  | '\\' => "\\\\"
  | '\x07' => "\\a"
  | '\x08' => "\\b"
  | '\x0c' => "\\f"
  | '\n' => "\\n"
  | '\r' => "\\r"
  | '\t' => "\\t"
  | '\x0b' => "\\v"
  | _ => if 0x20 <= c.toNat && c.toNat < 0x7F then c.toString else "\\" ++ octalByte c.toNat

/-- What `l` writes: the pattern space shown unambiguously, broken with a backslash so that no
line is wider than `width` (no breaking for a width of 0 or 1), and ended with `$`. -/
def listing (width : Nat) (text : String) : String :=
  let (out, _) := text.toList.foldl (fun (acc, w) c =>
    let p := listedChar c
    if width > 1 && w + p.length > width - 1 then (acc ++ "\\\n" ++ p, p.length)
    else (acc ++ p, w + p.length)) ("", 0)
  out ++ "$\n"

/-- The first line of a text. -/
def firstLine (s : String) : String := String.ofList (s.toList.takeWhile (· != '\n'))

/-- How a cycle goes on after its commands. -/
inductive Flow where
  /-- The cycle is done: the pattern space is printed automatically unless deleted. -/
  | finish (print : Bool)
  /-- The script quits, printing the pattern space or not, writing the appended text or not. -/
  | stop (print : Bool) (status : Nat) (appended : Bool)
  /-- The cycle waits for the next line, to go on from a place. -/
  | wait (pc : Nat) (appending : Bool)
  /-- The cycle starts again on what is left of the pattern space (`D`). -/
  | restart

/-- The commands one cycle may run. -/
def stepBudget : Nat := 200000

/-- Runs the commands from a place on: the cycle after them and how it goes on. -/
def Invocation.run (inv : Invocation) (last : Bool) : Nat -> Nat -> Cycle -> Cycle × Flow
  | 0, _, c => (c, .finish true)
  | fuel + 1, pc, c =>
    match inv.steps[pc]? with
    | none => (c, .finish true)
    | some s =>
      let (hit, c) := s.selects pc c last
      let go (c : Cycle) := inv.run last fuel (pc + 1) c
      if !hit then
        match s.command with
        | .block close => inv.run last fuel (close + 1) c
        | _ => go c
      else match s.command with
      | .substitute m rep g n p =>
        match c.pattern m with
        | (some m, c) =>
          match substituteIn m rep g n c.space with
          | some space =>
            let printed := String.join (List.replicate p (space ++ "\n"))
            go { c with space, out := c.out ++ printed, st.replaced := true }
          | none => go c
        | (none, c) => go c
      | .transliterate pairs =>
        let space := String.ofList (c.space.toList.map fun ch => ((pairs.find? (·.1 == ch)).map (·.2)).getD ch)
        go { c with space }
      | .print false => go { c with out := c.out ++ c.space ++ "\n" }
      | .print true => go { c with out := c.out ++ firstLine c.space ++ "\n" }
      | .delete false => (c, .finish false)
      | .delete true =>
        if c.space.contains '\n' then
          ({ c with space := String.ofList (c.space.toList.dropWhile (· != '\n') |>.drop 1) }, .restart)
        else (c, .finish false)
      | .quit printing status => (c, .stop printing status printing)
      | .lineNumber => go { c with out := c.out ++ toString c.st.lineNo ++ "\n" }
      | .append t => go { c with after := c.after ++ t ++ "\n" }
      | .insert t => go { c with out := c.out ++ t ++ "\n" }
      | .change t =>
        let open? := match s.selector with
          | .range first _ => c.phase pc first != .idle
          | _ => false
        ({ c with out := if open? && !s.negated then c.out else c.out ++ t ++ "\n" }, .finish false)
      | .hold appending =>
        go { c with st.hold := if appending then c.st.hold ++ "\n" ++ c.space else c.space }
      | .get appending =>
        go { c with space := if appending then c.space ++ "\n" ++ c.st.hold else c.st.hold }
      | .exchange => go { c with space := c.st.hold, st.hold := c.space }
      | .next appending =>
        if last then (c, .stop true 0 true)
        else
          let shown := if appending || inv.quiet then "" else c.space ++ "\n"
          ({ c with out := c.out ++ shown ++ c.after, after := "" }, .wait (pc + 1) appending)
      | .list width => go { c with out := c.out ++ listing (width.getD inv.lineWrap) c.space }
      | .zap => go { c with space := "" }
      | .fileName => go { c with out := c.out ++ "-\n" }
      | .writeOut false => go { c with out := c.out ++ c.space ++ "\n" }
      | .writeOut true => go { c with out := c.out ++ firstLine c.space ++ "\n" }
      | .jump kind _ target =>
        let taken := match kind with
          | .always => true
          | .ifReplaced => c.st.replaced
          | .unlessReplaced => !c.st.replaced
        let c := if kind == .always then c else { c with st.replaced := false }
        if taken then inv.run last fuel target c else go c
      | .label _ | .block _ | .blockEnd | .nothing => go c

/-- Runs cycles on the pattern space until one ends, quits or waits for a line: what they wrote
and the state after. -/
def Invocation.cycles (inv : Invocation) (last : Bool) : Nat -> Nat -> Cycle -> String × State
  | 0, _, c => (c.out, c.st)
  | fuel + 1, pc, c =>
    let (c, flow) := inv.run last stepBudget pc c
    let shown (print : Bool) := if print && !inv.quiet then c.space ++ "\n" else ""
    match flow with
    | .finish print => (c.out ++ shown print ++ c.after, c.st)
    | .stop print status appended =>
      (c.out ++ shown print ++ (if appended then c.after else ""), { c.st with quitWith := some status })
    | .wait next appending => (c.out, { c.st with waiting := some (c.space, next, appending) })
    | .restart => inv.cycles last fuel 0 { c with out := c.out ++ c.after, after := "" }

/-- Runs the script on one line of input (`last` when no line follows): what it writes and the
state after. -/
def Invocation.step (inv : Invocation) (st : State) (line : String) (last : Bool) : String × State :=
  if st.quitWith.isSome then ("", st)
  else
    let (space, pc) := match st.waiting with
      | some (space, pc, true) => (space ++ "\n" ++ line, pc)
      | some (_, pc, false) => (line, pc)
      | none => (line, 0)
    let st := { st with lineNo := st.lineNo + 1, replaced := false, waiting := none }
    inv.cycles last 10000 pc { space, st }

/-- The size of the output buffer: without `-u`, output reaches a pipe in blocks of this size. -/
def blockSize : Nat := 4096

end TranscriptTest.Shell.Sed
