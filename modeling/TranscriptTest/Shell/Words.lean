import TranscriptTest.Shell.Syntax

/-!
# Words after expansion

An expanded word is a list of marked characters: a character remembers whether it came from an
unquoted expansion, where it may separate fields, and whether it was quoted, where it is
literal in a pattern. Field splitting cuts the marks at the separators of `IFS`; patterns
(`*`, `?`, bracket expressions) match whole texts, for `case`, `[[ == ]]` and the removal of
prefixes and suffixes.
-/

namespace TranscriptTest.Shell

/-- Whether a separator is white space, which runs of count as one. -/
def isIfsWhite (c : Char) : Bool := c == ' ' || c == '\t' || c == '\n'

/-! ## Expansion results -/

/-- A character of an expanded word, or a mark between fields. -/
inductive Mark where
  /-- A character; `split` when it came from an unquoted expansion (so it may separate
  fields), `quoted` when it is literal in a pattern. -/
  | ch (c : Char) (split : Bool) (quoted : Bool)
  /-- The boundary between two positional parameters of `"$@"`. -/
  | brk
  /-- A quoted part, which makes a field even when it is empty. -/
  | anchor
  deriving Inhabited, BEq

/-- The state of field splitting: fields done, the current field, whether it has begun, and
whether white space has just ended a field. -/
structure Splitting where
  fields : List String := []
  current : List Char := []
  begun : Bool := false
  afterWhite : Bool := false

/-- Splits marked characters into fields at separators that came from unquoted expansions. -/
def splitFields (ifs : List Char) (marks : List Mark) : List String :=
  let push (s : Splitting) : Splitting :=
    { s with fields := s.fields ++ [String.ofList s.current], current := [], begun := false }
  let step (s : Splitting) (m : Mark) : Splitting :=
    match m with
    | .ch c split _ =>
      if split && ifs.contains c then
        if isIfsWhite c then
          if s.begun then { push s with afterWhite := true } else s
        else if s.afterWhite then { s with afterWhite := false }
        else push s
      else { s with current := s.current ++ [c], begun := true, afterWhite := false }
    | .brk => { push s with begun := true, afterWhite := false }
    | .anchor => { s with begun := true }
  let s := marks.foldl step {}
  (if s.begun then push s else s).fields

/-- The characters of marks, `"$@"` boundaries written as blanks. -/
def marksText (marks : List Mark) : String :=
  String.ofList (marks.filterMap fun
    | .ch c _ _ => some c
    | .brk => some ' '
    | .anchor => none)

/-- Marks for a value: split when the expansion is unquoted. -/
def valueMarks (value : String) (quoted : Bool) : List Mark :=
  (if quoted then [Mark.anchor] else []) ++ value.toList.map (Mark.ch · (!quoted) quoted)

/-! ## Patterns -/

/-- One element of a pattern. -/
inductive PatternItem where
  | star
  | one
  | set (negated : Bool) (ranges : List (Char × Char))
  | lit (c : Char)
  deriving Inhabited, BEq

/-- Reads a bracket expression after `[`; `none` when it has no `]`. -/
def readBracket (cs : List (Char × Bool)) : Option (PatternItem × List (Char × Bool)) :=
  let (negated, cs) := match cs with
    | ('!', false) :: rest | ('^', false) :: rest => (true, rest)
    | cs => (false, cs)
  -- a `]` right after the opening bracket is a member
  let (first, cs) := match cs with
    | (']', _) :: rest => ([(']', ']')], rest)
    | cs => ([], cs)
  let body := cs.takeWhile (fun c => c.1 != ']' || c.2)
  match cs.dropWhile (fun c => c.1 != ']' || c.2) with
  | _ :: after =>
    let rec ranges : List (Char × Bool) -> List (Char × Char)
      | (a, _) :: ('-', _) :: (b, _) :: rest => (a, b) :: ranges rest
      | (a, _) :: rest => (a, a) :: ranges rest
      | [] => []
    some (.set negated (first ++ ranges body), after)
  | [] => none

/-- Compiles characters, each marked when it is literal, into pattern items. -/
def compilePattern : Nat -> List (Char × Bool) -> List PatternItem
  | 0, _ => []
  | _ + 1, [] => []
  | fuel + 1, (c, literal) :: rest =>
    if literal then .lit c :: compilePattern fuel rest
    else if c == '*' then .star :: compilePattern fuel rest
    else if c == '?' then .one :: compilePattern fuel rest
    else if c == '[' then
      match readBracket rest with
      | some (item, after) => item :: compilePattern fuel after
      | none => .lit '[' :: compilePattern fuel rest
    else if c == '\\' then
      match rest with
      | (d, _) :: after => .lit d :: compilePattern fuel after
      | [] => [.lit '\\']
    else .lit c :: compilePattern fuel rest

/-- Whether a pattern matches a whole text. -/
def matchPattern : List PatternItem -> List Char -> Bool
  | [], s => s.isEmpty
  | .star :: p, s => (List.range (s.length + 1)).any fun k => matchPattern p (s.drop k)
  | .one :: p, s =>
    match s with
    | [] => false
    | _ :: s => matchPattern p s
  | .set negated ranges :: p, s =>
    match s with
    | [] => false
    | c :: s => (ranges.any (fun r => r.1 <= c ∧ c <= r.2)) != negated && matchPattern p s
  | .lit d :: p, s =>
    match s with
    | [] => false
    | c :: s => c == d && matchPattern p s

/-- A pattern from marks: quoted characters are literal. -/
def patternOf (marks : List Mark) : List PatternItem :=
  let cs := marks.filterMap fun
    | .ch c _ q => some (c, q)
    | .brk => some (' ', true)
    | .anchor => none
  compilePattern (cs.length + 1) cs

/-- A value with the shortest or longest prefix or suffix that a pattern matches removed, as
`${x#p}`, `${x##p}`, `${x%p}` and `${x%%p}` do. -/
def removePattern (op : String) (pattern : List PatternItem) (value : String) : String :=
  let cs := value.toList
  let n := cs.length
  let cuts := List.range (n + 1)
  let result := match op with
    | "#" => (cuts.find? fun k => matchPattern pattern (cs.take k)).map cs.drop
    | "##" => (cuts.reverse.find? fun k => matchPattern pattern (cs.take k)).map cs.drop
    | "%" => (cuts.reverse.find? fun k => matchPattern pattern (cs.drop k)).map cs.take
    | _ => (cuts.find? fun k => matchPattern pattern (cs.drop k)).map cs.take
  String.ofList (result.getD cs)

/-- Whether a `case` pattern, expanded to marks, matches a text. -/
def marksMatch (pattern : List Mark) (text : String) : Bool :=
  matchPattern (patternOf pattern) text.toList

/-! ## Braces -/

/-- A unit of a word for brace expansion: an unquoted character, or any other piece. -/
inductive BraceUnit where
  | ch (c : Char)
  | piece (p : Piece)
  deriving Inhabited, BEq

/-- The units of a word. -/
def braceUnits (w : Word) : List BraceUnit :=
  w.flatMap fun
    | .text s false => s.toList.map .ch
    | p => [.piece p]

/-- A word from units, runs of characters joined into unquoted text. -/
def unitsWord : List BraceUnit -> Word
  | [] => []
  | .piece p :: rest => p :: unitsWord rest
  | .ch c :: rest =>
    match unitsWord rest with
    | .text s false :: more => .text (c.toString ++ s) false :: more
    | more => .text c.toString false :: more

/-- The place of the `}` closing a `{` whose contents start at `i`. -/
def braceClose (us : Array BraceUnit) : Nat -> Nat -> Nat -> Option Nat
  | 0, _, _ => none
  | fuel + 1, i, depth =>
    match us[i]? with
    | none => none
    | some (.ch '{') => braceClose us fuel (i + 1) (depth + 1)
    | some (.ch '}') => if depth == 0 then some i else braceClose us fuel (i + 1) (depth - 1)
    | some _ => braceClose us fuel (i + 1) depth

/-- Splits units at the commas outside inner braces. -/
def braceAlternatives (us : List BraceUnit) : List (List BraceUnit) :=
  let (parts, current, _) := us.foldl (fun (parts, current, depth) u =>
    match u with
    | .ch '{' => (parts, u :: current, depth + 1)
    | .ch '}' => (parts, u :: current, depth - 1)
    | .ch ',' => if depth == 0 then (current.reverse :: parts, [], depth) else (parts, u :: current, depth)
    | _ => (parts, u :: current, depth)) (([] : List (List BraceUnit)), ([] : List BraceUnit), (0 : Nat))
  (current.reverse :: parts).reverse

/-- The words of a sequence `{x..y}` or `{x..y..step}`: integers, zero-padded to the width of
an end written with a leading zero, or single characters. -/
def braceSequence (s : String) : Option (List String) :=
  let padded (t : String) : Bool :=
    t.startsWith "0" && t.length > 1 || t.startsWith "-0" && t.length > 2
  let range (x y : Int) (step : Nat) : List Int :=
    let st : Int := if step == 0 then 1 else step
    let count := min 100000 ((x - y).natAbs / st.toNat + 1)
    (List.range count).map fun (k : Nat) => if x <= y then x + st * (k : Int) else x - st * (k : Int)
  let build (a b : String) (step : Nat) : Option (List String) :=
    match a.toInt?, b.toInt? with
    | some x, some y =>
      let width := if padded a || padded b then max a.length b.length else 0
      some ((range x y step).map fun n =>
        let digits := toString n.natAbs
        let sign := if n < 0 then "-" else ""
        let fill := width - sign.length - digits.length
        sign ++ String.ofList (List.replicate fill '0') ++ digits)
    | _, _ =>
      match a.toList, b.toList with
      | [c], [d] =>
        if c.isAlpha && d.isAlpha || c.isDigit && d.isDigit then
          some ((range c.toNat d.toNat step).map fun n => (Char.ofNat n.toNat).toString)
        else none
      | _, _ => none
  match s.splitOn ".." with
  | [a, b] => build a b 1
  | [a, b, c] => c.toInt?.bind fun step => build a b step.natAbs
  | _ => none

/-- The first brace group from a place on: where it opens and closes, and its alternatives. -/
def findBraceGroup (us : Array BraceUnit) : Nat -> Nat -> Option (Nat × Nat × List (List BraceUnit))
  | 0, _ => none
  | fuel + 1, i =>
    match us[i]? with
    | none => none
    | some (.ch '{') =>
      match braceClose us us.size (i + 1) 0 with
      | some j =>
        let inner := (us.extract (i + 1) j).toList
        let alts := braceAlternatives inner
        if alts.length > 1 then some (i, j, alts)
        else
          let plain := inner.filterMap fun
            | .ch c => some c
            | _ => none
          match (if plain.length == inner.length then braceSequence (String.ofList plain) else none) with
          | some words => some (i, j, words.map fun w => w.toList.map .ch)
          | none => findBraceGroup us fuel (i + 1)
      | none => findBraceGroup us fuel (i + 1)
    | some _ => findBraceGroup us fuel (i + 1)

/-- Expands the braces of units, left to right. -/
def expandBraceUnits : Nat -> List BraceUnit -> List (List BraceUnit)
  | 0, us => [us]
  | fuel + 1, us =>
    let arr := us.toArray
    match findBraceGroup arr arr.size 0 with
    | none => [us]
    | some (i, j, alts) =>
      let pre := us.take i
      let post := us.drop (j + 1)
      alts.flatMap fun alt => expandBraceUnits fuel (pre ++ alt ++ post)

/-- The words a word's braces expand to. -/
def expandBraces (w : Word) : List Word :=
  let us := braceUnits w
  (expandBraceUnits (us.length + 1) us).map unitsWord

end TranscriptTest.Shell
