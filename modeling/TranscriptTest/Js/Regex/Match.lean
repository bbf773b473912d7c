import TranscriptTest.Js.Regex.Syntax

/-!
# Matching script patterns

Matching backtracks: each node is tried with a continuation that matches the rest of the
pattern, and a node that offers several ways (alternatives, repetitions) tries them in order of
preference until the continuation succeeds. A repetition clears the groups it holds before each
round, and once its minimum is reached a round that matches the empty text fails, so that a
repetition always ends. A backreference to a group that has matched nothing matches the empty
text. A look-behind matches its body backwards from its place: characters are taken from the
left of the place, the parts of a sequence from the last, and a backreference compares the text
that ends at the place.
-/

namespace TranscriptTest.Js.Regex

open TranscriptTest.Pattern TranscriptTest.Unicode

/-- Where a match stands: its place and the spans of the groups (group 0 is the whole match). -/
structure MatchState where
  pos : Nat
  caps : Array (Option (Nat × Nat))
  deriving Inhabited

/-- The text being matched and how. -/
structure Subject where
  text : Array Char
  flags : Flags

/-- Whether two characters are the same, allowing case variants when case is ignored. -/
def Subject.same (s : Subject) (a b : Char) : Bool :=
  a == b || (s.flags.ignoreCase && (s.flags.folding.orbit a.toNat).contains b.toNat)

/-- Whether the text from `a` equals the text from `b` for `n` characters. -/
def Subject.sameRun (s : Subject) (a b n : Nat) : Bool :=
  (List.range n).all fun k =>
    match s.text[a + k]?, s.text[b + k]? with
    | some x, some y => s.same x y
    | _, _ => false

/-- Whether the place is at the start of a line. -/
def Subject.atLineStart (s : Subject) (pos : Nat) : Bool :=
  pos == 0 || (s.flags.multiline && match s.text[pos - 1]? with
    | some c => isLineTerminator c
    | none => false)

/-- Whether the place is at the end of a line. -/
def Subject.atLineEnd (s : Subject) (pos : Nat) : Bool :=
  pos == s.text.size || (s.flags.multiline && match s.text[pos]? with
    | some c => isLineTerminator c
    | none => false)

/-- Whether the place is between a word character and another character. -/
def Subject.atBoundary (s : Subject) (pos : Nat) : Bool :=
  let word := s.flags.wordChars
  let before := pos > 0 && (s.text[pos - 1]?.map word.contains).getD false
  let after := (s.text[pos]?.map word.contains).getD false
  before != after

/-- Forgets the spans of `n` groups from `first` on. -/
def clearGroups (caps : Array (Option (Nat × Nat))) (first n : Nat) : Array (Option (Nat × Nat)) :=
  (List.range n).foldl (fun cs k => cs.set! (first + k) none) caps

/-- A continuation: what to match after a node. -/
abbrev Next := MatchState -> Option MatchState

mutual

/-- Matches a node at the state's place, then the continuation; `back` matches it backwards,
ending at the place. -/
def matchNode : Nat -> Subject -> Bool -> Node -> MatchState -> Next -> Option MatchState
  | 0, _, _, _, _, _ => none
  | fuel + 1, s, back, node, st, k =>
    match node with
    | .empty => k st
    | .char set =>
      if back then
        match st.pos, s.text[st.pos - 1]? with
        | p + 1, some c => if set.contains c then k { st with pos := p } else none
        | _, _ => none
      else
        match s.text[st.pos]? with
        | some c => if set.contains c then k { st with pos := st.pos + 1 } else none
        | none => none
    | .lineStart => if s.atLineStart st.pos then k st else none
    | .lineEnd => if s.atLineEnd st.pos then k st else none
    | .boundary negated => if s.atBoundary st.pos != negated then k st else none
    | .group none body => matchNode fuel s back body st k
    | .group (some i) body =>
      let start := st.pos
      matchNode fuel s back body st fun st' =>
        let span := if back then (st'.pos, start) else (start, st'.pos)
        k { st' with caps := st'.caps.set! i (some span) }
    | .concat parts => matchSeq fuel s back (if back then parts.reverse else parts) st k
    | .alt branches => matchAlt fuel s back branches st k
    | .rep body lo hi greedy first n => matchRep fuel s back body lo hi greedy first n st k
    | .backref i =>
      match st.caps[i]? with
      | some (some (a, b)) =>
        let len := b - a
        if back then
          if len <= st.pos && s.sameRun a (st.pos - len) len then k { st with pos := st.pos - len }
          else none
        else if s.sameRun a st.pos len then k { st with pos := st.pos + len } else none
      | _ => k st
    | .look behind negated body =>
      match matchNode fuel s behind body st some, negated with
      | some found, false => k { st with caps := found.caps }
      | none, true => k st
      | _, _ => none

/-- Matches nodes one after another, then the continuation. -/
def matchSeq : Nat -> Subject -> Bool -> List Node -> MatchState -> Next -> Option MatchState
  | 0, _, _, _, _, _ => none
  | _ + 1, _, _, [], st, k => k st
  | fuel + 1, s, back, n :: rest, st, k =>
    matchNode fuel s back n st fun st' => matchSeq fuel s back rest st' k

/-- Tries alternatives in order. -/
def matchAlt : Nat -> Subject -> Bool -> List Node -> MatchState -> Next -> Option MatchState
  | 0, _, _, _, _, _ => none
  | _ + 1, _, _, [], _, _ => none
  | fuel + 1, s, back, b :: rest, st, k =>
    match matchNode fuel s back b st k with
    | some r => some r
    | none => matchAlt fuel s back rest st k

/-- Matches a repetition: `lo` more rounds are needed and at most `hi` more are allowed. -/
def matchRep : Nat -> Subject -> Bool -> Node -> Nat -> Option Nat -> Bool -> Nat -> Nat -> MatchState ->
    Next -> Option MatchState
  | 0, _, _, _, _, _, _, _, _, _, _ => none
  | fuel + 1, s, back, body, lo, hi, greedy, first, n, st, k =>
    if hi == some 0 then k st
    else
      let round : Unit → Option MatchState := fun _ =>
        matchNode fuel s back body { st with caps := clearGroups st.caps first n } fun st' =>
          if lo == 0 && st'.pos == st.pos then none
          else matchRep fuel s back body (lo - 1) (hi.map (· - 1)) greedy first n st' k
      if lo > 0 then round ()
      else if greedy then
        match round () with
        | some r => some r
        | none => k st
      else
        match k st with
        | some r => some r
        | none => round ()

end

/-- The fuel a match of a text may spend. -/
def matchFuel (size : Nat) : Nat := 64 * (size + 16) + 4096

/-- Matches a program at one place: the spans of the groups, group 0 being the whole match. -/
def Program.matchAt (p : Program) (text : Array Char) (start : Nat) : Option (Array (Option (Nat × Nat))) :=
  let s : Subject := { text, flags := p.flags }
  let init : MatchState := { pos := start, caps := Array.replicate (p.groups + 1) none }
  (matchNode (matchFuel text.size) s false p.node init some).map fun st =>
    st.caps.set! 0 (some (start, st.pos))

/-- The first match at or after a place, or only at it when `sticky`. -/
def Program.search (p : Program) (text : Array Char) (start : Nat) (sticky : Bool) :
    Option (Array (Option (Nat × Nat))) :=
  if sticky then p.matchAt text start
  else ((List.range (text.size + 1 - start)).map (· + start)).findSome? (p.matchAt text)

end TranscriptTest.Js.Regex
