import TranscriptTest.Pattern.Program
import TranscriptTest.Pattern.Parser
import TranscriptTest.Pattern.Limits

/-!
# Searching with a pattern

The search is a depth-first walk of the program that tries successors in order of preference,
so the first match it meets is the leftmost-first one. It remembers each (instruction, position)
pair it has explored: exploring a pair again can only fail again, whatever the slots hold, so a
pair is explored at most once per search. This also cuts loops that consume nothing: a
repetition whose body matched the empty text cannot pass through the same instruction twice at
one position.
-/

namespace TranscriptTest.Pattern

/-- Whether an assertion holds at position `pos` of `text`. -/
def Look.holds (l : Look) (text : Array Char) (pos : Nat) : Bool :=
  let before? : Option Char := if pos = 0 then none else text[pos - 1]?
  let after? : Option Char := text[pos]?
  let wordAt (u : Bool) (c? : Option Char) : Bool := match c? with
    | some c => isWordChar u c
    | none => false
  match l with
  | .textStart => pos == 0
  | .textEnd => pos == text.size
  | .lineStart => pos == 0 || before? == some '\n'
  | .lineEnd => pos == text.size || after? == some '\n'
  | .lineStartCRLF => pos == 0 || before? == some '\n' || (before? == some '\r' && after? != some '\n')
  | .lineEndCRLF => pos == text.size || after? == some '\r' || (after? == some '\n' && before? != some '\r')
  | .wordBoundary u => wordAt u before? != wordAt u after?
  | .notWordBoundary u => wordAt u before? == wordAt u after?
  | .wordStart u => !wordAt u before? && wordAt u after?
  | .wordEnd u => wordAt u before? && !wordAt u after?
  | .wordStartHalf u => !wordAt u before?
  | .wordEndHalf u => !wordAt u after?

/-- Pending work of the search. -/
inductive Task where
  /-- Explore the program from an instruction at a position. -/
  | explore (pc pos : Nat)
  /-- Put a slot back as it was before a group recorded into it. -/
  | restore (slot : Nat) (value : Option Nat)

/-- The search's memory. -/
structure Machine where
  slots : Array (Option Nat)
  visited : Array Bool
  tasks : List Task

/-- Runs pending tasks until a match is accepted or none are left. -/
def Machine.run (prog : Program) (text : Array Char) : Nat -> Machine -> Option (Array (Option Nat)) × Machine
  | 0, m => (none, m)
  | fuel + 1, m =>
    match m.tasks with
    | [] => (none, m)
    | .restore slot v :: rest => Machine.run prog text fuel { m with slots := m.slots.set! slot v, tasks := rest }
    | .explore pc pos :: rest =>
      let key := pc * (text.size + 1) + pos
      if m.visited.getD key false then Machine.run prog text fuel { m with tasks := rest }
      else
        let m := { m with visited := m.visited.set! key true, tasks := rest }
        match prog.insts[pc]? with
        | some (.char s next) =>
          match text[pos]? with
          | some c =>
            if s.contains c then Machine.run prog text fuel { m with tasks := .explore next (pos + 1) :: m.tasks }
            else Machine.run prog text fuel m
          | none => Machine.run prog text fuel m
        | some (.split a b) => Machine.run prog text fuel { m with tasks := .explore a pos :: .explore b pos :: m.tasks }
        | some (.save slot next) =>
          let old := (m.slots[slot]?).join
          Machine.run prog text fuel
            { m with slots := m.slots.set! slot (some pos), tasks := .explore next pos :: .restore slot old :: m.tasks }
        | some (.look l next) =>
          if l.holds text pos then Machine.run prog text fuel { m with tasks := .explore next pos :: m.tasks }
          else Machine.run prog text fuel m
        | some .accept => (some m.slots, m)
        | none => Machine.run prog text fuel m

/-- A compiled pattern with its capture groups. -/
structure Regex where
  program : Program
  /-- Number of capture groups, the whole match (group 0) included. -/
  groups : Nat
  names : List (String × Nat)

/-- The positions a match recorded, two slots per group. -/
structure Captures where
  slots : Array (Option Nat)

/-- The span of group `i`, if the group took part in the match. -/
def Captures.group (c : Captures) (i : Nat) : Option (Nat × Nat) :=
  match c.slots[2 * i]?, c.slots[2 * i + 1]? with
  | some (some s), some (some e) => some (s, e)
  | _, _ => none

/-- Compiles a pattern; one whose automaton would outgrow the memory limit is refused. -/
def Regex.compile (src : String) : Except PatternError Regex := do
  let parsed <- parse src
  unless parsed.root.fitsSizeLimit do throw .tooLarge
  pure ⟨Program.ofNode parsed.root, parsed.groups, parsed.names⟩

/-- The index of a named group. -/
def Regex.groupIndex? (r : Regex) (name : String) : Option Nat :=
  (r.names.find? (·.1 == name)).map (·.2)

/-- The leftmost-first match that starts at or after `start`. -/
def Regex.find? (r : Regex) (text : Array Char) (start : Nat) : Option Captures :=
  let prog := r.program
  let fuel := 3 * prog.insts.size * (text.size + 1) + 3
  let init : Machine := ⟨Array.replicate (2 * r.groups) none,
    Array.replicate (prog.insts.size * (text.size + 1)) false, []⟩
  let rec tryFrom : Nat -> Nat -> Machine -> Option Captures
    | 0, _, _ => none
    | k + 1, s, m =>
      match Machine.run prog text fuel { m with tasks := [.explore prog.entry s] } with
      | (some slots, _) => some ⟨slots⟩
      | (none, m') => tryFrom k (s + 1) m'
  tryFrom (text.size + 1 - start) start init

/-- Every match, in order, as successive searches find them. -/
def Regex.findAll (r : Regex) (text : Array Char) : List Captures :=
  go (2 * text.size + 4) 0 none
where
  go : Nat -> Nat -> Option Nat -> List Captures
    | 0, _, _ => []
    | fuel + 1, start, lastEnd =>
      match r.find? text start with
      | none => []
      | some m =>
        let (s, e) := (m.group 0).getD (start, start)
        -- an empty match where the last one ended is passed over
        let m? := if s == e && lastEnd == some e then
            if start + 1 <= text.size then r.find? text (start + 1) else none
          else some m
        match m? with
        | none => []
        | some m' =>
          let e' := ((m'.group 0).getD (start, start)).2
          m' :: go fuel e' (some e')

/-- Whether the pattern matches somewhere in the text. -/
def Regex.isMatch (r : Regex) (s : String) : Bool :=
  (r.find? s.toList.toArray 0).isSome

end TranscriptTest.Pattern
