import Std.Data.HashMap
import TranscriptTest.Pattern.Syntax

/-!
# The size limit of patterns

A pattern is refused when the automaton built to run it would be too large. That automaton is
a Thompson machine over bytes, built twice: once to run forwards, with a pair of states for
every capture group, and once to run backwards, without them. Either is refused once its
memory passes 10 MiB. Every state takes 32 bytes; a state that branches on byte ranges takes 8
more per range, and a state that splits the search takes 4 more per alternative.
-/

namespace TranscriptTest.Pattern

open TranscriptTest.Unicode

/-! ## Ranges of code points -/

/-- The largest code point. -/
def maxCode : Nat := 0x10FFFF

/-- Sorts inclusive ranges and merges those that overlap or touch, dropping empty ones. -/
def normalizeRanges (rs : List (Nat × Nat)) : List (Nat × Nat) :=
  let sorted := (rs.filter fun r => r.1 <= r.2).toArray.qsort (fun a b => a.1 < b.1)
  (sorted.foldl (fun acc r => match acc with
    | (lo, hi) :: rest => if r.1 <= hi + 1 then (lo, Nat.max hi r.2) :: rest else r :: acc
    | [] => [r]) []).reverse

/-- The code points outside sorted, disjoint ranges. -/
def complRanges (rs : List (Nat × Nat)) : List (Nat × Nat) :=
  let (acc, pos) := rs.foldl (fun (acc, pos) r =>
    ((if pos < r.1 then (pos, r.1 - 1) :: acc else acc), r.2 + 1)) (([] : List (Nat × Nat)), 0)
  (if pos <= maxCode then (pos, maxCode) :: acc else acc).reverse

/-- The union of two sets of ranges. -/
def unionRanges (a b : List (Nat × Nat)) : List (Nat × Nat) := normalizeRanges (a ++ b)

/-- The intersection of two sets of ranges. -/
def interRanges (a b : List (Nat × Nat)) : List (Nat × Nat) :=
  complRanges (unionRanges (complRanges a) (complRanges b))

/-- The code points of `a` not in `b`. -/
def diffRanges (a b : List (Nat × Nat)) : List (Nat × Nat) := interRanges a (complRanges b)

/-- The steps of the orbits of a folding. -/
def foldingSteps : Folding -> Array (Nat × Nat)
  | .legacy => legacySteps
  | _ => foldSteps

/-- The closure of ranges under a case folding: every character whose orbit meets them. -/
def closeRanges (fold : Folding) (rs : List (Nat × Nat)) : List (Nat × Nat) :=
  let table : RangeTable := ⟨rs.toArray⟩
  let extra := (foldingSteps fold).toList.flatMap fun (k, _) =>
    if table.containsNat k then (fold.orbit k).map fun d => (d, d) else []
  normalizeRanges (rs ++ extra)

/-- The code points of a set as sorted, disjoint, non-adjacent ranges. -/
def CharSet.ranges : CharSet -> List (Nat × Nat)
  | .range lo hi => if lo <= hi then [(lo, hi)] else []
  | .table t => normalizeRanges t.ranges.toList
  | .union a b => unionRanges a.ranges b.ranges
  | .inter a b => interRanges a.ranges b.ranges
  | .diff a b => diffRanges a.ranges b.ranges
  | .symmDiff a b =>
    let ra := a.ranges
    let rb := b.ranges
    unionRanges (diffRanges ra rb) (diffRanges rb ra)
  | .compl a => complRanges a.ranges
  | .caseless fold a => closeRanges fold a.ranges

/-! ## UTF-8 sequences -/

/-- The largest code point whose encoding takes `n` bytes. -/
def maxScalar : Nat -> Nat
  | 1 => 0x7F
  | 2 => 0x7FF
  | 3 => 0xFFFF
  | _ => maxCode

/-- The UTF-8 encoding of a code point. -/
def utf8Bytes (c : Nat) : List Nat :=
  if c < 0x80 then [c]
  else if c < 0x800 then [0xC0 + c / 64, 0x80 + c % 64]
  else if c < 0x10000 then [0xE0 + c / 4096, 0x80 + c / 64 % 64, 0x80 + c % 64]
  else [0xF0 + c / 262144, 0x80 + c / 4096 % 64, 0x80 + c / 64 % 64, 0x80 + c % 64]

/-- Splits a range whose ends differ in a leading byte but do not start or end a whole block of
the trailing ones, so that each part does. -/
def alignSplit (lo hi : Nat) : Option ((Nat × Nat) × (Nat × Nat)) :=
  [1, 2, 3].findSome? fun i =>
    let w := Nat.pow 64 i
    if lo / w != hi / w then
      if lo % w != 0 then some ((lo, lo - lo % w + w - 1), (lo - lo % w + w, hi))
      else if hi % w != w - 1 then some ((lo, hi - hi % w - 1), (hi - hi % w, hi))
      else none
    else none

/-- The UTF-8 sequences of the ranges on a stack, in order, onto `acc` (newest first). -/
def utf8SequencesInto : Nat -> List (Nat × Nat) -> List (List (Nat × Nat)) ->
    List (List (Nat × Nat))
  | 0, _, acc => acc
  | _, [], acc => acc
  | fuel + 1, (lo, hi) :: stack, acc =>
    if lo < 0xE000 && hi > 0xD7FF then
      utf8SequencesInto fuel ((lo, 0xD7FF) :: (0xE000, hi) :: stack) acc
    else if hi < lo then utf8SequencesInto fuel stack acc
    else match [1, 2, 3].find? (fun i => lo <= maxScalar i && maxScalar i < hi) with
      | some i => utf8SequencesInto fuel ((lo, maxScalar i) :: (maxScalar i + 1, hi) :: stack) acc
      | none =>
        if hi <= 0x7F then utf8SequencesInto fuel stack ([(lo, hi)] :: acc)
        else match alignSplit lo hi with
          | some (a, b) => utf8SequencesInto fuel (a :: b :: stack) acc
          | none => utf8SequencesInto fuel stack ((List.zip (utf8Bytes lo) (utf8Bytes hi)) :: acc)

/-- The UTF-8 sequences of sorted ranges, in order. -/
def utf8Sequences (rs : List (Nat × Nat)) : Array (Array (Nat × Nat)) :=
  ((utf8SequencesInto (64 * rs.length + 64) rs []).reverse.map List.toArray).toArray

/-! ## The simplified tree -/

/-- A pattern as the builder sees it, with the ranges of each class and their UTF-8 sequences
worked out once. -/
inductive Shape where
  | empty
  /-- A class; one of a single code point is a literal of its UTF-8 bytes. -/
  | cls (ranges : List (Nat × Nat)) (seqs : Array (Array (Nat × Nat)))
  | look
  | capture (body : Shape)
  | concat (parts : List Shape)
  | alt (branches : List Shape)
  /-- A repetition; `consumes` says that every match of the body is non-empty. -/
  | rep (body : Shape) (min : Nat) (max : Option Nat) (greedy : Bool) (consumes : Bool)
  deriving Inhabited

/-- A class of the given code points, surrogates left out. -/
def Shape.ofRanges (rs : List (Nat × Nat)) : Shape :=
  let rs := diffRanges rs [(0xD800, 0xDFFF)]
  .cls rs (utf8Sequences rs)

mutual
/-- Whether every match of a node is empty. -/
def Node.zeroWidth : Node -> Bool
  | .empty => true
  | .char _ => false
  | .look _ => true
  | .group _ b => b.zeroWidth
  | .concat ps => Node.allZeroWidth ps
  | .alt bs => Node.allZeroWidth bs
  | .rep b _ max _ => b.zeroWidth || max == some 0

/-- Whether every match of each node is empty. -/
def Node.allZeroWidth : List Node -> Bool
  | [] => true
  | n :: ns => n.zeroWidth && Node.allZeroWidth ns
end

/-- A sequence with nested sequences flattened and empty parts dropped. -/
def Shape.concatOf (parts : List Shape) : Shape :=
  let flat := parts.flatMap fun p => match p with
    | .concat qs => qs
    | .empty => []
    | p => [p]
  match flat with
  | [] => .empty
  | [p] => p
  | ps => .concat ps

/-- The ranges of every branch, when every branch is a class. -/
def classBranches : List Shape -> Option (List (Nat × Nat))
  | [] => some []
  | .cls rs _ :: bs => (classBranches bs).map (unionRanges rs)
  | _ :: _ => none

/-- An alternation with nested alternations flattened; one of classes only is their union. -/
def Shape.altOf (branches : List Shape) : Shape :=
  let flat := branches.flatMap fun b => match b with
    | .alt cs => cs
    | b => [b]
  match flat with
  | [] => .cls [] #[]
  | [b] => b
  | bs => match classBranches bs with
    | some rs => Shape.ofRanges rs
    | none => .alt bs

/-- A repetition as the builder takes it: one of a body that only matches the empty text runs at
most once, `x{0}` is empty and `x{1}` is `x`. -/
def Shape.repOf (body : Shape) (min : Nat) (max : Option Nat) (greedy zeroWidth consumes : Bool) :
    Shape :=
  let (min, max) := if zeroWidth then (Nat.min min 1, some (Nat.min (max.getD 1) 1)) else (min, max)
  if min == 0 && max == some 0 then .empty
  else if min == 1 && max == some 1 then body
  else .rep body min max greedy consumes

mutual
/-- The simplified tree of a node. -/
def Shape.ofNode : Node -> Shape
  | .empty => .empty
  | .char s => Shape.ofRanges s.ranges
  | .look _ => .look
  | .group none b => Shape.ofNode b
  | .group (some _) b => .capture (Shape.ofNode b)
  | .concat ps => Shape.concatOf (Shape.ofNodes ps)
  | .alt bs => Shape.altOf (Shape.ofNodes bs)
  | .rep b min max greedy => Shape.repOf (Shape.ofNode b) min max greedy b.zeroWidth (0 < b.minLen)

/-- The simplified trees of nodes. -/
def Shape.ofNodes : List Node -> List Shape
  | [] => []
  | n :: ns => Shape.ofNode n :: Shape.ofNodes ns
end

mutual
/-- The tree the backward machine is built from: every sequence reversed. -/
def Shape.mirror : Shape -> Shape
  | .capture b => .capture b.mirror
  | .concat ps => .concat (Shape.mirrorAll ps).reverse
  | .alt bs => .alt (Shape.mirrorAll bs)
  | .rep b min max greedy consumes => .rep b.mirror min max greedy consumes
  | s => s

/-- The mirrored trees of a list. -/
def Shape.mirrorAll : List Shape -> List Shape
  | [] => []
  | s :: ss => s.mirror :: Shape.mirrorAll ss
end

mutual
/-- Whether every match of a node starts at the start of the text (`atEnd`: ends at its end). -/
def Node.anchored (atEnd : Bool) : Node -> Bool
  | .look .textStart => !atEnd
  | .look .textEnd => atEnd
  | .group _ b => b.anchored atEnd
  | .concat ps => if atEnd then Node.anchoredTrail ps else Node.anchoredLead ps
  | .alt bs => !bs.isEmpty && Node.allAnchored atEnd bs
  | .rep b min _ _ => 0 < min && b.anchored atEnd
  | _ => false

/-- Whether a sequence starts anchored by one of its leading parts, up to the first that can be
non-empty. -/
def Node.anchoredLead : List Node -> Bool
  | [] => false
  | n :: ns => n.anchored false || (n.zeroWidth && Node.anchoredLead ns)

/-- Whether a sequence ends anchored by one of its trailing parts, back to the last that can be
non-empty. -/
def Node.anchoredTrail : List Node -> Bool
  | [] => false
  | n :: ns => Node.anchoredTrail ns || (Node.allZeroWidth ns && n.anchored true)

/-- Whether every branch is anchored. -/
def Node.allAnchored (atEnd : Bool) : List Node -> Bool
  | [] => true
  | n :: ns => n.anchored atEnd && Node.allAnchored atEnd ns
end

/-! ## Counting the memory -/

/-- The memory an automaton may take: 10 MiB. -/
def sizeLimit : Nat := 10 * 1024 * 1024

/-- The states built so far and the bytes their transitions and alternatives add. -/
structure Tally where
  states : Nat := 0
  extra : Nat := 0

/-- The memory of what is built: 32 bytes a state, and the extra bytes. -/
def Tally.memory (t : Tally) : Nat := 32 * t.states + t.extra

/-- Adds `n` states and `extra` bytes; `none` once the memory passes the limit. -/
def Tally.grow (t : Tally) (n extra : Nat) : Option Tally :=
  let t' : Tally := ⟨t.states + n, t.extra + extra⟩
  if t'.memory <= sizeLimit then some t' else none

/-- Adds one state. -/
def Tally.add (t : Tally) (extra : Nat) : Option Tally := t.grow 1 extra

/-- Points the end of a fragment somewhere: one alternative more when that end is a split. -/
def Tally.link (t : Tally) (split : Bool) : Option Tally :=
  if split then t.grow 0 4 else some t

/-- One round of the FNV-1a hash over 64-bit words. -/
def fnvMix (h : UInt64) (x : Nat) : UInt64 := (h ^^^ x.toUInt64) * 1099511628211

/-- The FNV-1a starting value. -/
def fnvStart : UInt64 := 14695981039346656037

/-- The cache slot of a state's transitions, each a byte range and a target. -/
def transSlot (trans : Array (Nat × Nat × Nat)) : Nat :=
  (trans.foldl (fun h (s, e, n) => fnvMix (fnvMix (fnvMix h s) e) n) fnvStart).toNat % 10000

/-- A state of the forward UTF-8 builder not yet added: its finished transitions and the byte
range of its last one, whose target is not known yet. -/
structure OpenState where
  trans : Array (Nat × Nat × Nat)
  last : Option (Nat × Nat)

/-- Gives the last transition its target. -/
def OpenState.close (o : OpenState) (target : Nat) : OpenState :=
  match o.last with
  | some (s, e) => ⟨o.trans.push (s, e, target), none⟩
  | none => o

/-- The forward UTF-8 builder: the next state's number, the bytes its transitions took, the
cache of states added (slot to transitions and state) and the open states, root first. -/
structure Utf8Build where
  next : Nat
  extra : Nat
  cache : Std.HashMap Nat (Array (Nat × Nat × Nat) × Nat)
  stack : Array OpenState

/-- Adds a state with these transitions, or reuses the one the cache holds for them. -/
def Utf8Build.intern (b : Utf8Build) (trans : Array (Nat × Nat × Nat)) : Utf8Build × Nat :=
  let slot := transSlot trans
  let fresh : Utf8Build × Nat :=
    ({ b with next := b.next + 1, extra := b.extra + 8 * trans.size,
              cache := b.cache.insert slot (trans, b.next) }, b.next)
  match b.cache[slot]? with
  | some (k, id) => if k == trans then (b, id) else fresh
  | none => fresh

/-- Adds the open states above depth `keep`, deepest first, each pointing to the next added, the
deepest to `target`; the top state points to the last added. -/
def Utf8Build.settle (b : Utf8Build) (target keep : Nat) : Utf8Build :=
  go b.stack.size b target
where
  go : Nat -> Utf8Build -> Nat -> Utf8Build
    | fuel + 1, b, next =>
      if keep + 1 < b.stack.size then
        match b.stack.back? with
        | some o =>
          let (b', id) := { b with stack := b.stack.pop }.intern (o.close next).trans
          go fuel b' id
        | none => b
      else { b with stack := b.stack.modify (b.stack.size - 1) (·.close next) }
    | 0, b, next => { b with stack := b.stack.modify (b.stack.size - 1) (·.close next) }

/-- Adds one sequence: what it shares with the open states stays open, the rest is settled and
the sequence's own ranges open new states. -/
def Utf8Build.addSeq (target : Nat) (b : Utf8Build) (seq : Array (Nat × Nat)) : Utf8Build :=
  let shared := ((seq.toList.zip b.stack.toList).takeWhile fun (r, o) => o.last == some r).length
  let b := b.settle target shared
  let stack := b.stack.modify (b.stack.size - 1) fun o => { o with last := seq[shared]? }
  let stack := (seq.extract (shared + 1) seq.size).foldl (fun st r => st.push ⟨#[], some r⟩) stack
  { b with stack := stack }

/-- The states and bytes the forward builder adds for a class's sequences, numbering from
`base`: a target state, then the shared tree of the sequences. -/
def forwardClassCost (seqs : Array (Array (Nat × Nat))) (base : Nat) : Nat × Nat :=
  let b : Utf8Build := ⟨base + 1, 0, {}, #[⟨#[], none⟩]⟩
  let b := seqs.foldl (Utf8Build.addSeq base) b
  let b := b.settle base 0
  let root := (b.stack[0]?.map (·.trans)).getD #[]
  let (b, _) := { b with stack := #[] }.intern root
  (b.next - base, b.extra)

/-- The cache slot of a state for a byte range leading to a state. -/
def suffixSlot (target lo hi : Nat) : Nat :=
  (fnvMix (fnvMix (fnvMix fnvStart target) lo) hi).toNat % 1000

/-- The states and bytes the backward builder adds for a class's sequences from `base`: a split,
an end state, and a state per byte range, sharing those the cache still holds. -/
def backwardClassCost (seqs : Array (Array (Nat × Nat))) (base : Nat) : Nat × Nat :=
  let finish := base + 1
  let step := fun (acc : Nat × Std.HashMap Nat ((Nat × Nat × Nat) × Nat)) (seq : Array (Nat × Nat)) =>
    let (next, cache, _) := seq.foldl (fun (next, cache, last) (lo, hi) =>
      let slot := suffixSlot last lo hi
      match cache[slot]? with
      | some (key, id) =>
        if key == (last, lo, hi) then (next, cache, id)
        else (next + 1, cache.insert slot ((last, lo, hi), next), next)
      | none => (next + 1, cache.insert slot ((last, lo, hi), next), next))
      (acc.1, acc.2, finish)
    (next, cache)
  let (next, _) := seqs.foldl step (base + 2, {})
  (next - base, 4 * seqs.size)

/-- Builds a class: a literal takes a state a byte; an ASCII class an end state and one that
branches on its ranges; any other class its UTF-8 sequences. -/
def Tally.addClass (t : Tally) (reverse : Bool) (rs : List (Nat × Nat))
    (seqs : Array (Array (Nat × Nat))) : Option (Bool × Tally) :=
  let built := match rs with
    | [(lo, hi)] => if lo == hi then t.grow (utf8Bytes lo).length 0 else general
    | _ => general
  built.map (false, ·)
where
  general : Option Tally :=
    if rs.all (·.2 <= 0x7F) then t.grow 2 (8 * rs.length)
    else
      let (n, extra) := if reverse then backwardClassCost seqs t.states
        else forwardClassCost seqs t.states
      t.grow n extra

/-- `n` more copies of a fragment after one that ended in a split or not (`split`). -/
def repeatedMore (one : Tally -> Option (Bool × Tally)) (split : Bool) :
    Nat -> Tally -> Option Tally
  | 0, t => some t
  | n + 1, t => match one t with
    | none => none
    | some (_, t) => match t.link split with
      | none => none
      | some t => repeatedMore one split n t

/-- `n` copies of a fragment in a row; none is an empty state. -/
def repeated (one : Tally -> Option (Bool × Tally)) : Nat -> Tally -> Option (Bool × Tally)
  | 0, t => (t.add 0).map (false, ·)
  | n + 1, t => do
    let (e, t) <- one t
    let t <- repeatedMore one e n t
    pure (e, t)

/-- The optional copies of a bounded repetition: each a split before a copy, both the copy and
the split's exit leading on. -/
def repeatedOptional (one : Tally -> Option (Bool × Tally)) : Nat -> Bool -> Tally -> Option (Bool × Tally)
  | 0, prev, t => some (prev, t)
  | n + 1, prev, t => do
    let t <- t.add 0
    let (e, t) <- one t
    let t <- t.link prev
    let t <- t.grow 0 8
    repeatedOptional one n e t

/-- Builds a repetition of a fragment. -/
def repeatSize (one : Tally -> Option (Bool × Tally)) (min : Nat) (max : Option Nat)
    (consumes : Bool) (t : Tally) : Option (Bool × Tally) :=
  match min, max with
  | 0, some 1 => do
    let t <- t.add 0
    let (e, t) <- one t
    let t <- t.add 0
    let t <- t.grow 0 8
    let t <- t.link e
    pure (false, t)
  | 0, none =>
    if consumes then do
      let t <- t.add 0
      let (e, t) <- one t
      let t <- t.grow 0 4
      let t <- t.link e
      pure (true, t)
    else do
      let (e, t) <- one t
      let t <- t.add 0
      let t <- t.link e
      let t <- t.grow 0 4
      let t <- t.add 0
      let t <- t.add 0
      let t <- t.grow 0 12
      pure (false, t)
  | 1, none => do
    let (e, t) <- one t
    let t <- t.add 0
    let t <- t.link e
    let t <- t.grow 0 4
    pure (true, t)
  | n + 2, none => do
    let (e, t) <- repeated one (n + 1) t
    let (e', t) <- one t
    let t <- t.add 0
    let t <- t.link e
    let t <- t.link e'
    let t <- t.grow 0 4
    pure (true, t)
  | lo, some hi =>
    if lo == hi then repeated one lo t
    else do
      let (e, t) <- repeated one lo t
      let t <- t.add 0
      let (last, t) <- repeatedOptional one (hi - lo) e t
      let t <- t.link last
      pure (false, t)

mutual
/-- Builds a fragment of the machine, forwards or backwards (`reverse`, where capture groups
take no states). -/
def Shape.size (reverse : Bool) : Shape -> Tally -> Option (Bool × Tally)
  | .empty, t => (t.add 0).map (false, ·)
  | .cls rs seqs, t => t.addClass reverse rs seqs
  | .look, t => (t.add 0).map (false, ·)
  | .capture b, t =>
    if reverse then b.size reverse t
    else do
      let t <- t.add 0
      let (e, t) <- b.size reverse t
      let t <- t.add 0
      let t <- t.link e
      pure (false, t)
  | .concat ps, t => Shape.sizeSeq reverse ps t
  | .alt [], t => (t.add 0).map (false, ·)
  | .alt [b], t => b.size reverse t
  | .alt (b1 :: b2 :: bs), t => do
    let (e1, t) <- b1.size reverse t
    let (e2, t) <- b2.size reverse t
    let t <- t.grow 2 8
    let t <- t.link e1
    let t <- t.link e2
    Shape.sizeBranches reverse bs t
  | .rep b min max _ consumes, t => repeatSize (b.size reverse) min max consumes t

/-- Builds a sequence, each part linked to the next. -/
def Shape.sizeSeq (reverse : Bool) : List Shape -> Tally -> Option (Bool × Tally)
  | [], t => (t.add 0).map (false, ·)
  | p :: ps, t => do
    let (e, t) <- p.size reverse t
    Shape.sizeRest reverse e ps t

/-- Builds the rest of a sequence after a part that ended in a split or not (`split`). -/
def Shape.sizeRest (reverse split : Bool) : List Shape -> Tally -> Option (Bool × Tally)
  | [], t => some (split, t)
  | p :: ps, t => do
    let (e, t) <- p.size reverse t
    let t <- t.link split
    Shape.sizeRest reverse e ps t

/-- Builds the branches of an alternation after its first two, each an alternative more of its
split and linked to its end. -/
def Shape.sizeBranches (reverse : Bool) : List Shape -> Tally -> Option (Bool × Tally)
  | [], t => some (false, t)
  | b :: bs, t => do
    let (e, t) <- b.size reverse t
    let t <- t.grow 0 4
    let t <- t.link e
    Shape.sizeBranches reverse bs t
end

/-- Whether the machine for a tree fits the limit. -/
def Shape.fits (s : Shape) (reverse anchored : Bool) : Bool :=
  let built : Option Tally := do
    let t : Tally := {}
    let (lead, t) ← if anchored then (t.add 0).map (false, ·) else do
      let t <- t.grow 3 12
      pure (true, t)
    let (e, t) <- s.size reverse t
    let t <- t.add 0
    let t <- t.link e
    t.link lead
  built.isSome

/-- Whether both machines for a pattern's tree fit the memory limit. -/
def Node.fitsSizeLimit (root : Node) : Bool :=
  let shape := Shape.ofNode root
  shape.fits false (root.anchored false) && shape.mirror.fits true (root.anchored true)

end TranscriptTest.Pattern
