import TranscriptTest.Pattern.Syntax

/-!
# Pattern programs

A pattern tree becomes a program for a backtracking machine. Instructions name their
successors by index; `split` tries its first successor before its second, which is how
alternatives and greedy or lazy repetitions express preference. Capture groups save the
position where they start and end into numbered slots (`2 i` and `2 i + 1`).
-/

namespace TranscriptTest.Pattern

/-- One instruction. -/
inductive Inst where
  /-- Consume one character of the set. -/
  | char (s : CharSet) (next : Nat)
  /-- Try `first`, then `second`. -/
  | split (first second : Nat)
  /-- Record the current position in a slot. -/
  | save (slot : Nat) (next : Nat)
  /-- Continue only if the assertion holds here. -/
  | look (l : Look) (next : Nat)
  /-- A match ends here. -/
  | accept
  deriving Inhabited

/-- Programs are built by appending instructions; an instruction's index is its address. -/
abbrev Build := StateM (Array Inst)

/-- Appends an instruction and returns its address. -/
def emit (i : Inst) : Build Nat :=
  modifyGet fun a => (a.size, a.push i)

/-- Replaces the instruction at an address. -/
def patch (at_ : Nat) (i : Inst) : Build Unit :=
  modify fun a => a.set! at_ i

/-- A split in order of preference: the body first when greedy. -/
def preferring (greedy : Bool) (body exit : Nat) : Inst :=
  if greedy then .split body exit else .split exit body

/-- `n` copies of a body in a row; `body k` compiles one copy continuing at `k`. -/
def copies (body : Nat -> Build Nat) : Nat -> Nat -> Build Nat
  | 0, k => pure k
  | n + 1, k => do
    let rest <- copies body n k
    body rest

/-- `n` optional copies: each may be skipped, and skipping one skips the rest. -/
def optionalCopies (body : Nat -> Build Nat) (greedy : Bool) (exit : Nat) : Nat -> Build Nat
  | 0 => pure exit
  | n + 1 => do
    let rest <- optionalCopies body greedy exit n
    let entry <- body rest
    emit (preferring greedy entry exit)

/-- A repetition between `lo` and `hi` times of a body whose least match length is
`minLen`. -/
def repetition (body : Nat -> Build Nat) (minLen : Nat) (lo : Nat) (hi : Option Nat)
    (greedy : Bool) (k : Nat) : Build Nat :=
  match lo, hi with
  | lo, some hi =>
    if hi <= lo then copies body lo k
    else do
      let optional <- optionalCopies body greedy k (hi - lo)
      copies body lo optional
  | 0, none =>
    if minLen > 0 then do
      let loop <- emit .accept
      let entry <- body loop
      patch loop (preferring greedy entry k)
      pure loop
    else do
      -- `(x+)?`: the loop back and the entry are different splits
      let again <- emit .accept
      let entry <- body again
      patch again (preferring greedy entry k)
      emit (preferring greedy entry k)
  | lo + 1, none => do
    let again <- emit .accept
    let last <- body again
    patch again (preferring greedy last k)
    copies body lo last

mutual
/-- Compiles a node so that a match continues at address `k`; returns the entry address. -/
def compileNode : Node -> Nat -> Build Nat
  | .empty, k => pure k
  | .char s, k => emit (.char s k)
  | .look l, k => emit (.look l k)
  | .group none b, k => compileNode b k
  | .group (some i) b, k => do
    let close <- emit (.save (2 * i + 1) k)
    let body <- compileNode b close
    emit (.save (2 * i) body)
  | .concat ps, k => compileSeq ps k
  | .alt bs, k => compileAlt bs k
  | .rep b lo hi greedy, k => repetition (fun k' => compileNode b k') b.minLen lo hi greedy k

/-- Compiles a sequence, last part first. -/
def compileSeq : List Node -> Nat -> Build Nat
  | [], k => pure k
  | p :: ps, k => do
    let rest <- compileSeq ps k
    compileNode p rest

/-- Compiles alternatives as a chain of splits, in order of preference. -/
def compileAlt : List Node -> Nat -> Build Nat
  | [], k => pure k
  | [b], k => compileNode b k
  | b :: bs, k => do
    let first <- compileNode b k
    let others <- compileAlt bs k
    emit (.split first others)
end

/-- A compiled pattern: instructions and entry address. -/
structure Program where
  insts : Array Inst
  entry : Nat

/-- Compiles a tree; a match is reported at a final `accept`. -/
def Program.ofNode (root : Node) : Program :=
  let (entry, insts) := (do
    let fin <- emit .accept
    compileNode root fin).run #[]
  ⟨insts, entry⟩

end TranscriptTest.Pattern
