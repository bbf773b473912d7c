import TranscriptTest.Identity.Normalizer

/-!
# Matching output

Expected and actual output match when they are equal after normalizing. In consistent-identity
mode a session also keeps, for each expected hash, the actual hash it first stood for; a later
pairing with another actual hash is refused. Bindings made before a refusal stay.
-/

namespace TranscriptTest.Identity

/-- The comparison state of one session. -/
structure Matcher where
  normalizer : Normalizer
  /-- Expected hash ↦ actual hash, oldest first. -/
  bindings : List (String × String) := []

/-- A fresh matcher. -/
def Normalizer.matcher (n : Normalizer) : Matcher := ⟨n, []⟩

/-- The actual hash an expected hash is bound to. -/
def Matcher.lookup (m : Matcher) (e : String) : Option String :=
  (m.bindings.find? (·.1 == e)).map (·.2)

/-- Pairs expected with actual hashes in order; stops at the first pair that contradicts a
binding. -/
def Matcher.bindAll (m : Matcher) : List (String × String) → Bool × Matcher
  | [] => (true, m)
  | (e, a) :: rest =>
    match m.lookup e with
    | some b => if b == a then m.bindAll rest else (false, m)
    | none => ({ m with bindings := m.bindings ++ [(e, a)] }).bindAll rest

/-- Compares expected with actual output; returns the answer and the updated matcher. -/
def Matcher.check (m : Matcher) (expected actual : String) : Bool × Matcher :=
  let n := m.normalizer
  if n.normalize expected != n.normalize actual then (false, m)
  else if !n.consistent then (true, m)
  else
    let es := n.hashes expected
    let as := n.hashes actual
    if es.length != as.length then (false, m)
    else m.bindAll (es.zip as)

end TranscriptTest.Identity
