import TranscriptTest.Replay.Run

/-!
# A replay stops at its first failure

A replay evaluates the prologue, then the statements in order, and stops at the first statement
that fails or whose output the session's matcher refuses. This file says exactly what it
submits, what steps it records and how it ends, for every sequence of answers.

What a replay does depends on its scope only through the answers it gets, in order, so the
statements here are about `Scope.answering r`, which answers its `i`-th evaluation with `r i`
and keeps what it was asked.

* `matcherBefore` threads the session's one matcher through the statements before a given one,
  and `passes` says whether a statement printed output that this matcher accepts;
* `stopIndex` is the first statement that does not pass (the number of statements when all do);
* `runStatements_answering` is the loop invariant of the statement loop, and
  `execute_stops_at_first_failure` the whole replay.
-/

namespace TranscriptTest.Replay

open TranscriptTest.Identity TranscriptTest.Transcript

/-- A scope that answers its `i`-th evaluation with `r i`, whatever it is asked, and keeps the
sources it was asked, in order. -/
def Scope.answering (r : Nat → Evaluation) : Scope (Nat × List String) :=
  ⟨fun (i, asked) src => (r i, (i + 1, asked ++ [src]))⟩

@[simp] theorem Scope.answering_evaluate (r : Nat → Evaluation) (i : Nat) (asked : List String)
    (src : String) :
    (Scope.answering r).evaluate (i, asked) src = (r i, (i + 1, asked ++ [src])) :=
  rfl

/-! ## What each statement gets -/

section Spec

variable (N : Normalizer) (ss : List Statement) (res : Nat → Evaluation)

/-- The matcher statement `j` is compared with: the session's matcher, threaded through the
outputs of the statements before it. -/
def matcherBefore : Nat → Matcher
  | 0 => N.matcher
  | j + 1 =>
    match res j with
    | .ok o => ((matcherBefore j).check (ss.getD j default).expectedText (comparableActual o)).2
    | .error _ => matcherBefore j

/-- Whether statement `j` printed output that its matcher accepts. -/
def passes (j : Nat) : Bool :=
  match res j with
  | .ok o =>
    ((matcherBefore N ss res j).check (ss.getD j default).expectedText (comparableActual o)).1
  | .error _ => false

/-- The step recorded for statement `j`. -/
def stepFor (j : Nat) : Step :=
  match res j with
  | .ok o => ⟨some j, .output o, passes N ss res j⟩
  | .error f => ⟨some j, .thrown f.message, false⟩

/-- How a replay ends when it stops at statement `k`. -/
def stopOutcome (k : Nat) : Outcome :=
  match res k with
  | .ok o => .mismatched k (ss.getD k default).expectedText (comparableActual o)
  | .error f => .errored (some k) f.message

/-- The first statement that does not pass; the number of statements when all pass. -/
def stopIndex : Nat :=
  ((List.range ss.length).find? fun j => !passes N ss res j).getD ss.length

theorem stopIndex_le : stopIndex N ss res ≤ ss.length := by
  unfold stopIndex
  cases h : (List.range ss.length).find? (fun j => !passes N ss res j) with
  | none => simp
  | some k =>
    have hk := (List.find?_range_eq_some.mp h).2.1
    simpa using Nat.le_of_lt (List.mem_range.mp hk)

/-- Every statement before the stop passes. -/
theorem passes_of_lt_stopIndex {j : Nat} (hj : j < stopIndex N ss res) : passes N ss res j = true := by
  unfold stopIndex at hj
  cases h : (List.range ss.length).find? (fun j => !passes N ss res j) with
  | none =>
    rw [h, Option.getD_none] at hj
    simpa using List.find?_range_eq_none.mp h j hj
  | some k =>
    rw [h, Option.getD_some] at hj
    simpa using (List.find?_range_eq_some.mp h).2.2 j hj

/-- A statement at or before the stop that does not pass is the stop. -/
theorem stopIndex_eq_of_not_passes {j : Nat} (hj : j ≤ stopIndex N ss res)
    (hfail : passes N ss res j = false) : stopIndex N ss res = j := by
  rcases Nat.lt_or_eq_of_le hj with hlt | heq
  · have := passes_of_lt_stopIndex N ss res hlt
    rw [hfail] at this
    contradiction
  · exact heq.symm

/-- The stop, when it is a statement, does not pass. -/
theorem not_passes_stopIndex (hk : stopIndex N ss res < ss.length) :
    passes N ss res (stopIndex N ss res) = false := by
  unfold stopIndex at hk ⊢
  cases h : (List.range ss.length).find? (fun j => !passes N ss res j) with
  | none =>
    rw [h, Option.getD_none] at hk
    exact absurd hk (Nat.lt_irrefl _)
  | some k => simpa using (List.find?_range_eq_some.mp h).1

theorem passes_eq_false_of_error {j : Nat} {f : Failure} (h : res j = .error f) :
    passes N ss res j = false := by
  simp [passes, h]

end Spec

theorem getD_of_drop_eq_cons {α : Type} {l rest : List α} {i : Nat} {x d : α}
    (h : l.drop i = x :: rest) : l.getD i d = x := by
  rw [List.getD_eq_getElem?_getD, ← List.head?_drop, h]
  rfl

/-! ## The statement loop -/

section Loop

variable (sess : Session) (N : Normalizer) (r : Nat → Evaluation) (c : Nat)

/-- One turn of the statement loop, for a statement that passes: its step is recorded, the
matcher moves on, and the loop goes on with the next statement. -/
theorem runStatements_answering_pass {idx : Nat} {s : Statement} {rest : List Statement}
    (hs : sess.statements.drop idx = s :: rest) (pre : List Step) (asked : List String)
    (hpass : passes N sess.statements (fun j => r (j + c)) idx = true) :
    runStatements (Scope.answering r)
        ⟨sess, matcherBefore N sess.statements (fun j => r (j + c)) idx, pre⟩
        (idx + c, asked) idx (s :: rest) =
      runStatements (Scope.answering r)
        ⟨sess, matcherBefore N sess.statements (fun j => r (j + c)) (idx + 1),
          pre ++ [stepFor N sess.statements (fun j => r (j + c)) idx]⟩
        (idx + 1 + c, asked ++ [s.source]) (idx + 1) rest := by
  have hget : sess.statements.getD idx default = s := getD_of_drop_eq_cons hs
  cases hr : r (idx + c) with
  | error f =>
    have := passes_eq_false_of_error N sess.statements (fun j => r (j + c)) hr
    rw [hpass] at this
    contradiction
  | ok o =>
    simp only [passes, hr, hget] at hpass
    simp only [runStatements, Scope.answering_evaluate, Replay.step, hr, hget, hpass, if_true,
      matcherBefore, stepFor, passes, Nat.add_right_comm idx 1 c]

/-- The turn of the statement loop at a statement that does not pass: its step is recorded and
the replay ends there. -/
theorem runStatements_answering_stop {idx : Nat} {s : Statement} {rest : List Statement}
    (hs : sess.statements.drop idx = s :: rest) (pre : List Step) (asked : List String)
    (hfail : passes N sess.statements (fun j => r (j + c)) idx = false) :
    runStatements (Scope.answering r)
        ⟨sess, matcherBefore N sess.statements (fun j => r (j + c)) idx, pre⟩
        (idx + c, asked) idx (s :: rest) =
      (⟨pre ++ [stepFor N sess.statements (fun j => r (j + c)) idx],
          stopOutcome sess.statements (fun j => r (j + c)) idx⟩,
        (idx + c + 1, asked ++ [s.source])) := by
  have hget : sess.statements.getD idx default = s := getD_of_drop_eq_cons hs
  cases hr : r (idx + c) with
  | error f =>
    simp only [runStatements, Scope.answering_evaluate, Replay.step, hr, stepFor, stopOutcome]
  | ok o =>
    simp only [passes, hr, hget] at hfail
    simp only [runStatements, Scope.answering_evaluate, Replay.step, hr, hget, hfail,
      Bool.false_eq_true, if_false, stepFor, stopOutcome, passes]

/-- The loop invariant of the statement loop: when the loop reaches statement `idx` at or before
the stop, every earlier statement has been submitted and recorded and the matcher is the one
threaded through them; from there the loop submits the statements up to the stop and ends
there, or after the last statement when every statement passes. -/
theorem runStatements_answering (pre : List Step) (asked : List String) :
    ∀ idx, idx ≤ stopIndex N sess.statements (fun j => r (j + c)) →
      runStatements (Scope.answering r)
          ⟨sess, matcherBefore N sess.statements (fun j => r (j + c)) idx,
            pre ++ (List.range idx).map (stepFor N sess.statements (fun j => r (j + c)))⟩
          (idx + c, asked ++ (sess.statements.take idx).map Statement.source) idx
          (sess.statements.drop idx) =
        let k := stopIndex N sess.statements (fun j => r (j + c))
        (⟨pre ++ (List.range (min (k + 1) sess.statements.length)).map
              (stepFor N sess.statements (fun j => r (j + c))),
            if k < sess.statements.length then stopOutcome sess.statements (fun j => r (j + c)) k
            else .matched⟩,
          (min (k + 1) sess.statements.length + c,
            asked ++ (sess.statements.take (k + 1)).map Statement.source)) := by
  -- the loop runs over the statements not yet submitted; `idx` counts those that were
  intro idx hidx
  generalize hrest : sess.statements.drop idx = rest
  induction rest generalizing idx with
  | nil =>
    -- past the last statement: every statement passed
    have hlen : sess.statements.length ≤ idx := List.drop_eq_nil_iff.mp hrest
    have hk := stopIndex_le N sess.statements (fun j => r (j + c))
    have hidx' : stopIndex N sess.statements (fun j => r (j + c)) = sess.statements.length := by
      omega
    have heq : idx = sess.statements.length := by omega
    subst heq
    simp [runStatements, hidx', List.take_of_length_le]
  | cons s rest ih =>
    have hn : idx < sess.statements.length := by
      have hlen := congrArg List.length hrest
      rw [List.length_drop, List.length_cons] at hlen
      omega
    have htake : sess.statements.take (idx + 1) = sess.statements.take idx ++ [s] := by
      rw [List.take_add_one, ← List.head?_drop, hrest]
      rfl
    have hrange : List.range (idx + 1) = List.range idx ++ [idx] := List.range_succ
    cases hp : passes N sess.statements (fun j => r (j + c)) idx with
    | true =>
      have hlt : idx < stopIndex N sess.statements (fun j => r (j + c)) := by
        rcases Nat.lt_or_eq_of_le hidx with hlt | heq
        · exact hlt
        · have hstop := not_passes_stopIndex N sess.statements (fun j => r (j + c)) (heq ▸ hn)
          rw [← heq, hp] at hstop
          contradiction
      rw [runStatements_answering_pass sess N r c hrest _ _ hp]
      have hnext := ih (idx + 1) hlt (by rw [← List.drop_drop, hrest]; rfl)
      rw [hrange, htake] at hnext
      simpa only [List.map_append, List.map_singleton, List.append_assoc] using hnext
    | false =>
      have hstop := stopIndex_eq_of_not_passes N sess.statements (fun j => r (j + c)) hidx hp
      have hmin : min (idx + 1) sess.statements.length = idx + 1 := Nat.min_eq_left hn
      rw [runStatements_answering_stop sess N r c hrest _ _ hp]
      simp only [hstop, hmin]
      simp [hn, htake, hrange, Nat.add_right_comm]

end Loop

/-! ## The whole replay -/

/-- The answers the statements get: those after the prologue's, when there is a prologue. -/
def statementAnswers (prologue : Option String) (r : Nat → Evaluation) : Nat → Evaluation :=
  fun j => r (j + prologue.toList.length)

/-- The prologue's failure, when there is a prologue and it failed. -/
def prologueFailure : Option String → Evaluation → Option Failure
  | some _, .error f => some f
  | _, _ => none

/-- The step recorded for a prologue that ran without failing. -/
def prologueSteps : Option String → Evaluation → List Step
  | some _, .ok o => [⟨none, .output o, true⟩]
  | _, _ => []

theorem stopOutcome_ne_matched (ss : List Statement) (res : Nat → Evaluation) (k : Nat) :
    stopOutcome ss res k ≠ .matched := by
  unfold stopOutcome
  cases res k <;> simp

/-- All statements pass exactly when the stop lies past the last one. -/
theorem stopIndex_eq_length_iff (N : Normalizer) (ss : List Statement) (res : Nat → Evaluation) :
    stopIndex N ss res = ss.length ↔ ∀ j < ss.length, passes N ss res j = true := by
  constructor
  · intro h j hj
    exact passes_of_lt_stopIndex N ss res (h ▸ hj)
  · intro h
    have hle := stopIndex_le N ss res
    rcases Nat.lt_or_eq_of_le hle with hlt | heq
    · have := not_passes_stopIndex N ss res hlt
      rw [h _ hlt] at this
      contradiction
    · exact heq

/-- The replay when the prologue did not fail: the statement loop from the first statement, after
the prologue's step. -/
theorem execute_answering_of_prologueFailure_eq_none (s : Session) (p : Option String)
    (N : Normalizer) (r : Nat → Evaluation) (hp : prologueFailure p (r 0) = none) :
    execute (Scope.answering r) (0, []) s p N =
      runStatements (Scope.answering r)
        ⟨s, matcherBefore N s.statements (statementAnswers p r) 0, prologueSteps p (r 0)⟩
        (0 + p.toList.length, p.toList) 0 (s.statements.drop 0) := by
  cases p with
  | none => rfl
  | some src =>
    cases hr : r 0 with
    | error f => simp [prologueFailure, hr] at hp
    | ok o => simp [execute, Replay.prologue, hr, prologueSteps, matcherBefore]

/-- What a replay submits, records and ends with, for every sequence of answers: the prologue
first, then the statements in order up to the first one that fails or whose output the
session's one matcher refuses. A failed prologue ends the replay before any statement. The
replay matches exactly when the prologue did not fail and every statement passed. -/
theorem execute_stops_at_first_failure (s : Session) (p : Option String) (N : Normalizer)
    (r : Nat → Evaluation) :
    let run := execute (Scope.answering r) (0, []) s p N
    let res := statementAnswers p r
    let n := s.statements.length
    let k := stopIndex N s.statements res
    (∀ f, prologueFailure p (r 0) = some f →
      run.2.2 = p.toList ∧
        run.1 = ⟨[⟨none, .thrown f.message, false⟩], .errored none f.message⟩) ∧
    (prologueFailure p (r 0) = none →
      run.2.2 = p.toList ++ (s.statements.take (k + 1)).map Statement.source ∧
        run.1.steps = prologueSteps p (r 0) ++
          (List.range (min (k + 1) n)).map (stepFor N s.statements res) ∧
        (∀ j < k, passes N s.statements res j = true) ∧
        run.1.outcome = if k < n then stopOutcome s.statements res k else .matched) ∧
    (run.1.outcome = .matched ↔
      prologueFailure p (r 0) = none ∧ ∀ j < n, passes N s.statements res j = true) := by
  intro run res n k
  -- the replay when the prologue did not fail, from the loop invariant at the first statement
  have hok : prologueFailure p (r 0) = none →
      run.2.2 = p.toList ++ (s.statements.take (k + 1)).map Statement.source ∧
        run.1.steps = prologueSteps p (r 0) ++
          (List.range (min (k + 1) n)).map (stepFor N s.statements res) ∧
        run.1.outcome = if k < n then stopOutcome s.statements res k else .matched := by
    intro hp
    have hloop := runStatements_answering s N r p.toList.length (prologueSteps p (r 0)) p.toList
      0 (Nat.zero_le _)
    simp only [List.range_zero, List.map_nil, List.append_nil, List.take_zero] at hloop
    have hrun : run = _ := execute_answering_of_prologueFailure_eq_none s p N r hp
    rw [hrun]
    exact ⟨congrArg (·.2.2) hloop, congrArg (·.1.steps) hloop, congrArg (·.1.outcome) hloop⟩
  -- a failed prologue ends the replay at once
  have hfail : ∀ f, prologueFailure p (r 0) = some f →
      run.2.2 = p.toList ∧
        run.1 = ⟨[⟨none, .thrown f.message, false⟩], .errored none f.message⟩ := by
    intro f hf
    cases p with
    | none => simp [prologueFailure] at hf
    | some src =>
      cases hr : r 0 with
      | ok o => simp [prologueFailure, hr] at hf
      | error g =>
        simp only [prologueFailure, hr, Option.some.injEq] at hf
        subst hf
        simp [run, execute, Replay.prologue, hr]
  refine ⟨hfail, fun hp => ?_, ?_⟩
  · obtain ⟨hasked, hsteps, hout⟩ := hok hp
    exact ⟨hasked, hsteps, fun j hj => passes_of_lt_stopIndex N s.statements res hj, hout⟩
  · cases hp : prologueFailure p (r 0) with
    | some f =>
      rw [(hfail f hp).2]
      simp
    | none =>
      rw [(hok hp).2.2, ← stopIndex_eq_length_iff]
      have hle := stopIndex_le N s.statements res
      by_cases hk : k < n
      · simp only [hk, if_true, stopOutcome_ne_matched, false_iff]
        simp only [k, n] at hk ⊢
        omega
      · simp only [hk, if_false, true_iff, true_and]
        simp only [k, n] at hk ⊢
        omega


end TranscriptTest.Replay
