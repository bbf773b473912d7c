import TranscriptTest.Replay.Pooled
import TranscriptTest.Proofs.Replay

/-!
# The pooled replay refines the replay

A pooled interpreter runs the replay loop of its own on a process from the pool, noting along
the way whether a result poisoned the process. It gives exactly the execution `execute` gives on
a scope with the same answers, and it takes the process out of the pool exactly when the last
answer of the replay was a failure other than a thrown error
(`pooledRunSession_refines_execute`).

The poison flag is carried by a scope that notes it beside its state (`Scope.tracking`); a replay
on a scope that follows another through a map of states does what the replay on the other does
(`execute_map`), which reduces the pooled loop to `execute`. Every answer before the last one was
printed output, since the replay stops at its first failure, so the flag is the last answer's.
-/

namespace TranscriptTest.Replay

open TranscriptTest.Identity TranscriptTest.Transcript

/-- A scope that also notes whether an answer so far poisoned the process. -/
def Scope.tracking {σ : Type} (scope : Scope σ) : Scope (σ × Bool) :=
  ⟨fun (st, poisoned) src =>
    let (result, st) := scope.evaluate st src
    (result, (st, poisoned || poisons result))⟩

theorem poisons_eq_true_iff (e : Evaluation) :
    poisons e = true ↔ ∃ f, e = .error f ∧ ∀ m, f ≠ .thrown m := by
  cases e with
  | ok o => simp [poisons]
  | error f => cases f <;> simp [poisons, Failure.recoverable]

/-! ## Replays on scopes that follow one another -/

section Map

variable {α β : Type} {A : Scope α} {B : Scope β} (f : α → β)
  (hf : ∀ a src, B.evaluate (f a) src = ((A.evaluate a src).1, f (A.evaluate a src).2))
include hf

/-- The statement loop on a scope that follows `A` through `f`. -/
theorem runStatements_map (r : Replay) (a : α) (idx : Nat) (ss : List Statement) :
    runStatements B r (f a) idx ss =
      ((runStatements A r a idx ss).1, f (runStatements A r a idx ss).2) := by
  induction ss generalizing r a idx with
  | nil => rfl
  | cons s rest ih =>
    simp only [runStatements, hf]
    split <;> simp_all

/-- A replay on a scope that follows `A` through `f`. -/
theorem execute_map (a : α) (sess : Session) (p : Option String) (N : Normalizer) :
    execute B (f a) sess p N = ((execute A a sess p N).1, f (execute A a sess p N).2) := by
  cases p with
  | none => exact runStatements_map f hf _ a 0 _
  | some src =>
    simp only [execute, hf]
    split
    · rename_i heq
      simp only [heq]
    · rename_i heq
      simp only [heq]
      exact runStatements_map f hf _ _ 0 _

end Map

/-! ## The pooled loop -/

/-- The pooled statement loop is the statement loop on the tracking scope. -/
theorem pooledStatements_eq {σ : Type} (scope : Scope σ) (r : Replay) (st : σ) (poisoned : Bool)
    (idx : Nat) (ss : List Statement) :
    let p := pooledStatements scope r st poisoned idx ss
    runStatements scope.tracking r (st, poisoned) idx ss = (⟨p.2.1.steps, p.1⟩, p.2.2) := by
  induction ss generalizing r st poisoned idx with
  | nil => rfl
  | cons s rest ih =>
    simp only [pooledStatements, runStatements, Scope.tracking]
    -- both loops branch on the same step of the replay
    cases r.step idx (scope.evaluate st s.source).1 with
    | mk step r' =>
      cases step with
      | none => exact ih ..
      | some outcome => rfl

/-- A pooled replay on a process is the replay on the tracking scope; the process goes back to
the pool when no answer poisoned it. -/
theorem pooledRunSession_ok {σ : Type} (scope : Scope σ) (st : σ) (sess : Session)
    (p : Option String) (N : Normalizer) :
    let run := execute scope.tracking (st, false) sess p N
    pooledRunSession scope (.ok st) sess p N = (run.1, if run.2.2 then none else some run.2.1) := by
  cases p with
  | none =>
    simp only [pooledRunSession, execute, pooledStatements_eq]
  | some src =>
    have hfirst : scope.tracking.evaluate (st, false) src =
        ((scope.evaluate st src).1, (scope.evaluate st src).2, poisons (scope.evaluate st src).1) := by
      simp [Scope.tracking]
    simp only [pooledRunSession, execute, hfirst]
    split
    · rename_i heq
      simp only [heq]
    · rename_i heq
      simp only [heq, pooledStatements_eq]

/-! ## Answers in order -/

/-- Whether one of the first `i` answers poisons the process. -/
def anyPoisons (r : Nat → Evaluation) (i : Nat) : Bool :=
  (List.range i).any fun j => poisons (r j)

/-- The tracking scope on a scope answering in order notes whether an answer so far poisoned the
process. -/
theorem execute_tracking_answering (r : Nat → Evaluation) (sess : Session) (p : Option String)
    (N : Normalizer) :
    let run := execute (Scope.answering r) (0, []) sess p N
    execute (Scope.answering r).tracking ((0, []), false) sess p N =
      (run.1, (run.2, anyPoisons r run.2.1)) := by
  have hf : ∀ (a : Nat × List String) src,
      (Scope.answering r).tracking.evaluate (a, anyPoisons r a.1) src =
        (((Scope.answering r).evaluate a src).1,
          ((Scope.answering r).evaluate a src).2, anyPoisons r ((Scope.answering r).evaluate a src).2.1) := by
    rintro ⟨i, asked⟩ src
    simp [Scope.tracking, anyPoisons, List.range_succ]
  exact execute_map (fun a => (a, anyPoisons r a.1)) hf (0, []) sess p N

theorem ok_of_passes {N : Normalizer} {ss : List Statement} {res : Nat → Evaluation} {j : Nat}
    (h : passes N ss res j = true) : ∃ o, res j = .ok o := by
  cases hr : res j with
  | ok o => exact ⟨o, rfl⟩
  | error f => simp [passes_eq_false_of_error N ss res hr] at h

/-- The number of answers a replay takes, and that every answer but its last one was printed
output. -/
theorem execute_answering_before_last (r : Nat → Evaluation) (sess : Session) (p : Option String)
    (N : Normalizer) :
    let n := (execute (Scope.answering r) (0, []) sess p N).2.1
    ∀ j, j + 1 < n → ∃ o, r j = .ok o := by
  intro n j hj
  cases hp : prologueFailure p (r 0) with
  | some f =>
    -- a failed prologue is the only answer taken
    have hone : n = 1 := by
      cases p with
      | none => simp [prologueFailure] at hp
      | some src =>
        cases hr : r 0 with
        | ok o => simp [prologueFailure, hr] at hp
        | error g => simp [n, execute, Replay.prologue, hr]
    omega
  | none =>
    -- the prologue's answer, then the statements' up to the stop
    let k := stopIndex N sess.statements (statementAnswers p r)
    have hloop := runStatements_answering sess N r p.toList.length (prologueSteps p (r 0)) p.toList
      0 (Nat.zero_le _)
    simp only [List.range_zero, List.map_nil, List.append_nil, List.take_zero] at hloop
    have hn : n = min (k + 1) sess.statements.length + p.toList.length := by
      simp only [n, execute_answering_of_prologueFailure_eq_none sess p N r hp]
      exact congrArg (·.2.1) hloop
    by_cases hj0 : j < p.toList.length
    · -- the prologue's answer, which did not fail
      cases p with
      | none => simp at hj0
      | some src =>
        have hj : j = 0 := by simpa using hj0
        subst hj
        cases hr : r 0 with
        | ok o => exact ⟨o, rfl⟩
        | error g => simp [prologueFailure, hr] at hp
    · -- a statement before the stop, which passed
      have hlt : j - p.toList.length < k := by omega
      obtain ⟨o, ho⟩ := ok_of_passes (passes_of_lt_stopIndex N sess.statements _ hlt)
      refine ⟨o, ?_⟩
      simpa [statementAnswers, Nat.sub_add_cancel (Nat.le_of_not_lt hj0)] using ho

/-- The pooled replay gives the execution the replay gives on a scope answering the same results
in order, and takes the process out of the pool exactly when the last answer of the replay was a
failure other than a thrown error; otherwise the process goes back to the pool as the replay left
it. A pool with no process to give ends the replay before any step. -/
theorem pooledRunSession_refines_execute (sess : Session) (p : Option String) (N : Normalizer)
    (r : Nat → Evaluation) :
    let run := execute (Scope.answering r) (0, []) sess p N
    let pooled := pooledRunSession (Scope.answering r) (.ok (0, [])) sess p N
    pooled.1 = run.1 ∧
      (pooled.2 = none ↔ 0 < run.2.1 ∧ ∃ f, r (run.2.1 - 1) = .error f ∧ ∀ m, f ≠ .thrown m) ∧
      (pooled.2 = none ∨ pooled.2 = some run.2) ∧
      ∀ e, pooledRunSession (Scope.answering r) (.error e) sess p N =
        (⟨[], .errored none ("No interpreter process available: " ++ e)⟩, none) := by
  intro run pooled
  have hpooled : pooled = (run.1, if anyPoisons r run.2.1 then none else some run.2) := by
    simp only [pooled, pooledRunSession_ok, execute_tracking_answering]
    rfl
  -- the answers before the last were printed output, so only the last can poison
  have hany : anyPoisons r run.2.1 = true ↔
      0 < run.2.1 ∧ ∃ f, r (run.2.1 - 1) = .error f ∧ ∀ m, f ≠ .thrown m := by
    rw [← poisons_eq_true_iff]
    simp only [anyPoisons, List.any_eq_true, List.mem_range]
    constructor
    · rintro ⟨j, hj, hpo⟩
      by_cases hlast : j + 1 < run.2.1
      · obtain ⟨o, ho⟩ := execute_answering_before_last r sess p N j hlast
        simp [ho, poisons] at hpo
      · have : j = run.2.1 - 1 := by omega
        exact ⟨by omega, this ▸ hpo⟩
    · rintro ⟨hpos, hpo⟩
      exact ⟨run.2.1 - 1, by omega, hpo⟩
  rw [hpooled, ← hany]
  refine ⟨rfl, ?_, ?_, fun e => rfl⟩
  · cases anyPoisons r run.2.1 <;> simp
  · cases anyPoisons r run.2.1 <;> simp

end TranscriptTest.Replay
