import TranscriptTest.Verdict.Parallel

/-!
# Judging and counting

Judging turns a replay's outcome and the session's `EXPECT FAIL` marker into a verdict, counts
it, and reports at most one message. `judge_counts_and_reports_once` says what it counts,
returns and reports for every outcome. `parallel_batch_is_exact` says that a batch run in
parallel, under any interleaving of its tasks, collects each session's own result in order and
raises the shared counters by exactly the tally of those results.

Counters are read one verdict at a time through `Tally.count`: one increment moves one count
(`Tally.count_record`), so increments in any order add up to how often each verdict occurs
(`Tally.count_foldl_record`). The invariant of a batch run, `BatchInv`, says that each task is a
stage of its own session's task and that the counters hold the verdicts counted so far.
-/

namespace TranscriptTest.Verdict

open TranscriptTest.Replay TranscriptTest.Transcript

/-! ## Counting -/

/-- The count of one verdict. -/
def Tally.count (t : Tally) : Verdict → Nat
  | .expectedPass => t.expectedPass
  | .expectedFail => t.expectedFail
  | .unexpectedPass => t.unexpectedPass
  | .unexpectedFail => t.unexpectedFail

@[simp] theorem Tally.count_empty (w : Verdict) : ({} : Tally).count w = 0 := by
  cases w <;> rfl

/-- Counting a verdict raises its count by one and leaves the others. -/
theorem Tally.count_record (t : Tally) (v w : Verdict) :
    (t.record v).count w = t.count w + if w = v then 1 else 0 := by
  cases v <;> cases w <;> rfl

/-- Verdicts counted one after the other, in any order, add up how often each occurs. -/
theorem Tally.count_foldl_record (vs : List Verdict) (t : Tally) (w : Verdict) :
    (vs.foldl Tally.record t).count w = t.count w + vs.countP (· = w) := by
  induction vs generalizing t with
  | nil => simp
  | cons v vs ih =>
    rw [List.foldl_cons, ih, count_record, List.countP_cons]
    by_cases h : w = v
    · subst h
      simp only [if_true, decide_true]
      omega
    · simp [h, Ne.symm h]

theorem Tally.count_ofVerdicts (vs : List Verdict) (w : Verdict) :
    (Tally.ofVerdicts vs).count w = vs.countP (· = w) := by
  simpa [ofVerdicts] using count_foldl_record vs {} w

theorem Tally.total_ofVerdicts (vs : List Verdict) : (Tally.ofVerdicts vs).total = vs.length := by
  -- each increment adds one to the total
  have step : ∀ (t : Tally) v, (t.record v).total = t.total + 1 := by
    intro t v
    cases v <;> simp only [record, total] <;> omega
  suffices ∀ t : Tally, (vs.foldl Tally.record t).total = t.total + vs.length by
    simpa [ofVerdicts, total] using this {}
  induction vs with
  | nil => simp
  | cons v vs ih =>
    intro t
    rw [List.foldl_cons, ih, step, List.length_cons]
    omega

theorem isExpected_iff (v : Verdict) :
    v.isExpected = true ↔ v ≠ .unexpectedPass ∧ v ≠ .unexpectedFail := by
  cases v <;> simp [isExpected]

/-- Nothing unexpected is counted exactly when every verdict was announced. -/
theorem Tally.unexpected_ofVerdicts_eq_zero (vs : List Verdict) :
    (Tally.ofVerdicts vs).unexpected = 0 ↔ ∀ v ∈ vs, v.isExpected = true := by
  have h : (Tally.ofVerdicts vs).unexpected =
      (Tally.ofVerdicts vs).count .unexpectedPass + (Tally.ofVerdicts vs).count .unexpectedFail :=
    rfl
  simp only [h, count_ofVerdicts, Nat.add_eq_zero_iff, List.countP_eq_zero, decide_eq_true_eq,
    Verdict.isExpected_iff]
  exact ⟨fun ⟨hp, hf⟩ v hv => ⟨hp v hv, hf v hv⟩, fun h => ⟨fun v hv => (h v hv).1,
    fun v hv => (h v hv).2⟩⟩

/-! ## Judging one session -/

/-- An outcome other than a match has a failure text. -/
theorem failureText_isSome (s : Session) {o : Outcome} (h : o.isMatched = false) :
    ∃ text, failureText s o = some text := by
  cases o with
  | matched => cases h
  | mismatched => exact ⟨_, rfl⟩
  | errored i => cases i <;> exact ⟨_, rfl⟩

/-- Judging sends one message, unless the session passed as expected. -/
theorem verdictMessage_length (s : Session) (o : Outcome) (v : Verdict) :
    (verdictMessage s o v).toList.length = if v = .expectedPass then 0 else 1 := by
  cases v <;> rfl

theorem classify_isMatched {o : Outcome} {ef : Bool} (h : classify o ef = .unexpectedFail) :
    o.isMatched = false := by
  cases hm : o.isMatched <;> cases ef <;> simp_all [classify]

/-- The `EXPECT FAIL` marker decides whether an outcome was announced. -/
theorem classify_not_isExpected (o : Outcome) (ef : Bool) :
    (classify o (!ef)).isExpected = !(classify o ef).isExpected := by
  cases hm : o.isMatched <;> cases ef <;> simp [classify, hm, Verdict.isExpected]

/-- Reading a list at an index known to be in range. -/
theorem map_getD_eq_pmap {α β : Type} (xs : List α) (d : α) (f : α → β) (o : Option Nat)
    (h : ∀ i ∈ o, i < xs.length) :
    o.map (fun i => f (xs.getD i d)) = o.pmap (fun i hi => f xs[i]) h := by
  cases o with
  | none => rfl
  | some i => simp [List.getElem?_eq_getElem (h i rfl)]

/-- Judging a replay whose failing statement is one of the session's: it counts its verdict, the
classification of the outcome, once and no other, returns that verdict with the outcome, the
number of statements and the failing statement's source, and sends one message unless the
session passed as expected: the failure text, as an error at the failing statement's line, for
an unexpected failure; an error at the session's tag for an unexpected pass; a warning there for
an expected failure. Flipping the marker keeps the outcome and flips whether it was announced. -/
theorem judge_counts_and_reports_once (s : Session) (e : Execution) (counters : Tally)
    (hidx : ∀ i ∈ e.outcome.failingIndex, i < s.statements.length) :
    let v := classify e.outcome s.expectFail
    let r := (judge s e).1
    let m := (judge s e).2
    (∀ w, (counters.record r.verdict).count w = counters.count w + if w = v then 1 else 0) ∧
      r.verdict = v ∧ r.outcome = e.outcome ∧ r.statements = s.statements.length ∧
      r.failedInput = e.outcome.failingIndex.pmap (fun i h => s.statements[i].source) hidx ∧
      m.toList.length = (if v = .expectedPass then 0 else 1) ∧
      (v = .unexpectedFail → ∃ text, failureText s e.outcome = some text ∧
        m = some ⟨.error, (e.outcome.failingIndex.pmap
          (fun i h => s.sourceTag.atOffset s.statements[i].offset) hidx).getD s.sourceTag, text⟩) ∧
      (v = .unexpectedPass → m = some ⟨.error, s.sourceTag, "doctest unexpectedly passed."⟩) ∧
      (v = .expectedFail → m = some ⟨.warning, s.sourceTag, "doctest failed as expected."⟩) ∧
      (judge { s with expectFail := !s.expectFail } e).1.outcome = e.outcome ∧
      (judge { s with expectFail := !s.expectFail } e).1.verdict.isExpected =
        !r.verdict.isExpected := by
  intro v r m
  -- the failing index, when there is one, names a statement of the session
  have hget : ∀ {α : Type} (f : Statement → α),
      e.outcome.failingIndex.map (fun i => f (s.statements.getD i default)) =
        e.outcome.failingIndex.pmap (fun i h => f s.statements[i]) hidx :=
    fun f => map_getD_eq_pmap _ _ _ _ hidx
  have hm : m = verdictMessage s e.outcome v := rfl
  refine ⟨fun w => Tally.count_record _ _ _, rfl, rfl, rfl, hget _,
    by rw [hm]; exact verdictMessage_length s e.outcome v, fun hv => ?_,
    fun hv => by rw [hm, hv]; rfl, fun hv => by rw [hm, hv]; rfl, rfl, classify_not_isExpected _ _⟩
  · obtain ⟨text, htext⟩ := failureText_isSome s (classify_isMatched hv)
    refine ⟨text, htext, ?_⟩
    have htag : failureTag s e.outcome = (e.outcome.failingIndex.pmap
        (fun i h => s.sourceTag.atOffset s.statements[i].offset) hidx).getD s.sourceTag := by
      rw [← hget fun st => s.sourceTag.atOffset st.offset, failureTag]
      cases e.outcome.failingIndex <;> rfl
    rw [hm, hv]
    simp [verdictMessage, htag, htext]

/-- A session whose only statement, at line 5, printed `2` where `1` was expected: the failure
is reported as an error at line 5. -/
theorem judge_mismatch_reports_at_statement :
    (∀ i ∈ (⟨[], .mismatched 0 "1" "2"⟩ : Execution).outcome.failingIndex, i < 1) ∧
      ∃ text, (judge ⟨⟨"doc.js", 3⟩, [], [⟨["1"], ["1"], 2⟩], false⟩
        ⟨[], .mismatched 0 "1" "2"⟩).2 = some ⟨.error, ⟨"doc.js", 5⟩, text⟩ := by
  have hidx : ∀ i ∈ (⟨[], .mismatched 0 "1" "2"⟩ : Execution).outcome.failingIndex, i < 1 := by
    simp [Outcome.failingIndex]
  obtain ⟨-, -, -, -, -, -, hfail, -⟩ :=
    judge_counts_and_reports_once ⟨⟨"doc.js", 3⟩, [], [⟨["1"], ["1"], 2⟩], false⟩
      ⟨[], .mismatched 0 "1" "2"⟩ {} hidx
  obtain ⟨text, -, hm⟩ := hfail rfl
  exact ⟨hidx, text, hm⟩

/-! ## A batch run in parallel -/

section Batch

variable (replay : Session → Execution)

/-- `t` is a stage of the task of session `s`. -/
def SessionTask.Of (s : Session) : SessionTask → Prop
  | .ready s' => s' = s
  | .replayed s' e => s' = s ∧ e = replay s
  | .counted r m => judge s (replay s) = (r, m)
  | .done r => (judge s (replay s)).1 = r

/-- The verdict a task has counted, if it has. -/
def SessionTask.countedVerdicts : SessionTask → List Verdict
  | .counted r _ | .done r => [r.verdict]
  | _ => []

theorem SessionTask.Of.step {s : Session} {t : SessionTask} (h : t.Of replay s) (sh : Shared) :
    (t.step replay sh).1.Of replay s := by
  cases t with
  | ready => subst h; exact ⟨rfl, rfl⟩
  | replayed => obtain ⟨rfl, rfl⟩ := h; rfl
  | counted r m => exact congrArg Prod.fst h
  | done => exact h

/-- A step adds to the counters exactly the verdict the task counts in it. -/
theorem SessionTask.count_step (t : SessionTask) (sh : Shared) (w : Verdict) :
    (t.step replay sh).2.counters.count w + t.countedVerdicts.countP (· = w) =
      sh.counters.count w + (t.step replay sh).1.countedVerdicts.countP (· = w) := by
  cases t with
  | replayed s e => simp [step, countedVerdicts, Tally.count_record, eq_comm]
  | _ => rfl

/-- A finished stage of a session's task holds the session's judged result. -/
theorem SessionTask.Of.eq_done {s : Session} {t : SessionTask} (h : t.Of replay s)
    (hdone : t.result?.isSome) : t = .done (judge s (replay s)).1 := by
  cases t with
  | done => rw [← h]
  | _ => simp [result?] at hdone

omit replay in
/-- Replacing one entry changes what a list counts by what the entry counts. -/
theorem countP_flatMap_set {α β : Type} (f : α → List β) (p : β → Bool) {ts : List α} {i : Nat}
    {t : α} (h : ts[i]? = some t) (t' : α) :
    ((ts.set i t').flatMap f).countP p + (f t).countP p =
      (ts.flatMap f).countP p + (f t').countP p := by
  induction ts generalizing i with
  | nil => simp at h
  | cons x xs ih =>
    cases i with
    | zero =>
      simp only [List.getElem?_cons_zero, Option.some.injEq] at h
      subst h
      simp only [List.set_cons_zero, List.flatMap_cons, List.countP_append]
      omega
    | succ i =>
      simp only [List.getElem?_cons_succ] at h
      simp only [List.set_cons_succ, List.flatMap_cons, List.countP_append]
      have := ih h
      omega

theorem SessionTask.mapM_result?_done (rs : List SessionResult) :
    (rs.map SessionTask.done).mapM SessionTask.result? = some rs := by
  induction rs with
  | nil => rfl
  | cons r rs ih => simp [List.mapM_cons, ih, result?]

theorem SessionTask.countedVerdicts_done (rs : List SessionResult) :
    (rs.map SessionTask.done).flatMap countedVerdicts = rs.map (·.verdict) := by
  induction rs with
  | nil => rfl
  | cons r rs ih => simp [countedVerdicts, ih]

/-- The invariant of a batch run: task `j` is a stage of session `j`'s task, and the counters
hold the verdicts counted so far on top of where they started. -/
def BatchInv (sessions : List Session) (start : Tally) (ts : List SessionTask) (sh : Shared) :
    Prop :=
  (∀ j : Nat, Option.Rel (SessionTask.Of replay) sessions[j]? ts[j]?) ∧
    ∀ w, sh.counters.count w =
      start.count w + (ts.flatMap SessionTask.countedVerdicts).countP (· = w)

theorem BatchInv.step {sessions : List Session} {start : Tally} {ts : List SessionTask}
    {sh : Shared} (hinv : BatchInv replay sessions start ts sh) {i : Nat} {t : SessionTask}
    (ht : ts[i]? = some t) :
    BatchInv replay sessions start (ts.set i (t.step replay sh).1) (t.step replay sh).2 := by
  obtain ⟨hof, hcount⟩ := hinv
  refine ⟨fun j => ?_, fun w => ?_⟩
  · rw [List.getElem?_set]
    by_cases hij : i = j
    · subst hij
      have hi : i < ts.length := (List.getElem?_eq_some_iff.mp ht).1
      have hrel := hof i
      rw [ht] at hrel
      rw [if_pos rfl, if_pos hi]
      cases hs : sessions[i]? with
      | none => rw [hs] at hrel; cases hrel
      | some s =>
        rw [hs] at hrel
        cases hrel with
        | some hst => exact .some (hst.step replay sh)
    · rw [if_neg hij]
      exact hof j
  · have hset := countP_flatMap_set SessionTask.countedVerdicts (· = w) ht (t.step replay sh).1
    have hstep := SessionTask.count_step replay t sh w
    rw [hcount w] at hstep
    omega

/-- The invariant holds after any schedule. -/
theorem BatchInv.run {sessions : List Session} {start : Tally} (schedule : List Nat) :
    ∀ {ts : List SessionTask} {sh : Shared}, BatchInv replay sessions start ts sh →
      BatchInv replay sessions start (runSchedule replay schedule ts sh).1
        (runSchedule replay schedule ts sh).2 := by
  induction schedule with
  | nil => exact id
  | cons i rest ih =>
    intro ts sh h
    cases ht : ts[i]? with
    | none => simpa [runSchedule, ht] using ih h
    | some t => simpa [runSchedule, ht] using ih (h.step replay ht)

/-- A batch run in parallel, each session replayed on its own, whatever the interleaving of its
tasks: once every task has finished, the summary lists each session's own judged result, in the
order of the sessions; its tally, counted again from the results, is exactly what the shared
counters rose by, and counts every session once; and the run succeeds exactly when every
verdict was announced and every file was loaded. -/
theorem parallel_batch_is_exact (sessions : List Session) (sh₀ : Shared) (schedule : List Nat)
    (hfinished : ∀ t ∈ (runSchedule replay schedule (sessions.map SessionTask.ready) sh₀).1,
      t.result?.isSome) :
    ∃ summary,
      Summary.collect (runSchedule replay schedule (sessions.map SessionTask.ready) sh₀).1 =
        some summary ∧
      summary.sessions = sessions.map (fun s => (judge s (replay s)).1) ∧
      summary.tally = Tally.ofVerdicts (summary.sessions.map (·.verdict)) ∧
      (∀ w, (runSchedule replay schedule (sessions.map SessionTask.ready) sh₀).2.counters.count w =
        sh₀.counters.count w + summary.tally.count w) ∧
      summary.tally.total = sessions.length ∧
      ∀ failures, { summary with loadFailures := failures }.success = true ↔
        (∀ r ∈ summary.sessions, r.verdict.isExpected = true) ∧ failures = [] := by
  have hinit : BatchInv replay sessions sh₀.counters (sessions.map SessionTask.ready) sh₀ :=
    ⟨fun j => by cases hs : sessions[j]? <;> simp [hs, SessionTask.Of],
      fun w => by simp [SessionTask.countedVerdicts]⟩
  obtain ⟨hof, hcount⟩ := BatchInv.run replay schedule hinit
  generalize runSchedule replay schedule (sessions.map SessionTask.ready) sh₀ = run
    at hof hcount hfinished ⊢
  obtain ⟨ts, sh⟩ := run
  dsimp only at hof hcount hfinished ⊢
  -- every task has finished with its own session's result
  have hts : ts = (sessions.map fun s => (judge s (replay s)).1).map SessionTask.done := by
    apply List.ext_getElem?
    intro j
    have hrel := hof j
    cases hs : sessions[j]? <;> cases ht : ts[j]? <;> rw [hs, ht] at hrel
    case none.none => simp [hs]
    case none.some | some.none => cases hrel
    case some.some s t =>
      cases hrel with
      | some hst =>
        rw [hst.eq_done replay (hfinished t (List.mem_of_getElem? ht))]
        simp [hs]
  refine ⟨_, by rw [hts, Summary.collect, SessionTask.mapM_result?_done]; rfl, rfl, rfl,
    fun w => ?_, by simp [Tally.total_ofVerdicts], fun failures => ?_⟩
  · rw [hcount w, hts, SessionTask.countedVerdicts_done, Tally.count_ofVerdicts]
  · simp [Summary.success, Tally.unexpected_ofVerdicts_eq_zero]

/-- Two sessions that both match, the second marked `EXPECT FAIL`, their steps interleaved: the
summary counts both. -/
theorem parallel_batch_two_sessions :
    let run := runSchedule (fun _ => ⟨[], .matched⟩) [0, 1, 1, 0, 1, 0]
      ([⟨⟨"a.js", 1⟩, [], [], false⟩, ⟨⟨"b.js", 1⟩, [], [], true⟩].map SessionTask.ready) ⟨{}, []⟩
    (∀ t ∈ run.1, t.result?.isSome) ∧
      ∃ summary, Summary.collect run.1 = some summary ∧ summary.tally.total = 2 := by
  intro run
  have hfin : ∀ t ∈ run.1, t.result?.isSome := by decide
  obtain ⟨summary, hc, -, -, -, htotal, -⟩ := parallel_batch_is_exact _ _ _ _ hfin
  exact ⟨hfin, summary, hc, htotal⟩

end Batch

end TranscriptTest.Verdict
