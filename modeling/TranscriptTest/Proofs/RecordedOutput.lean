import TranscriptTest.Replay.Run
import TranscriptTest.Proofs.Lines
import TranscriptTest.Proofs.Indent
import TranscriptTest.Proofs.Reading
import TranscriptTest.Proofs.Matcher

/-!
# Transcripts that record what was printed

A transcript of one statement is its prompt line, the primary prompt, a space and the input,
followed by what the interpreter printed. Read back, the prompt line gives the statement's input
(`parse_prompt_line`), and the printed lines give its expected output with blank lines emptied and
trailing empty lines dropped. Replaying compares that expected text with the printed text less
its trailing carriage returns and line feeds. The two agree when no printed line is made of
White_Space only without being empty, no carriage return ends a printed line, and none stands
before a line feed but among the trailing line ends (`intercalate_dropTrailingEmpty_lines`); then the replay matches under every normalizer
(`recorded_output_replays_as_match`). A printed line of spaces is where they part
(`recorded_blank_line_expects_empty_line`).
-/

namespace TranscriptTest.Replay

open TranscriptTest.Text TranscriptTest.Transcript TranscriptTest.Identity

/-- An input that stands on the primary prompt's line and reads back as itself: the prompt starts
with a character other than a space or a tab and holds no line feed, the input holds no line
feed and does not end in a carriage return, and the line is not blank. -/
structure PromptLine (p : Prompts) (x : String) : Prop where
  first : ∃ c cs, p.primary.toList = c :: cs ∧ isIndent c = false
  primary_no_newline : '\n' ∉ p.primary.toList
  input_no_newline : '\n' ∉ x.toList
  input_no_cr : x.toList.getLast? ≠ some '\r'
  not_blank : isBlankLine (p.primary ++ " " ++ x) = false

/-- Printed output that a transcript records as it is: no line starts with the primary prompt, the
first line does not start with the continuation prompt, a line of White_Space only is empty, no
line ends in a carriage return, and a carriage return stands before a line feed only among the
trailing line ends. -/
structure RecordedOutput (p : Prompts) (o : String) : Prop where
  no_primary : ∀ l ∈ lines o, ¬ p.primary.toList <+: l.toList
  no_continuation : ∀ l ∈ (lines o).head?, ¬ p.continuation.toList <+: l.toList
  blank_empty : ∀ l ∈ lines o, isBlankLine l = true → l = ""
  no_crlf : ¬ ['\r', '\n'] <:+: (comparableActual o).toList
  no_cr_end : ∀ l ∈ lines o, l.toList.getLast? ≠ some '\r'

example : RecordedOutput Prompts.standard "1\r\n" :=
  ⟨by decide, by decide, by decide, by decide, by decide⟩

/-- A line that does not start with a prefix still does not once stripped of no indentation. -/
theorem afterPrefix_stripLine_nil {pre l : String} (h : ¬ pre.toList <+: l.toList) :
    afterPrefix pre (stripLine [] l) = none := by
  rw [afterPrefix_eq_none_iff, stripLine_nil]
  split
  · -- an empty line starts only with the empty prefix, which every line starts with
    intro hpre
    have hnil : pre.toList = [] := by simpa using hpre
    exact h (hnil ▸ List.nil_prefix)
  · exact h

/-! ## The prompt line -/

namespace PromptLine

variable {p : Prompts} {x : String} (hline : PromptLine p x)
include hline

theorem toList_eq : ∃ c cs, (p.primary ++ " " ++ x).toList = c :: (cs ++ ' ' :: x.toList) ∧
    p.primary.toList = c :: cs ∧ isIndent c = false := by
  obtain ⟨c, cs, hp, hc⟩ := hline.first
  exact ⟨c, cs, by simp [String.toList_append, hp], hp, hc⟩

theorem opensLine : p.opensLine (p.primary ++ " " ++ x) = true := by
  obtain ⟨c, cs, htext, hp, hc⟩ := hline.toList_eq
  rw [Prompts.opensLine, htext, List.dropWhile_cons_of_neg (by simp [hc]), hp]
  exact List.isPrefixOf_iff_prefix.mpr (List.prefix_append _ _)

theorem indentOf_eq : indentOf (p.primary ++ " " ++ x) = [] := by
  obtain ⟨c, cs, htext, -, hc⟩ := hline.toList_eq
  rw [indentOf, htext, List.takeWhile_cons_of_neg (by simp [hc])]

theorem lines_eq (o : String) :
    lines (p.primary ++ " " ++ x ++ "\n" ++ o) = (p.primary ++ " " ++ x) :: lines o := by
  apply lines_append_line
  · simp [String.toList_append, hline.primary_no_newline, hline.input_no_newline]
  · have hcr := hline.input_no_cr
    cases hx : x.toList.getLast? <;>
      simp_all [String.toList_append, List.getLast?_append, List.getLast?_cons]

/-- The prompt line opens the transcript, so nothing is stripped: the prompt line stays and every
printed line stays or, when blank, is emptied. -/
theorem stripIndentation_eq (o : String) :
    stripIndentation (p.primary ++ " " ++ x ++ "\n" ++ o) p =
      (p.primary ++ " " ++ x) :: (lines o).map (stripLine []) := by
  have hindent : indentation p ((p.primary ++ " " ++ x) :: lines o) = [] := by
    simp [indentation, hline.opensLine, hline.indentOf_eq]
  rw [stripIndentation, hline.lines_eq, hindent, List.map_cons, stripLine_nil,
    if_neg (by simp [hline.not_blank])]

end PromptLine

/-- A transcript of one statement reads back as that statement: the input as written, and the
printed lines, blank ones emptied and trailing empty ones dropped, as its expected output. -/
theorem parse_prompt_line {p : Prompts} {x : String} (o : String) (tag : SourceTag)
    (hline : PromptLine p x) (hprimary : ∀ l ∈ lines o, ¬ p.primary.toList <+: l.toList)
    (hcont : ∀ l ∈ (lines o).head?, ¬ p.continuation.toList <+: l.toList) :
    parse (p.primary ++ " " ++ x ++ "\n" ++ o) p tag =
      .ok ⟨tag, [], [⟨[x], dropTrailingEmpty ((lines o).map (stripLine [])), 0⟩],
        hasExpectFail (p.primary ++ " " ++ x ++ "\n" ++ o)⟩ := by
  have hopen : afterPrefix p.primary (p.primary ++ " " ++ x) = some (' ' :: x.toList) := by
    rw [String.append_assoc, afterPrefix_append]
    simp [String.toList_append]
  unfold parse
  rw [hline.stripIndentation_eq, Reading.addAll_cons, Reading.add_of_opens p hopen,
    promptBody_space]
  -- the printed lines: the first may not continue the input, and none opens a statement
  cases hout : (lines o).map (stripLine []) with
  | nil => rfl
  | cons m ms =>
    have hmem : ∀ l ∈ m :: ms, afterPrefix p.primary l = none := by
      intro l hl
      rw [← hout] at hl
      obtain ⟨l', hl', rfl⟩ := List.mem_map.mp hl
      exact afterPrefix_stripLine_nil (hprimary l' hl')
    have hfirst : afterPrefix p.continuation m = none := by
      cases hls : lines o with
      | nil => simp [hls] at hout
      | cons l ls =>
        rw [hls, List.map_cons, List.cons.injEq] at hout
        rw [← hout.1]
        exact afterPrefix_stripLine_nil (hcont l (by simp [hls]))
    rw [Reading.addAll_cons, Reading.add_of_output p rfl (hmem m List.mem_cons_self)
      (fun _ => hfirst), Reading.addAll_of_output p _ ms rfl rfl
      (fun l hl => hmem l (List.mem_cons_of_mem _ hl))]
    rfl

/-! ## Expected and printed text -/

theorem dropTrailingEmpty_map_ofList (ls : List (List Char)) :
    dropTrailingEmpty (ls.map String.ofList) = (ls.rdropWhile List.isEmpty).map String.ofList := by
  have hempty : (String.isEmpty ∘ String.ofList) = List.isEmpty := by
    funext l
    cases l with
    | nil => rfl
    | cons c l => simp [String.isEmpty_eq_false_iff, String.ofList_eq_empty_iff]
  simp only [dropTrailingEmpty, List.rdropWhile, ← List.map_reverse, List.dropWhile_map, hempty]

/-- Printed text whose lines do not end in carriage returns, and which holds none before a line
feed but among its trailing line ends, is, less those, its lines less the trailing empty ones
joined by line feeds. -/
theorem intercalate_dropTrailingEmpty_lines {o : String}
    (hcrlf : ¬ ['\r', '\n'] <:+: (comparableActual o).toList)
    (hend : ∀ l ∈ lines o, l.toList.getLast? ≠ some '\r') :
    "\n".intercalate (dropTrailingEmpty (lines o)) = comparableActual o := by
  have hend' : ∀ l ∈ splitLines [] o.toList, l.getLast? ≠ some '\r' := fun l hl => by
    simpa using hend (String.ofList l) (List.mem_map_of_mem hl)
  rw [comparableActual, dropLineEnds_eq, String.toList_ofList] at hcrlf
  rw [comparableActual, dropLineEnds_eq, ← intercalate_rdropWhile_splitLines hcrlf hend', lines,
    dropTrailingEmpty_map_ofList, ← String.toList_inj, String.toList_intercalate,
    String.toList_ofList, List.map_map]
  simp [Function.comp_def]

/-- With every blank printed line already empty, emptying blank lines changes nothing. -/
theorem map_stripLine_nil {ls : List String} (h : ∀ l ∈ ls, isBlankLine l = true → l = "") :
    ls.map (stripLine []) = ls := by
  calc ls.map (stripLine []) = ls.map id := List.map_congr_left fun l hl => by
        rw [stripLine_nil]
        split
        · next hb => exact (h l hl hb).symm
        · rfl
    _ = ls := List.map_id ls

/-! ## Replaying one statement -/

/-- A session of one statement whose expected text is what the interpreter prints, once trailing
line ends are dropped, replays as a match. -/
theorem execute_single_matched {σ : Type} (scope : Scope σ) (st₀ st₁ : σ) (s : Session)
    (N : Normalizer) {stmt : Statement} {o : String} (hs : s.statements = [stmt])
    (hexpected : stmt.expectedText = comparableActual o)
    (hprint : scope.evaluate st₀ stmt.source = (.ok o, st₁)) :
    (execute scope st₀ s none N).1.outcome = .matched := by
  have hcheck := Matcher.check_self (Normalizer.matcher_diagonal N) (comparableActual o)
  simp [execute, hs, runStatements, hprint, Replay.step, hexpected, hcheck]

/-- A transcript of one statement that records exactly what the interpreter printed reads back
as that one statement, with the input as its source and the printed text, less its trailing
line ends, as its expected text; replayed against an interpreter that prints that text, it
matches under every normalizer. -/
theorem recorded_output_replays_as_match (p : Prompts) (x o : String) (tag : SourceTag)
    (hline : PromptLine p x) (hout : RecordedOutput p o) :
    ∃ s stmt, parse (p.primary ++ " " ++ x ++ "\n" ++ o) p tag = .ok s ∧
      s.statements = [stmt] ∧ stmt.source = x ++ "\n" ∧
      stmt.expectedText = comparableActual o ∧
      ∀ (N : Normalizer) {σ : Type} (scope : Scope σ) (st₀ st₁ : σ),
        scope.evaluate st₀ (x ++ "\n") = (.ok o, st₁) →
          (execute scope st₀ s none N).1.outcome = .matched := by
  have hexpected : Statement.expectedText ⟨[x], dropTrailingEmpty ((lines o).map (stripLine [])), 0⟩
      = comparableActual o := by
    rw [Statement.expectedText, map_stripLine_nil hout.blank_empty,
      intercalate_dropTrailingEmpty_lines hout.no_crlf hout.no_cr_end]
  have hsource : Statement.source ⟨[x], dropTrailingEmpty ((lines o).map (stripLine [])), 0⟩
      = x ++ "\n" := by
    simp [Statement.source]
  refine ⟨_, _, parse_prompt_line o tag hline hout.no_primary hout.no_continuation, rfl, hsource,
    hexpected, fun N σ scope st₀ st₁ hprint => ?_⟩
  exact execute_single_matched scope st₀ st₁ _ N rfl hexpected (hsource ▸ hprint)

theorem promptLine_standard_one : PromptLine Prompts.standard "1" :=
  ⟨⟨'j', ['s', '>'], rfl, rfl⟩, by decide, by decide, by decide, by decide⟩

/-- `js> 1`, then the printed `1`. -/
theorem recorded_output_replays_as_match_one :
    PromptLine Prompts.standard "1" ∧ RecordedOutput Prompts.standard "1\n" ∧
      ∃ s stmt, parse (Prompts.standard.primary ++ " " ++ "1" ++ "\n" ++ "1\n") Prompts.standard
          ⟨"doc.js", 1⟩ = .ok s ∧
        s.statements = [stmt] ∧ stmt.source = "1" ++ "\n" ∧
        stmt.expectedText = comparableActual "1\n" ∧
        ∀ (N : Normalizer) {σ : Type} (scope : Scope σ) (st₀ st₁ : σ),
          scope.evaluate st₀ ("1" ++ "\n") = (.ok "1\n", st₁) →
            (execute scope st₀ s none N).1.outcome = .matched := by
  have hout : RecordedOutput Prompts.standard "1\n" :=
    ⟨by decide, by decide, by decide, by decide, by decide⟩
  exact ⟨promptLine_standard_one, hout, recorded_output_replays_as_match Prompts.standard "1" "1\n"
    ⟨"doc.js", 1⟩ promptLine_standard_one hout⟩

/-- A printed line of spaces is read back empty. No printed line starts with a prompt, yet the
transcript of the printed `a`, a space and `b` expects `a`, an empty line and `b`. -/
theorem recorded_blank_line_expects_empty_line :
    (∀ l ∈ lines "a\n \nb\n", ¬ Prompts.standard.primary.toList <+: l.toList) ∧
      (∀ l ∈ (lines "a\n \nb\n").head?, ¬ Prompts.standard.continuation.toList <+: l.toList) ∧
      ∃ s stmt, parse (Prompts.standard.primary ++ " " ++ "1" ++ "\n" ++ "a\n \nb\n")
          Prompts.standard ⟨"doc.js", 1⟩ = .ok s ∧
        s.statements = [stmt] ∧ stmt.expectedText = "a\n\nb" ∧
        comparableActual "a\n \nb\n" = "a\n \nb" := by
  have hprimary : ∀ l ∈ lines "a\n \nb\n", ¬ Prompts.standard.primary.toList <+: l.toList := by
    decide
  have hcont : ∀ l ∈ (lines "a\n \nb\n").head?,
      ¬ Prompts.standard.continuation.toList <+: l.toList := by
    decide
  exact ⟨hprimary, hcont, _, _,
    parse_prompt_line "a\n \nb\n" ⟨"doc.js", 1⟩ promptLine_standard_one hprimary hcont, rfl,
    by decide, by decide⟩

end TranscriptTest.Replay
