import TranscriptTest.Transcript.Parse
import TranscriptTest.Proofs.Marker
import TranscriptTest.Proofs.Reading

/-!
# Reading indented transcripts

A transcript reads the same wherever it is indented. With spaces and tabs put at the start of
every line, every line keeps whether it opens a statement and whether it is blank, the line the
indentation is taken from is the same line, and that indentation grows by exactly what was put
in front of every line. So every line loses what it gained (`stripIndentation_indentText`), and
with `hasExpectFail_indentLines` the whole reading is unchanged (`parse_indentText`).
-/

namespace TranscriptTest.Transcript

open TranscriptTest.Text TranscriptTest.Unicode

/-- A text with `indent` put at its start and after every line feed that does not end it, line
endings left as they are. -/
def indentText (indent t : String) : String :=
  String.ofList (indentLines indent.toList t.toList)

/-- A line with `indent` put at its start. -/
def indentLine (indent : List Char) (l : String) : String :=
  String.ofList (indent ++ l.toList)

@[simp] theorem toList_indentLine (indent : List Char) (l : String) :
    (indentLine indent l).toList = indent ++ l.toList :=
  String.toList_ofList

/-- The common prefix of two lines that start alike runs through what they start with. -/
theorem sharedLength_append (pre as bs : List Char) :
    sharedLength (pre ++ as) (pre ++ bs) = pre.length + sharedLength as bs := by
  induction pre with
  | nil => simp
  | cons c pre ih =>
    simp only [List.cons_append, sharedLength, beq_self_eq_true, if_true, ih, List.length_cons]
    omega

theorem stripLine_of_isBlankLine {l : String} (h : isBlankLine l = true) (indent : List Char) :
    stripLine indent l = "" := by
  simp [stripLine, h]

/-- With no indentation, a line is kept, or emptied when blank. -/
theorem stripLine_nil (l : String) : stripLine [] l = if isBlankLine l then "" else l := by
  have hshared : sharedLength l.toList [] = 0 := by
    cases l.toList <;> rfl
  simp [stripLine, hshared]

section Indented

variable {indent : List Char} (hi : ∀ c ∈ indent, isIndent c = true)
include hi

theorem not_mem_newline_of_isIndent : '\n' ∉ indent := fun h => by
  simpa [isIndent] using hi '\n' h

theorem getLast?_ne_cr_of_isIndent : indent.getLast? ≠ some '\r' := fun h => by
  simpa [isIndent] using hi '\r' (List.mem_of_getLast? h)

/-- Every line of an indented text is a line of the text with the indentation before it. -/
theorem lines_indentText {t : String} (ht : t ≠ "") :
    lines (String.ofList (indentLines indent t.toList)) = (lines t).map (indentLine indent) := by
  unfold lines
  rw [String.toList_ofList, splitLines_indentLines (not_mem_newline_of_isIndent hi)
    (getLast?_ne_cr_of_isIndent hi) (by simpa using ht), List.map_map, List.map_map]
  exact List.map_congr_left fun l _ => by simp [indentLine]

theorem opensLine_indentLine (p : Prompts) (l : String) :
    p.opensLine (indentLine indent l) = p.opensLine l := by
  simp only [Prompts.opensLine, toList_indentLine, List.dropWhile_append_of_pos hi]

theorem isBlankLine_indentLine (l : String) :
    isBlankLine (indentLine indent l) = isBlankLine l := by
  have hblank : indent.all isBlank = true :=
    List.all_eq_true.mpr fun c hc => isBlank_of_isIndent (hi c hc)
  simp only [isBlankLine, toList_indentLine, List.all_append, hblank, Bool.true_and]

theorem indentOf_indentLine (l : String) :
    indentOf (indentLine indent l) = indent ++ indentOf l := by
  simp only [indentOf, toList_indentLine, List.takeWhile_append_of_pos hi]

/-- A line loses the indentation put before it with the indentation it is stripped of. -/
theorem stripLine_indentLine (shared : List Char) (l : String) :
    stripLine (indent ++ shared) (indentLine indent l) = stripLine shared l := by
  unfold stripLine
  rw [isBlankLine_indentLine hi, toList_indentLine, sharedLength_append,
    List.drop_length_add_append]

/-- The indentation of indented lines: what was put before them and the indentation they had,
unless every line is blank. -/
theorem indentation_map_indentLine (p : Prompts) (ls : List String) :
    indentation p (ls.map (indentLine indent)) = indent ++ indentation p ls ∨
      (indentation p (ls.map (indentLine indent)) = [] ∧ ∀ l ∈ ls, isBlankLine l = true) := by
  have hopens : (p.opensLine ∘ indentLine indent) = p.opensLine :=
    funext (opensLine_indentLine hi p)
  have hblank : ((fun l => !isBlankLine l) ∘ indentLine indent) = fun l => !isBlankLine l :=
    funext fun l => by simp only [Function.comp, isBlankLine_indentLine hi]
  unfold indentation
  rw [List.find?_map, hopens, List.find?_map, hblank]
  -- the line chosen is the line chosen before, now indented
  cases hfirst : ls.find? p.opensLine with
  | some l => exact Or.inl (indentOf_indentLine hi l)
  | none =>
    cases hnonblank : ls.find? (fun l => !isBlankLine l) with
    | some l => exact Or.inl (indentOf_indentLine hi l)
    | none =>
      refine Or.inr ⟨rfl, fun l hl => ?_⟩
      simpa using List.find?_eq_none.mp hnonblank l hl

/-- Indenting every line of a text that is not empty leaves its stripped lines as they were. -/
theorem stripIndentation_indentText (p : Prompts) {t : String} (ht : t ≠ "") :
    stripIndentation (String.ofList (indentLines indent t.toList)) p = stripIndentation t p := by
  unfold stripIndentation
  simp only [lines_indentText hi ht, List.map_map]
  rcases indentation_map_indentLine hi p (lines t) with hind | ⟨hind, hblank⟩
  · rw [hind]
    exact List.map_congr_left fun l _ => stripLine_indentLine hi _ l
  · -- every line is blank, so every line is stripped to nothing whatever the indentation
    rw [hind]
    refine List.map_congr_left fun l hl => ?_
    have hl' : isBlankLine (indentLine indent l) = true := by
      rw [isBlankLine_indentLine hi]
      exact hblank l hl
    simp only [Function.comp, stripLine_of_isBlankLine hl', stripLine_of_isBlankLine (hblank l hl)]

/-- The indentation alone is at most one line, and a blank one. -/
theorem isBlankLine_of_mem_lines : ∀ l ∈ lines (String.ofList indent), isBlankLine l = true := by
  intro l hl
  rw [lines, String.toList_ofList, splitLines_of_not_mem (not_mem_newline_of_isIndent hi)] at hl
  split at hl
  · simp at hl
  · rw [List.map_singleton, List.mem_singleton] at hl
    rw [hl, isBlankLine, String.toList_ofList]
    exact List.all_eq_true.mpr fun c hc => isBlank_of_isIndent (hi c hc)

end Indented

/-- A transcript whose every line is blank holds no statement for a primary prompt that is not
empty. -/
theorem parse_of_isBlankLine {t : String} (hblank : ∀ l ∈ lines t, isBlankLine l = true)
    {p : Prompts} (hp : p.primary ≠ "") (tag : SourceTag) :
    parse t p tag = .error (.noStatements p.primary) := by
  have hnone : ∀ l ∈ stripIndentation t p, afterPrefix p.primary l = none := by
    intro l hl
    obtain ⟨l', hl', rfl⟩ := List.mem_map.mp hl
    rw [stripLine_of_isBlankLine (hblank l' hl'), afterPrefix_eq_none_iff]
    simpa using hp
  have hst : (Reading.addAll p {} 0 (stripIndentation t p)).statements = [] :=
    Reading.statements_addAll_of_none p rfl 0 hnone
  simp only [parse, hst]

/-- A transcript reads the same with any spaces and tabs put at the start of every line: the same
description, statements and offsets, the same marker, or the same error. The empty text becomes
the indentation alone, which holds no statement either, as no prompt pair has an empty primary
prompt. -/
theorem parse_indentText (indent t : String) (hi : ∀ c ∈ indent.toList, isIndent c = true)
    (p : Prompts) (hne : t ≠ "" ∨ p.primary ≠ "") (tag : SourceTag) :
    parse (indentText indent t) p tag = parse t p tag := by
  by_cases ht : t = ""
  · subst ht
    have hp : p.primary ≠ "" := hne.resolve_left (not_not.mpr rfl)
    have hindent : indentText indent "" = String.ofList indent.toList := by
      simp [indentText, indentLines, indentAfterBreaks]
    rw [hindent, parse_of_isBlankLine (isBlankLine_of_mem_lines hi) hp,
      parse_of_isBlankLine (by simp [lines, splitLines_nil]) hp]
  · unfold parse indentText
    rw [stripIndentation_indentText hi p ht, hasExpectFail_indentLines hi]

/-- Four spaces before every line of a two-line transcript. -/
theorem parse_indentText_four_spaces :
    (∀ c ∈ "    ".toList, isIndent c = true) ∧ ("js> 1\n1\n" ≠ "" ∨ Prompts.standard.primary ≠ "") ∧
      parse (indentText "    " "js> 1\n1\n") Prompts.standard ⟨"doc.md", 1⟩ =
        parse "js> 1\n1\n" Prompts.standard ⟨"doc.md", 1⟩ :=
  ⟨by simp [isIndent], Or.inl (by decide), parse_indentText "    " "js> 1\n1\n" (by simp [isIndent])
    Prompts.standard (Or.inl (by decide)) ⟨"doc.md", 1⟩⟩

end TranscriptTest.Transcript
