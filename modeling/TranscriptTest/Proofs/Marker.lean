import TranscriptTest.Transcript.Marker
import TranscriptTest.Transcript.Indent
import TranscriptTest.Proofs.Lines
import TranscriptTest.Proofs.Word

/-!
# The EXPECT FAIL marker under indentation

`markerIn` tries the marker at every position of a text; `markerAt` looks at one position. At a
position the marker needs a boundary before it, `EXPECT`, a run of White_Space, `FAIL` and a
boundary after it. The lemmas here split `markerAt` into these parts (`markerAt_eq`) and show
that each part is blind to spaces and tabs put after line feeds: a line feed is already
White_Space and already a boundary, so a longer run of White_Space after it changes nothing. The
main result is `hasExpectFail_indentLines`: indenting every line of a text keeps its marker or
its lack of one.
-/

namespace TranscriptTest.Transcript

open TranscriptTest.Text TranscriptTest.Unicode

/-! ## The parts of the marker -/

/-- `FAIL` at the head, then a boundary. -/
def failAt (cs : List Char) : Bool :=
  ['F', 'A', 'I', 'L'].isPrefixOf cs && notWordAt (cs.drop 4).head?

/-- A run of White_Space at the head, then `FAIL` and a boundary. -/
def failAfterGap (cs : List Char) : Bool :=
  cs.head?.any isBlank && failAt (cs.dropWhile isBlank)

/-- The marker, less the boundary before it, at the head. -/
def markerStart (cs : List Char) : Bool :=
  ['E', 'X', 'P', 'E', 'C', 'T'].isPrefixOf cs && failAfterGap (cs.drop 6)

theorem drop_length_takeWhile {α : Type} (p : α → Bool) (l : List α) :
    l.drop (l.takeWhile p).length = l.dropWhile p := by
  induction l with
  | nil => rfl
  | cons a l ih =>
    rw [List.takeWhile_cons, List.dropWhile_cons]
    split
    · simp [ih]
    · simp

theorem isEmpty_takeWhile {α : Type} (p : α → Bool) (l : List α) :
    (l.takeWhile p).isEmpty = !(l.head?.any p) := by
  cases l with
  | nil => rfl
  | cons a l => cases h : p a <;> simp [h]

/-- The gap after `EXPECT`, read as its parts. -/
theorem failAfterGap_eq (rest : List Char) :
    (!(rest.takeWhile isBlank).isEmpty &&
       match rest.drop (rest.takeWhile isBlank).length with
       | 'F' :: 'A' :: 'I' :: 'L' :: after => notWordAt after.head?
       | _ => false) = failAfterGap rest := by
  simp only [isEmpty_takeWhile, Bool.not_not, drop_length_takeWhile, failAfterGap]
  congr 1
  unfold failAt
  split
  · next after heq =>
    rw [heq]
    rfl
  · next h =>
    cases hp : ['F', 'A', 'I', 'L'].isPrefixOf (rest.dropWhile isBlank) with
    | false => rfl
    | true =>
      obtain ⟨t, ht⟩ := List.isPrefixOf_iff_prefix.mp hp
      exact absurd ht.symm (h t)

/-- The marker at a position: a boundary before it and the rest at the head. -/
theorem markerAt_eq (prev : Option Char) (cs : List Char) :
    markerAt prev cs = (notWordAt prev && markerStart cs) := by
  unfold markerAt markerStart
  congr 1
  split
  · next rest => exact failAfterGap_eq rest
  · next h =>
    cases hp : ['E', 'X', 'P', 'E', 'C', 'T'].isPrefixOf cs with
    | false => rfl
    | true =>
      obtain ⟨t, ht⟩ := List.isPrefixOf_iff_prefix.mp hp
      exact absurd ht.symm (h t)

theorem markerAt_cons_of_ne {c : Char} (hc : c ≠ 'E') (prev : Option Char) (rest : List Char) :
    markerAt prev (c :: rest) = false := by
  rw [markerAt_eq]
  simp [markerStart, List.isPrefixOf, Ne.symm hc]

/-- The marker is tried at each position with only the boundary before it depending on what
came before. -/
theorem markerIn_congr {p q : Option Char} (h : notWordAt p = notWordAt q) (cs : List Char) :
    markerIn p cs = markerIn q cs := by
  cases cs with
  | nil => rfl
  | cons c rest => simp only [markerIn, markerAt_eq, h]

theorem markerIn_cons_of_ne {c : Char} (hc : c ≠ 'E') (prev : Option Char) (rest : List Char) :
    markerIn prev (c :: rest) = markerIn (some c) rest := by
  simp [markerIn, markerAt_cons_of_ne hc]

theorem notWordAt_some_of_lt {c : Char} (hc : c.toNat < 48) : notWordAt (some c) = true := by
  simp [notWordAt, isWord_eq_false_of_lt hc]

/-- Spaces and tabs before a text add no marker and take none away, after a boundary. -/
theorem markerIn_indent_append {indent : List Char} (hi : ∀ c ∈ indent, isIndent c = true)
    {prev : Option Char} (hp : notWordAt prev = true) (cs : List Char) :
    markerIn prev (indent ++ cs) = markerIn prev cs := by
  induction indent generalizing prev with
  | nil => rfl
  | cons c indent ih =>
    have hc : c = ' ' ∨ c = '\t' := by simpa [isIndent] using hi c List.mem_cons_self
    have hlt : c.toNat < 48 := by rcases hc with rfl | rfl <;> decide
    have hne : c ≠ 'E' := by rcases hc with rfl | rfl <;> decide
    rw [List.cons_append, markerIn_cons_of_ne hne,
      ih (fun d hd => hi d (List.mem_cons_of_mem _ hd)) (notWordAt_some_of_lt hlt)]
    exact markerIn_congr (by rw [notWordAt_some_of_lt hlt, hp]) cs

/-! ## Indentation after line feeds -/

section Indented

variable {indent : List Char} (hi : ∀ c ∈ indent, isIndent c = true)

theorem isBlank_of_isIndent {c : Char} (h : isIndent c = true) : isBlank c = true := by
  have hc : c = ' ' ∨ c = '\t' := by simpa [isIndent] using h
  rcases hc with rfl | rfl <;> decide

theorem indentAfterBreaks_append_of_not_mem {xs : List Char} (hxs : '\n' ∉ xs) (ys : List Char) :
    indentAfterBreaks indent (xs ++ ys) = xs ++ indentAfterBreaks indent ys := by
  induction xs with
  | nil => rfl
  | cons x xs ih =>
    have hx : x ≠ '\n' := fun e => hxs (e ▸ List.mem_cons_self)
    rw [List.cons_append, indentAfterBreaks_cons_of_ne hx,
      ih (fun m => hxs (List.mem_cons_of_mem _ m)), List.cons_append]

theorem head?_indentAfterBreaks (cs : List Char) :
    (indentAfterBreaks indent cs).head? = cs.head? := by
  match cs with
  | [] => rfl
  | '\n' :: _ :: _ => rfl
  | [_] => simp [indentAfterBreaks]
  | c :: d :: rest =>
    by_cases hc : c = '\n'
    · subst hc
      rfl
    · rw [indentAfterBreaks_cons_of_ne hc]
      rfl

/-- A prefix with no line feed is found in the indented text exactly when in the text. -/
theorem isPrefixOf_indentAfterBreaks {p : List Char} (hp : '\n' ∉ p) (cs : List Char) :
    p.isPrefixOf (indentAfterBreaks indent cs) = p.isPrefixOf cs := by
  induction p generalizing cs with
  | nil => simp [List.isPrefixOf]
  | cons a p ih =>
    have ha : a ≠ '\n' := fun e => hp (e ▸ List.mem_cons_self)
    match cs with
    | [] => rfl
    | c :: rest =>
      by_cases hc : c = '\n'
      · subst hc
        cases rest with
        | nil => simp [indentAfterBreaks, List.isPrefixOf]
        | cons d rest => simp [indentAfterBreaks, List.isPrefixOf, beq_false_of_ne ha]
      · rw [indentAfterBreaks_cons_of_ne hc]
        simp only [List.isPrefixOf, ih (fun m => hp (List.mem_cons_of_mem _ m))]

/-- A word of the marker followed by a check of what comes after it: indentation after line
feeds changes neither when it changes neither the word's match nor the check of the rest. -/
theorem isPrefixOf_and_indentAfterBreaks {w : List Char} (hw : '\n' ∉ w)
    {g : List Char → Bool} (hg : ∀ cs, g (indentAfterBreaks indent cs) = g cs)
    (cs : List Char) :
    (w.isPrefixOf (indentAfterBreaks indent cs) &&
        g ((indentAfterBreaks indent cs).drop w.length)) =
      (w.isPrefixOf cs && g (cs.drop w.length)) := by
  rw [isPrefixOf_indentAfterBreaks hw]
  cases hp : w.isPrefixOf cs with
  | false => rfl
  | true =>
    obtain ⟨t, rfl⟩ := List.isPrefixOf_iff_prefix.mp hp
    rw [indentAfterBreaks_append_of_not_mem hw]
    simp only [Bool.true_and, List.drop_left, hg]

theorem failAt_indentAfterBreaks (cs : List Char) :
    failAt (indentAfterBreaks indent cs) = failAt cs :=
  isPrefixOf_and_indentAfterBreaks (w := ['F', 'A', 'I', 'L'])
    (g := fun r => notWordAt r.head?) (by decide) (fun r => by rw [head?_indentAfterBreaks]) cs

include hi

/-- Skipping White_Space skips the indentation put after line feeds with it. -/
theorem dropWhile_isBlank_indentAfterBreaks (cs : List Char) :
    (indentAfterBreaks indent cs).dropWhile isBlank =
      indentAfterBreaks indent (cs.dropWhile isBlank) := by
  have hblank : ∀ c ∈ indent, isBlank c = true := fun c hc => isBlank_of_isIndent (hi c hc)
  induction cs with
  | nil => rfl
  | cons c rest ih =>
    by_cases hc : c = '\n'
    · subst hc
      cases rest with
      | nil => rfl
      | cons d rest =>
        have hnl : isBlank '\n' = true := by decide
        simp only [indentAfterBreaks]
        rw [List.dropWhile_cons_of_pos hnl, List.dropWhile_append_of_pos hblank, ih,
          List.dropWhile_cons_of_pos hnl]
    · rw [indentAfterBreaks_cons_of_ne hc, List.dropWhile_cons, List.dropWhile_cons]
      split
      · exact ih
      · rw [indentAfterBreaks_cons_of_ne hc]

theorem failAfterGap_indentAfterBreaks (cs : List Char) :
    failAfterGap (indentAfterBreaks indent cs) = failAfterGap cs := by
  unfold failAfterGap
  rw [head?_indentAfterBreaks, dropWhile_isBlank_indentAfterBreaks hi,
    failAt_indentAfterBreaks]

theorem markerStart_indentAfterBreaks (cs : List Char) :
    markerStart (indentAfterBreaks indent cs) = markerStart cs :=
  isPrefixOf_and_indentAfterBreaks (w := ['E', 'X', 'P', 'E', 'C', 'T']) (g := failAfterGap)
    (by decide) (failAfterGap_indentAfterBreaks hi) cs

/-- Indentation put after line feeds keeps the marker or its lack, wherever it stands. -/
theorem markerIn_indentAfterBreaks (prev : Option Char) (cs : List Char) :
    markerIn prev (indentAfterBreaks indent cs) = markerIn prev cs := by
  induction cs generalizing prev with
  | nil => rfl
  | cons c rest ih =>
    by_cases hc : c = '\n'
    · subst hc
      cases rest with
      | nil => rfl
      | cons d rest =>
        -- after the line feed: the indentation, then the next line
        have hnl : notWordAt (some '\n') = true := notWordAt_some_of_lt (by decide)
        simp only [indentAfterBreaks]
        rw [markerIn_cons_of_ne (by decide), markerIn_cons_of_ne (by decide),
          markerIn_indent_append hi hnl, ← ih]
    · have hstart := markerStart_indentAfterBreaks hi (c :: rest)
      rw [indentAfterBreaks_cons_of_ne hc] at hstart ⊢
      simp only [markerIn, markerAt_eq, hstart, ih]

/-- Indenting every line of a text keeps its marker or its lack of one. -/
theorem hasExpectFail_indentLines (t : String) :
    hasExpectFail (String.ofList (indentLines indent t.toList)) = hasExpectFail t := by
  unfold hasExpectFail
  rw [String.toList_ofList, indentLines, markerIn_indent_append hi rfl, markerIn_indentAfterBreaks hi]

end Indented

end TranscriptTest.Transcript
