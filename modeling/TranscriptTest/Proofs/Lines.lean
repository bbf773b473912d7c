import TranscriptTest.Text.Lines
import Mathlib.Data.List.DropRight

/-!
# Lines of a text

`splitLines` reads a text one character at a time and holds the current line, reversed. Three
lemmas describe it a line at a time: a character other than a line feed joins the current line
(`splitLines_append_of_not_mem`), a line feed ends it, less a carriage return just before
(`splitLines_newline`), and the end of the text ends the current line when one has begun
(`splitLines_nil`). Everything else here follows from them:

* a line with no line feed and no carriage return at its end, then a line feed, reads back as
  itself (`splitLines_line`), so lines written each with a line feed after it split back into
  those lines (`splitLines_flatMap`);
* a text with an indentation put before each of its lines splits into its lines with that
  indentation before each (`splitLines_indentLines`);
* in a text where no line ends in a carriage return and none stands before a line feed that
  more than line ends follow, the lines joined by line feeds, less trailing empty lines, are the
  text less its trailing carriage returns and line feeds (`intercalate_rdropWhile_splitLines`).
-/

namespace TranscriptTest.Text

/-- The current line, reversed, less the carriage return of a `\r\n` ending. -/
def withoutCR : List Char → List Char
  | '\r' :: before => before
  | cur => cur

theorem withoutCR_of_head?_ne {cur : List Char} (h : cur.head? ≠ some '\r') :
    withoutCR cur = cur := by
  match cur, h with
  | [], _ => rfl
  | c :: before, h =>
    have hc : c ≠ '\r' := fun e => h (by rw [e]; rfl)
    simp [withoutCR, hc]

/-- Dropping the carriage return only looks at the end of the line. -/
theorem withoutCR_append {cur tail : List Char} (h : tail.head? ≠ some '\r') :
    withoutCR (cur ++ tail) = withoutCR cur ++ tail := by
  match cur with
  | [] =>
    rw [List.nil_append, withoutCR_of_head?_ne h]
    rfl
  | c :: before =>
    by_cases hc : c = '\r'
    · subst hc
      rfl
    · simp [withoutCR, hc]

theorem splitLines_nil (cur : List Char) :
    splitLines cur [] = if cur.isEmpty then [] else [cur.reverse] := rfl

theorem splitLines_newline (cur rest : List Char) :
    splitLines cur ('\n' :: rest) = (withoutCR cur).reverse :: splitLines [] rest := by
  match cur with
  | [] => rfl
  | c :: before =>
    by_cases hc : c = '\r'
    · subst hc
      rfl
    · simp [splitLines, withoutCR, hc]

theorem splitLines_cons_of_ne {c : Char} (hc : c ≠ '\n') (cur rest : List Char) :
    splitLines cur (c :: rest) = splitLines (c :: cur) rest := by
  rw [splitLines]
  simp [hc]

/-- Characters other than line feeds join the current line. -/
theorem splitLines_append_of_not_mem {xs : List Char} (h : '\n' ∉ xs) (cur ys : List Char) :
    splitLines cur (xs ++ ys) = splitLines (xs.reverse ++ cur) ys := by
  induction xs generalizing cur with
  | nil => rfl
  | cons x xs ih =>
    have hx : x ≠ '\n' := fun e => h (e ▸ List.mem_cons_self)
    have hxs : '\n' ∉ xs := fun m => h (List.mem_cons_of_mem _ m)
    rw [List.cons_append, splitLines_cons_of_ne hx, ih hxs]
    simp

/-- A text without a line feed is one line, or none when it is empty. -/
theorem splitLines_of_not_mem {cs : List Char} (h : '\n' ∉ cs) :
    splitLines [] cs = if cs.isEmpty then [] else [cs] := by
  have h' := splitLines_append_of_not_mem h [] []
  rw [List.append_nil, List.append_nil] at h'
  rw [h', splitLines_nil]
  simp

/-- A line with no line feed in it and no carriage return at its end, then a line feed, reads
back as itself. -/
theorem splitLines_line {l : List Char} (hl : '\n' ∉ l) (hr : l.getLast? ≠ some '\r')
    (rest : List Char) : splitLines [] (l ++ '\n' :: rest) = l :: splitLines [] rest := by
  have hcr : l.reverse.head? ≠ some '\r' := by rwa [List.head?_reverse]
  rw [splitLines_append_of_not_mem hl, List.append_nil, splitLines_newline,
    withoutCR_of_head?_ne hcr, List.reverse_reverse]

/-- Lines written one after the other, each with a line feed after it, split back into those
lines. -/
theorem splitLines_flatMap {ls : List (List Char)}
    (h : ∀ l ∈ ls, '\n' ∉ l ∧ l.getLast? ≠ some '\r') :
    splitLines [] (ls.flatMap (· ++ ['\n'])) = ls := by
  induction ls with
  | nil => rfl
  | cons l ls ih =>
    obtain ⟨hl, hr⟩ := h l List.mem_cons_self
    rw [List.flatMap_cons, List.append_assoc, List.singleton_append, splitLines_line hl hr,
      ih fun l' m => h l' (List.mem_cons_of_mem _ m)]

/-! ## Indented text -/

/-- `indent` put after every line feed that does not end the text. -/
def indentAfterBreaks (indent : List Char) : List Char → List Char
  | [] => []
  | '\n' :: c :: rest => '\n' :: (indent ++ indentAfterBreaks indent (c :: rest))
  | c :: rest => c :: indentAfterBreaks indent rest

/-- `indent` put at the start of every line: at the start of the text, and after every line
feed that does not end it. Line endings stay as they are. -/
def indentLines (indent cs : List Char) : List Char :=
  indent ++ indentAfterBreaks indent cs

theorem indentAfterBreaks_cons_of_ne {c : Char} (hc : c ≠ '\n') (indent rest : List Char) :
    indentAfterBreaks indent (c :: rest) = c :: indentAfterBreaks indent rest := by
  cases rest <;> simp [indentAfterBreaks, hc]

section Indented

variable {indent : List Char} (hnl : '\n' ∉ indent) (hcr : indent.getLast? ≠ some '\r')
include hnl hcr

/-- Reading an indented text line by line: with the indentation at the start of the current
line, every line read has the indentation before it. The current line is never the empty one
left by a final line feed, where no indentation was put. -/
theorem splitLines_indentAfterBreaks (cs cur : List Char) (hne : cur ≠ [] ∨ cs ≠ []) :
    splitLines (cur ++ indent.reverse) (indentAfterBreaks indent cs) =
      (splitLines cur cs).map (indent ++ ·) := by
  have hhead : indent.reverse.head? ≠ some '\r' := by rwa [List.head?_reverse]
  induction cs generalizing cur with
  | nil =>
    have hcur : cur ≠ [] := by simpa using hne
    have hcur' : cur ++ indent.reverse ≠ [] := by simp [hcur]
    simp [indentAfterBreaks, splitLines_nil, hcur, hcur']
  | cons c rest ih =>
    by_cases hc : c = '\n'
    · subst hc
      cases rest with
      | nil =>
        simp [indentAfterBreaks, splitLines_newline, withoutCR_append hhead, splitLines_nil]
      | cons d rest =>
        -- the indentation goes after the line feed, before the next line
        have hnext := ih [] (Or.inr (List.cons_ne_nil _ _))
        rw [List.nil_append] at hnext
        simp only [indentAfterBreaks, splitLines_newline, withoutCR_append hhead,
          splitLines_append_of_not_mem hnl, List.append_nil, hnext, List.map_cons,
          List.reverse_append, List.reverse_reverse]
    · rw [indentAfterBreaks_cons_of_ne hc, splitLines_cons_of_ne hc, splitLines_cons_of_ne hc,
        ← List.cons_append]
      exact ih (c :: cur) (Or.inl (List.cons_ne_nil _ _))

/-- Indenting every line of a text that is not empty indents every line it splits into. -/
theorem splitLines_indentLines {cs : List Char} (hcs : cs ≠ []) :
    splitLines [] (indentLines indent cs) = (splitLines [] cs).map (indent ++ ·) := by
  have h := splitLines_indentAfterBreaks hnl hcr cs [] (Or.inr hcs)
  rw [List.nil_append] at h
  rw [indentLines, splitLines_append_of_not_mem hnl, List.append_nil, h]

end Indented

/-- A line followed by a line feed and the rest of a text: the line, then the rest's lines. -/
theorem lines_append_line {l : String} (hl : '\n' ∉ l.toList) (hr : l.toList.getLast? ≠ some '\r')
    (rest : String) : lines (l ++ "\n" ++ rest) = l :: lines rest := by
  unfold lines
  have htext : (l ++ "\n" ++ rest).toList = l.toList ++ '\n' :: rest.toList := by
    simp [String.toList_append]
  rw [htext, splitLines_line hl hr, List.map_cons, String.ofList_toList]

/-! ## Joining lines back -/

/-- Carriage returns and line feeds: what `dropLineEnds` removes from the end of a text. -/
def isLineEnd (c : Char) : Bool := c == '\r' || c == '\n'

theorem dropLineEnds_eq (s : String) :
    dropLineEnds s = String.ofList (s.toList.rdropWhile isLineEnd) := rfl

/-- Dropping from the end of `xs ++ ys` looks at `xs` only when all of `ys` goes. -/
theorem rdropWhile_append {α : Type} (p : α → Bool) (xs ys : List α) :
    (xs ++ ys).rdropWhile p =
      if ys.rdropWhile p = [] then xs.rdropWhile p else xs ++ ys.rdropWhile p := by
  unfold List.rdropWhile
  rw [List.reverse_append, List.dropWhile_append]
  by_cases h : ys.reverse.dropWhile p = []
  · simp [h]
  · simp [h, List.isEmpty_iff]

theorem rdropWhile_append_congr {α : Type} (p : α → Bool) (xs : List α) {ys zs : List α}
    (h : ys.rdropWhile p = zs.rdropWhile p) :
    (xs ++ ys).rdropWhile p = (xs ++ zs).rdropWhile p := by
  rw [rdropWhile_append, rdropWhile_append, h]

/-- The line a line feed ends is the current line, less a carriage return at its end. -/
theorem withoutCR_subset (cur : List Char) : withoutCR cur ⊆ cur := by
  unfold withoutCR
  split <;> simp

/-- No line holds a line feed. -/
theorem not_mem_splitLines {cur cs : List Char} (hcur : '\n' ∉ cur) :
    ∀ l ∈ splitLines cur cs, '\n' ∉ l := by
  induction cs generalizing cur with
  | nil =>
    intro l hl
    rw [splitLines_nil] at hl
    split at hl
    · simp at hl
    · rw [List.mem_singleton] at hl
      simpa [hl] using hcur
  | cons c rest ih =>
    by_cases hc : c = '\n'
    · subst hc
      rw [splitLines_newline]
      intro l hl
      rcases List.mem_cons.mp hl with rfl | hl
      · simpa using fun h => hcur (withoutCR_subset cur h)
      · exact ih (by simp) l hl
    · rw [splitLines_cons_of_ne hc]
      exact ih (by simp [hcur, Ne.symm hc])

/-- A non-empty end of a text that is left after its trailing line ends is left of any longer
text ending the same way. -/
theorem infix_rdropWhile_append {α : Type} (p : α → Bool) {l : List α} (hl : l ≠ []) (xs : List α)
    {ys : List α} (h : l <:+: ys.rdropWhile p) : l <:+: (xs ++ ys).rdropWhile p := by
  rw [rdropWhile_append]
  split
  · next hnil => exact absurd (List.eq_nil_of_infix_nil (hnil ▸ h)) hl
  · exact h.trans (List.suffix_append _ _).isInfix

/-- Writing the lines of a text back, each with a line feed after it, gives the text up to its
trailing carriage returns and line feeds, when no carriage return stands before a line feed
that more than line ends follow. -/
theorem rdropWhile_flatMap_splitLines (cur cs : List Char)
    (hcrlf : ¬ ['\r', '\n'] <:+: (cur.reverse ++ cs).rdropWhile isLineEnd) :
    ((splitLines cur cs).flatMap (· ++ ['\n'])).rdropWhile isLineEnd =
      (cur.reverse ++ cs).rdropWhile isLineEnd := by
  induction cs generalizing cur with
  | nil =>
    rw [splitLines_nil, List.append_nil]
    split
    · next h => simp [List.isEmpty_iff.mp h]
    · rw [List.flatMap_singleton, List.rdropWhile_concat_pos _ _ _ rfl]
  | cons c rest ih =>
    by_cases hc : c = '\n'
    · subst hc
      rw [splitLines_newline, List.flatMap_cons, List.append_assoc]
      by_cases hcr : cur.head? = some '\r'
      · -- a carriage return before this line feed: only line ends may follow it
        obtain ⟨before, rfl⟩ : ∃ before, cur = '\r' :: before := by
          cases cur with
          | nil => cases hcr
          | cons d before => cases hcr; exact ⟨before, rfl⟩
        have hnil : rest.rdropWhile isLineEnd = [] := by
          by_contra hne
          apply hcrlf
          rw [show ('\r' :: before).reverse ++ '\n' :: rest = (before.reverse ++ ['\r', '\n']) ++ rest by
            simp, rdropWhile_append, if_neg hne]
          exact List.infix_append _ _ _
        have hflat : ((splitLines [] rest).flatMap (· ++ ['\n'])).rdropWhile isLineEnd = [] := by
          rw [ih [] (by simp [hnil]), List.reverse_nil, List.nil_append, hnil]
        have hl : (['\n'] ++ (splitLines [] rest).flatMap (· ++ ['\n'])).rdropWhile isLineEnd = [] := by
          rw [rdropWhile_append, if_pos hflat]
          rfl
        have hr : (['\r', '\n'] ++ rest).rdropWhile isLineEnd = [] := by
          rw [rdropWhile_append, if_pos hnil]
          rfl
        rw [withoutCR, List.reverse_cons, List.append_assoc]
        exact rdropWhile_append_congr _ _ (hl.trans hr.symm)
      · have hrest := ih [] fun hin => hcrlf <| by
          simpa using infix_rdropWhile_append isLineEnd (by simp) (cur.reverse ++ ['\n']) (by simpa using hin)
        rw [withoutCR_of_head?_ne hcr]
        apply rdropWhile_append_congr
        -- past the line, only what is left after the line feed can differ
        exact rdropWhile_append_congr _ ['\n'] hrest
    · rw [splitLines_cons_of_ne hc, ih (c :: cur) (by simpa using hcrlf)]
      simp

theorem intercalate_append_singleton {α : Type} (sep : List α) (ls : List (List α))
    (l : List α) : sep.intercalate (ls ++ [l]) = ls.flatMap (· ++ sep) ++ l := by
  induction ls with
  | nil => simp
  | cons a ls ih =>
    rw [List.cons_append, List.intercalate_cons_of_ne_nil (by simp), ih, List.flatMap_cons]
    simp

/-- Lines written back each with a line feed after it, up to the trailing carriage returns and
line feeds, are the lines up to the trailing empty ones joined by line feeds. -/
theorem rdropWhile_flatMap_lines {ls : List (List Char)}
    (h : ∀ l ∈ ls, '\n' ∉ l ∧ l.getLast? ≠ some '\r') :
    (ls.flatMap (· ++ ['\n'])).rdropWhile isLineEnd =
      ['\n'].intercalate (ls.rdropWhile List.isEmpty) := by
  induction ls using List.reverseRecOn with
  | nil => rfl
  | append_singleton ls l ih =>
    obtain ⟨hnl, hcr⟩ := h l (by simp)
    rw [List.flatMap_append, List.flatMap_singleton, ← List.append_assoc,
      List.rdropWhile_concat_pos _ _ _ rfl, List.rdropWhile_concat]
    cases l using List.reverseRecOn with
    | nil =>
      rw [List.append_nil, ih fun l' m => h l' (List.mem_append_left _ m)]
      rfl
    | append_singleton l c _ =>
      -- a last line that is not empty ends in a character that is not a line end
      have hc : isLineEnd c = false := by
        have hcn : c ≠ '\n' := fun e => hnl (by simp [e])
        have hcr' : c ≠ '\r' := fun e => hcr (by simp [e])
        simp [isLineEnd, hcn, hcr']
      rw [← List.append_assoc, List.rdropWhile_concat_neg _ _ _ (by simp [hc]), if_neg (by simp),
        intercalate_append_singleton, List.append_assoc]

/-- In a text where no line ends in a carriage return and no carriage return stands before a
line feed that more than line ends follow, its lines less the trailing empty ones, joined by line
feeds, are the text less its trailing carriage returns and line feeds. -/
theorem intercalate_rdropWhile_splitLines {cs : List Char}
    (hcrlf : ¬ ['\r', '\n'] <:+: cs.rdropWhile isLineEnd)
    (hend : ∀ l ∈ splitLines [] cs, l.getLast? ≠ some '\r') :
    ['\n'].intercalate ((splitLines [] cs).rdropWhile List.isEmpty) = cs.rdropWhile isLineEnd := by
  rw [← rdropWhile_flatMap_lines fun l hl => ⟨not_mem_splitLines (by simp) l hl, hend l hl⟩,
    rdropWhile_flatMap_splitLines [] cs (by simpa)]
  rfl

end TranscriptTest.Text
