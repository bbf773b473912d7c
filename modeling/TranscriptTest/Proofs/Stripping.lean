import TranscriptTest.Proofs.Marker

/-!
# What removing the indentation removes

A blank line comes out empty; any other line loses only the spaces and tabs it shares with the
indentation. Lines are compared by characters, but as the indentation is single-byte characters,
that is the longest common prefix of their UTF-8 bytes (`stripIndentation_keeps_text`). A blank
prompt line comes out empty too (`blank_prompt_line_strips_to_empty`).
-/

namespace TranscriptTest.Transcript

open TranscriptTest.Text TranscriptTest.Unicode

/-- How many leading UTF-8 bytes two texts share: the equal pairs that start the zip of their
bytes. -/
def sharedBytes (a b : String) : Nat :=
  ((a.toUTF8.data.toList.zip b.toUTF8.data.toList).takeWhile fun x => x.1 == x.2).length

theorem toList_data_toUTF8 (s : String) :
    s.toUTF8.data.toList = s.toList.flatMap String.utf8EncodeChar := by
  rw [String.toUTF8_eq_toByteArray, ← String.utf8Encode_toList, List.utf8Encode,
    List.toList_data_toByteArray]

theorem utf8EncodeChar_of_lt {c : Char} (h : c.toNat < 0x80) :
    String.utf8EncodeChar c = [UInt8.ofNat c.toNat] := by
  have : c.toNat ≤ 127 := by omega
  simp [String.utf8EncodeChar, this]

/-- A character's encoding starts with the byte of a single-byte character only when it is that
character: the first byte of a longer encoding is at least `0xC0`. -/
theorem head?_utf8EncodeChar_eq {c d : Char} (hd : d.toNat < 0x80) :
    (String.utf8EncodeChar c).head? = some (UInt8.ofNat d.toNat) ↔ c = d := by
  constructor
  · intro h
    have hb := congrArg (Option.map UInt8.toNat) h
    by_cases h1 : c.toNat ≤ 127
    · simp [String.utf8EncodeChar, h1] at hb
      exact Char.toNat_inj.mp (by omega)
    · by_cases h2 : c.toNat ≤ 2047
      · simp [String.utf8EncodeChar, h1, h2] at hb
        omega
      · by_cases h3 : c.toNat ≤ 65535
        · simp [String.utf8EncodeChar, h1, h2, h3] at hb
          omega
        · simp [String.utf8EncodeChar, h1, h2, h3] at hb
          omega
  · rintro rfl
    simp [utf8EncodeChar_of_lt hd]

theorem toNat_lt_of_isIndent {d : Char} (hd : isIndent d = true) : d.toNat < 0x80 := by
  have hd' : d = ' ' ∨ d = '\t' := by simpa [isIndent] using hd
  rcases hd' with rfl | rfl <;> decide

/-- What a line shares with the indentation is a prefix of the indentation. -/
theorem take_sharedLength_prefixOf (l indent : List Char) : l.take (sharedLength l indent) <+: indent := by
  induction l generalizing indent with
  | nil => simp
  | cons a as ih =>
    cases indent with
    | nil => simp [sharedLength]
    | cons b bs =>
      by_cases hab : a = b
      · subst hab
        simpa [sharedLength] using ih bs
      · simp [sharedLength, hab]

section Indentation

variable {indent : List Char} (hi : ∀ c ∈ indent, isIndent c = true)
include hi

theorem isIndent_of_mem_take_sharedLength (l : List Char) :
    ∀ c ∈ l.take (sharedLength l indent), isIndent c = true :=
  fun c hc => hi c ((take_sharedLength_prefixOf l indent).subset hc)

/-- Over bytes, the shared prefix is the encoding of the characters shared: a character of the
indentation is one byte, and no other character's encoding starts with it. -/
theorem sharedBytes_eq (l : List Char) :
    ((l.flatMap String.utf8EncodeChar).zip (indent.flatMap String.utf8EncodeChar)).takeWhile
        (fun x => x.1 == x.2) =
      ((l.take (sharedLength l indent)).flatMap String.utf8EncodeChar).map fun b => (b, b) := by
  induction l generalizing indent with
  | nil => simp
  | cons a as ih =>
    cases indent with
    | nil => simp [sharedLength]
    | cons b bs =>
      have hb : String.utf8EncodeChar b = [UInt8.ofNat b.toNat] :=
        utf8EncodeChar_of_lt (toNat_lt_of_isIndent (hi b (List.mem_cons_self ..)))
      have hbs : ∀ c ∈ bs, isIndent c = true := fun c h => hi c (List.mem_cons_of_mem _ h)
      by_cases hab : a = b
      · subst hab
        simp [sharedLength, hb, ih hbs]
      · -- the first byte of `a` already differs from the byte of `b`
        obtain ⟨x, xs, hx⟩ : ∃ x xs, String.utf8EncodeChar a = x :: xs :=
          List.exists_cons_of_ne_nil String.utf8EncodeChar_ne_nil
        have hne : x ≠ UInt8.ofNat b.toNat := fun h => hab <|
          (head?_utf8EncodeChar_eq (toNat_lt_of_isIndent (hi b (List.mem_cons_self ..)))).mp
            (by simp [hx, h])
        simp [sharedLength, hab, hb, hx, hne]

/-- A line is emptied exactly when it is blank. -/
theorem stripLine_eq_empty_iff (l : String) : stripLine indent l = "" ↔ isBlankLine l = true := by
  refine ⟨fun h => ?_, fun h => by simp [stripLine, h]⟩
  by_contra hl
  have hdrop : l.toList.drop (sharedLength l.toList indent) = [] := by
    simpa [stripLine, hl] using congrArg String.toList h
  -- with nothing left, the whole line is shared indentation, hence blank
  have hall : ∀ c ∈ l.toList, isIndent c = true := by
    rw [← List.take_append_drop (sharedLength l.toList indent) l.toList, hdrop, List.append_nil]
    exact isIndent_of_mem_take_sharedLength hi l.toList
  exact hl (List.all_eq_true.mpr fun c hc => isBlank_of_isIndent (hall c hc))

/-- A line that is not blank loses a run of spaces and tabs, as many bytes long as the prefix the
line shares with the indentation. -/
theorem stripLine_of_not_blank (l : String) (hl : isBlankLine l = false) :
    ∃ pre, l.toList = pre ++ (stripLine indent l).toList ∧ (∀ c ∈ pre, isIndent c = true) ∧
      (String.ofList pre).utf8ByteSize = sharedBytes l (String.ofList indent) := by
  refine ⟨l.toList.take (sharedLength l.toList indent), ?_, isIndent_of_mem_take_sharedLength hi _, ?_⟩
  · simp [stripLine, hl]
  · rw [sharedBytes, toList_data_toUTF8, toList_data_toUTF8, String.toList_ofList, sharedBytes_eq hi,
      List.length_map, ← String.size_toByteArray, ← String.utf8Encode_toList, String.toList_ofList,
      List.utf8Encode, List.size_toByteArray]

end Indentation

theorem isIndent_of_mem_indentation (p : Prompts) (ls : List String) :
    ∀ c ∈ indentation p ls, isIndent c = true := by
  have hof : ∀ l, ∀ c ∈ indentOf l, isIndent c = true := fun l c hc =>
    List.mem_takeWhile_imp hc
  unfold indentation
  split
  · exact hof _
  · split
    · exact hof _
    · simp

/-- A line shares all of a prefix it starts with. -/
theorem sharedLength_of_prefixOf {pre l : List Char} (h : pre <+: l) : sharedLength l pre = pre.length := by
  obtain ⟨rest, rfl⟩ := h
  induction pre with
  | nil => cases rest <;> rfl
  | cons c pre ih => simp [sharedLength, ih]

/-- The line the indentation is taken from keeps the primary prompt, unless it is blank. -/
theorem stripLine_prompt_line (p : Prompts) (ls : List String) (l : String)
    (hfirst : ls.find? p.opensLine = some l) (hl : isBlankLine l = false) :
    p.primary.toList <+: (stripLine (indentation p ls) l).toList := by
  have hind : indentation p ls = indentOf l := by simp [indentation, hfirst]
  have hopens : p.opensLine l = true := List.find?_some hfirst
  have hshared : sharedLength l.toList (indentOf l) = (indentOf l).length :=
    sharedLength_of_prefixOf (List.takeWhile_prefix _)
  -- what the indentation leaves of its own line is the line after its spaces and tabs
  have hdrop : l.toList.drop (indentOf l).length = l.toList.dropWhile isIndent :=
    (congrArg (List.drop _) (List.takeWhile_append_dropWhile (p := isIndent))).symm.trans
      (List.drop_left' rfl)
  rw [hind]
  simpa [stripLine, hl, hshared, hdrop, Prompts.opensLine] using hopens

/-- Stripping only removes indentation: one entry per line, empty exactly for a blank line, else
the line less the spaces and tabs of its common byte prefix with the indentation. -/
theorem stripIndentation_keeps_text (p : Prompts) (t : String) :
    let ls := lines t
    let indent := indentation p ls
    stripIndentation t p = ls.map (stripLine indent) ∧
      (∀ l, (stripLine indent l = "" ↔ isBlankLine l = true) ∧
        (isBlankLine l = false → ∃ pre, l.toList = pre ++ (stripLine indent l).toList ∧
          (∀ c ∈ pre, isIndent c = true) ∧
          (String.ofList pre).utf8ByteSize = sharedBytes l (String.ofList indent))) ∧
      (∀ l, ls.find? p.opensLine = some l → isBlankLine l = false →
        p.primary.toList <+: (stripLine indent l).toList) := by
  intro ls indent
  have hi := isIndent_of_mem_indentation p ls
  exact ⟨rfl, fun l => ⟨stripLine_eq_empty_iff hi l, stripLine_of_not_blank hi l⟩,
    fun l => stripLine_prompt_line p ls l⟩

/-- A prompt of White_Space is stripped away with its line: with the prompt `U+00A0`, which
starts with neither a space nor a tab, the line `U+00A0` is the first to start with the prompt,
and it comes out empty. -/
theorem blank_prompt_line_strips_to_empty :
    let p : Prompts := ⟨"\u00A0", ">"⟩
    isIndent '\u00A0' = false ∧ (lines "\u00A0\n").find? p.opensLine = some "\u00A0" ∧
      stripIndentation "\u00A0\n" p = [""] ∧ ¬ p.primary.toList <+: "".toList := by
  decide

end TranscriptTest.Transcript
