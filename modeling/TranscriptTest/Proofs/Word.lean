import TranscriptTest.Unicode.Word

/-!
# Characters below the word table

The word table is read from its range code when it is first used, and searched by bisection.
Its ranges come out sorted, each starting at or after the code's first number
(`le_of_mem_foldl_rangeStep`), and a bisection over sorted ranges finds nothing below the first
(`containsNat_eq_false`). The word table's code starts at `0` (U+0030), so no control character,
space or punctuation below the digits is a word character (`isWord_eq_false_of_lt`): this is
what makes line breaks, tabs and spaces word boundaries for the `EXPECT FAIL` marker.
-/

namespace TranscriptTest.Unicode.RangeTable

/-- One character of a range code read: the number so far and the numbers finished. -/
def codeStep : Nat × Array Nat → Char → Nat × Array Nat
  | (acc, out), c =>
    match codeDigit? c with
    | some (d, true) => (0, out.push (32 * acc + d))
    | some (d, false) => (32 * acc + d, out)
    | none => (acc, out)

theorem codeNumbers_eq_foldl (s : String) :
    codeNumbers s = (s.toList.foldl codeStep (0, #[])).2 := rfl

/-- Reading a character of a range code only ever adds numbers after those finished. -/
theorem codeStep_extends (x : Nat × Array Nat) (c : Char) : ∃ ys, (codeStep x c).2 = x.2 ++ ys := by
  obtain ⟨acc, out⟩ := x
  cases h : codeDigit? c with
  | none => exact ⟨#[], by simp [codeStep, h]⟩
  | some p =>
    obtain ⟨d, ends⟩ := p
    cases ends
    · exact ⟨#[], by simp [codeStep, h]⟩
    · exact ⟨#[32 * acc + d], by simp only [codeStep, h]; rfl⟩

theorem foldl_codeStep_extends (cs : List Char) (x : Nat × Array Nat) :
    ∃ ys, (cs.foldl codeStep x).2 = x.2 ++ ys := by
  induction cs generalizing x with
  | nil => exact ⟨#[], by simp⟩
  | cons c cs ih =>
    obtain ⟨ys, hys⟩ := codeStep_extends x c
    obtain ⟨zs, hzs⟩ := ih (codeStep x c)
    exact ⟨ys ++ zs, by rw [List.foldl_cons, hzs, hys, Array.append_assoc]⟩

theorem codeNumbers_getElem?_zero {s : String} {rest : List Char}
    (h : s.toList = 'b' :: 'G' :: rest) : (codeNumbers s)[0]? = some 48 := by
  rw [codeNumbers_eq_foldl, h, List.foldl_cons, List.foldl_cons]
  obtain ⟨ys, hys⟩ := foldl_codeStep_extends rest (codeStep (codeStep (0, #[]) 'b') 'G')
  have hfirst : codeStep (codeStep (0, #[]) 'b') 'G' = (0, #[48]) := by decide
  rw [hys, hfirst, Array.getElem?_append_left (by decide)]
  rfl

theorem wordText_toList : ∃ rest, wordText.toList = 'b' :: 'G' :: rest := by
  obtain ⟨l, ls, hw, hl⟩ : ∃ l ls, wordText = String.join (l :: ls) ∧ l.toList.take 2 = ['b', 'G'] :=
    ⟨_, _, rfl, by decide⟩
  have hl' : l.toList = 'b' :: 'G' :: l.toList.drop 2 := by
    calc l.toList = l.toList.take 2 ++ l.toList.drop 2 := (List.take_append_drop 2 _).symm
      _ = _ := by rw [hl]; rfl
  refine ⟨l.toList.drop 2 ++ ls.flatMap String.toList, ?_⟩
  rw [hw, String.toList_join, List.flatMap_cons, hl']
  rfl

/-- One range of a range code read: where the next range may start, and the ranges so far. -/
def rangeStep (nums : Array Nat) : Nat × Array (Nat × Nat) → Nat → Nat × Array (Nat × Nat)
  | (next, out), i =>
    let lo := next + nums.getD (2 * i) 0
    let hi := lo + nums.getD (2 * i + 1) 0
    (hi + 1, out.push (lo, hi))

theorem ofCode_ranges (s : String) :
    (ofCode s).ranges =
      ((List.range ((codeNumbers s).size / 2)).foldl (rangeStep (codeNumbers s)) (0, #[])).2 :=
  rfl

/-- Every range read from a code starts at or after the code's first number: the first range
starts there, and each later one after the one before ends. -/
theorem le_of_mem_foldl_rangeStep (nums : Array Nat) (m : Nat) :
    (∀ r ∈ ((List.range m).foldl (rangeStep nums) (0, #[])).2, nums.getD 0 0 ≤ r.1) ∧
      (m = 0 ∨ nums.getD 0 0 ≤ ((List.range m).foldl (rangeStep nums) (0, #[])).1) := by
  induction m with
  | zero => simp
  | succ m ih =>
    obtain ⟨hall, hnext⟩ := ih
    rw [List.range_succ, List.foldl_append, List.foldl_cons, List.foldl_nil]
    generalize hst : (List.range m).foldl (rangeStep nums) (0, #[]) = st at hall hnext
    obtain ⟨next, out⟩ := st
    have hlo : nums.getD 0 0 ≤ next + nums.getD (2 * m) 0 := by
      rcases hnext with rfl | hle
      · simp at hst
        simp [← hst]
      · exact Nat.le_trans hle (Nat.le_add_right _ _)
    refine ⟨fun r hr => ?_, Or.inr ?_⟩
    · simp only [rangeStep, Array.mem_push] at hr
      rcases hr with hr | rfl
      · exact hall r hr
      · exact hlo
    · simp only [rangeStep]
      omega

/-- A code point below every range lies in none: the bisection only ever moves left. -/
theorem containsNat_eq_false (t : RangeTable) (c : Nat) (h : ∀ r ∈ t.ranges, c < r.1) :
    t.containsNat c = false := by
  unfold containsNat
  generalize 0 = lo
  generalize t.ranges.size = hi
  fun_induction containsNat.go t c lo hi with
  | case1 lo hi hlt mid a b hmid hca ih => exact ih
  | case2 lo hi hlt mid a b hmid hca hbc ih =>
    have := h (a, b) (Array.mem_of_getElem? hmid)
    simp at this; omega
  | case3 lo hi hlt mid a b hmid hca hbc =>
    have := h (a, b) (Array.mem_of_getElem? hmid)
    simp at this; omega
  | case4 => rfl
  | case5 => rfl

end TranscriptTest.Unicode.RangeTable

namespace TranscriptTest.Unicode

/-- No character below `0` is a word character. -/
theorem isWord_eq_false_of_lt {c : Char} (hc : c.toNat < 48) : isWord c = false := by
  apply RangeTable.containsNat_eq_false
  intro r hr
  obtain ⟨rest, htext⟩ := RangeTable.wordText_toList
  have h48 : (RangeTable.codeNumbers wordText).getD 0 0 = 48 := by
    rw [Array.getD_eq_getD_getElem?, RangeTable.codeNumbers_getElem?_zero htext]
    rfl
  have hwt : wordTable = RangeTable.ofCode wordText := rfl
  rw [hwt, RangeTable.ofCode_ranges] at hr
  have := (RangeTable.le_of_mem_foldl_rangeStep _ _).1 r hr
  rw [h48] at this
  omega

end TranscriptTest.Unicode
