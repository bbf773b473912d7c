/-!
# Blank characters

The White_Space property of Unicode 15.0: what trimming removes, what makes a line blank, and
what `\s` matches in a pattern.
-/

namespace TranscriptTest.Unicode

/-- The White_Space ranges, inclusive. -/
def blankRanges : List (Nat × Nat) :=
  [(0x9, 0xD), (0x20, 0x20), (0x85, 0x85), (0xA0, 0xA0), (0x1680, 0x1680), (0x2000, 0x200A),
   (0x2028, 0x2029), (0x202F, 0x202F), (0x205F, 0x205F), (0x3000, 0x3000)]

/-- Whether a character has the White_Space property. -/
def isBlank (c : Char) : Bool :=
  blankRanges.any fun r => r.1 <= c.toNat && c.toNat <= r.2

/-- The four blanks that core knows are blanks here too. -/
theorem isBlank_of_isWhitespace (c : Char) (h : c.isWhitespace = true) : isBlank c = true := by
  simp only [Char.isWhitespace, Bool.or_eq_true, decide_eq_true_eq] at h
  rcases h with ((h | h) | h) | h <;> subst h <;> decide

end TranscriptTest.Unicode
