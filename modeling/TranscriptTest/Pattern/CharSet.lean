import TranscriptTest.Unicode.Ranges
import TranscriptTest.Unicode.CaseFold
import TranscriptTest.Unicode.Word
import TranscriptTest.Unicode.Category
import TranscriptTest.Unicode.Age
import TranscriptTest.Unicode.Blank

/-!
# Character sets

The sets of characters a pattern can name: ranges, Unicode tables, and their boolean
combinations, over code points (or, for the script engine without Unicode mode, UTF-16 units).
Case-insensitive sets are closed under a folding: a character belongs when any member of its
orbit does. Closing comes before complementing, so `(?i)[^a]` refuses both `a` and `A`.
-/

namespace TranscriptTest.Pattern

open TranscriptTest.Unicode

/-- A set of characters. -/
inductive CharSet where
  /-- Code points from `lo` to `hi`, inclusive. -/
  | range (lo hi : Nat)
  /-- The code points of a Unicode table. -/
  | table (t : RangeTable)
  | union (a b : CharSet)
  | inter (a b : CharSet)
  | diff (a b : CharSet)
  | symmDiff (a b : CharSet)
  | compl (a : CharSet)
  /-- Closure under a case folding. -/
  | caseless (fold : Folding) (a : CharSet)
  deriving Inhabited

namespace CharSet

/-- Membership of a code point. -/
def containsCode : CharSet -> Nat -> Bool
  | range lo hi, c => lo <= c && c <= hi
  | table t, c => t.containsNat c
  | union a b, c => a.containsCode c || b.containsCode c
  | inter a b, c => a.containsCode c && b.containsCode c
  | diff a b, c => a.containsCode c && !b.containsCode c
  | symmDiff a b, c => a.containsCode c != b.containsCode c
  | compl a, c => !a.containsCode c
  | caseless fold a, c => (fold.orbit c).any fun d => a.containsCode d

/-- Membership of a character. -/
def contains (s : CharSet) (c : Char) : Bool := s.containsCode c.toNat

/-- The set holding nothing. -/
def empty : CharSet := range 1 0

/-- One character. -/
def single (c : Char) : CharSet := range c.toNat c.toNat

/-- Every character. -/
def all : CharSet := range 0 0x10FFFF

/-- The union of a list of sets. -/
def unionAll : List CharSet -> CharSet
  | [] => empty
  | [a] => a
  | a :: rest => union a (unionAll rest)

/-- The union of a list of inclusive ranges. -/
def ofRanges (rs : List (Nat × Nat)) : CharSet :=
  unionAll (rs.map fun r => range r.1 r.2)

/-- `\w` with Unicode: the word characters. -/
def word : CharSet := table wordTable

/-- `\d` with Unicode: decimal digits, as Unicode 16.0 knows them. -/
def digit : CharSet := diff (table ((category? "Nd").getD default)) (table addedIn17)

/-- `\s` with Unicode: White_Space. -/
def blank : CharSet := ofRanges blankRanges

/-- `\w` without Unicode. -/
def asciiWord : CharSet := ofRanges [(0x30, 0x39), (0x41, 0x5A), (0x5F, 0x5F), (0x61, 0x7A)]

/-- `\d` without Unicode. -/
def asciiDigit : CharSet := range 0x30 0x39

/-- `\s` without Unicode: tab, line feed, vertical tab, form feed, carriage return, space. -/
def asciiBlank : CharSet := ofRanges [(0x9, 0xD), (0x20, 0x20)]

end CharSet

/-- Word characters as word boundaries see them, with or without Unicode. -/
def isWordChar (unicode : Bool) (c : Char) : Bool :=
  if unicode then isWord c else CharSet.asciiWord.contains c

end TranscriptTest.Pattern
