import TranscriptTest.Pattern.CharSet

/-!
# Pattern syntax

The tree a pattern is read into. Literals, classes and the dot all become `char` nodes holding
a character set; flags are resolved while reading, so the tree has no flag nodes.
-/

namespace TranscriptTest.Pattern

/-- Flags that change how the rest of a group is read. -/
structure Flags where
  /-- `i`: letters match their case variants. -/
  caseless : Bool := false
  /-- `m`: `^` and `$` match at line ends too. -/
  multiLine : Bool := false
  /-- `s`: `.` matches a line feed. -/
  dotAll : Bool := false
  /-- `U`: repetitions are lazy unless marked with `?`. -/
  swapGreed : Bool := false
  /-- `x`: blanks and `#` comments are ignored. -/
  verbose : Bool := false
  /-- `u`: classes and word boundaries use Unicode. -/
  unicode : Bool := true
  /-- `R`: a carriage return also ends a line. -/
  crlf : Bool := false
  deriving Inhabited

/-- Zero-width assertions. -/
inductive Look where
  | textStart
  | textEnd
  | lineStart
  | lineEnd
  | lineStartCRLF
  | lineEndCRLF
  | wordBoundary (unicode : Bool)
  | notWordBoundary (unicode : Bool)
  | wordStart (unicode : Bool)
  | wordEnd (unicode : Bool)
  | wordStartHalf (unicode : Bool)
  | wordEndHalf (unicode : Bool)
  deriving Inhabited

/-- A pattern as a tree. -/
inductive Node where
  /-- Matches the empty text. -/
  | empty
  /-- One character of the set. -/
  | char (s : CharSet)
  | look (l : Look)
  /-- A group; `some i` records its span as capture group `i`. -/
  | group (index : Option Nat) (body : Node)
  | concat (parts : List Node)
  /-- Alternatives in order of preference. -/
  | alt (branches : List Node)
  /-- Between `min` and `max` repetitions (`none`: unbounded). -/
  | rep (body : Node) (min : Nat) (max : Option Nat) (greedy : Bool)
  deriving Inhabited

/-- Why a pattern cannot be read. -/
inductive PatternError where
  | unclosedGroup
  | unopenedGroup
  | unclosedClass
  | invalidClassRange
  | classRangeNotLiteral
  | classEscapeInvalid
  | repetitionMissing
  | repetitionCountInvalid
  | repetitionCountUnclosed
  | repetitionCountDecimal
  | escapeUnexpectedEnd
  | escapeUnrecognized
  | backreference
  | lookAround
  | hexInvalid
  | propertyNotFound
  | groupNameInvalid
  | groupNameDuplicate
  | groupNameEmpty
  | groupNameUnexpectedEnd
  | flagUnrecognized
  | flagDuplicate
  | flagDanglingNegation
  | flagRepeatedNegation
  | flagUnexpectedEnd
  | specialWordBoundary
  | invalidUtf8
  | tooComplex
  /-- Groups, repetitions and classes nest more than 250 levels deep. -/
  | nestedTooDeep
  /-- The automaton built for the pattern would take more than its memory limit. -/
  | tooLarge
  deriving Inhabited, BEq

mutual
/-- The least number of characters a match of the node consumes. -/
def Node.minLen : Node -> Nat
  | .empty => 0
  | .char _ => 1
  | .look _ => 0
  | .group _ b => b.minLen
  | .concat ps => Node.minLenSum ps
  | .alt bs => Node.minLenLeast bs
  | .rep b min _ _ => min * b.minLen

/-- Sum of the least lengths of a sequence. -/
def Node.minLenSum : List Node -> Nat
  | [] => 0
  | p :: ps => p.minLen + Node.minLenSum ps

/-- Least of the least lengths of alternatives. -/
def Node.minLenLeast : List Node -> Nat
  | [] => 0
  | [b] => b.minLen
  | b :: bs => Nat.min b.minLen (Node.minLenLeast bs)
end

end TranscriptTest.Pattern
