import TranscriptTest.Unicode.Category
import TranscriptTest.Unicode.Script

/-!
# Text segmentation

Cutting text into the pieces a reader sees: user-perceived characters (grapheme clusters),
words and sentences, after the rules of Unicode text segmentation.
-/

namespace TranscriptTest.Unicode

/-! ## Grapheme clusters -/

/-- What a code point does in a grapheme cluster. -/
inductive GraphemeClass where
  | cr
  | lf
  | control
  | extend
  | zwj
  | regional
  | spacingMark
  | prepend
  | hangulL
  | hangulV
  | hangulT
  | hangulLV
  | hangulLVT
  | pictographic
  | other
  deriving Inhabited, BEq

def nonspacingTable : RangeTable := (category? "Mn").getD default
def enclosingTable : RangeTable := (category? "Me").getD default
def spacingTable : RangeTable := (category? "Mc").getD default
def controlTable : RangeTable := (category? "Cc").getD default
def formatCharTable : RangeTable := (category? "Cf").getD default

/-- Whether a code point is in a list of ranges. -/
def withinRanges (c : Nat) (rs : List (Nat × Nat)) : Bool :=
  rs.any fun (lo, hi) => lo <= c && c <= hi

/-- The pictographs emoji sequences join. -/
def isPictographic (c : Nat) : Bool :=
  withinRanges c [(0xA9, 0xA9), (0xAE, 0xAE), (0x203C, 0x203C), (0x2049, 0x2049),
    (0x2122, 0x2122), (0x2139, 0x2139), (0x2194, 0x2199), (0x21A9, 0x21AA), (0x231A, 0x231B),
    (0x2328, 0x2328), (0x2388, 0x2388), (0x23CF, 0x23CF), (0x23E9, 0x23F3), (0x23F8, 0x23FA),
    (0x24C2, 0x24C2), (0x25AA, 0x25AB), (0x25B6, 0x25B6), (0x25C0, 0x25C0), (0x25FB, 0x25FE),
    (0x2600, 0x27BF), (0x2934, 0x2935), (0x2B05, 0x2B07), (0x2B1B, 0x2B1C), (0x2B50, 0x2B50),
    (0x2B55, 0x2B55), (0x3030, 0x3030), (0x303D, 0x303D), (0x3297, 0x3297), (0x3299, 0x3299),
    (0x1F000, 0x1F0FF), (0x1F10D, 0x1F10F), (0x1F12F, 0x1F12F), (0x1F16C, 0x1F171),
    (0x1F17E, 0x1F17F), (0x1F18E, 0x1F18E), (0x1F191, 0x1F19A), (0x1F1AD, 0x1F1E5),
    (0x1F201, 0x1F20F), (0x1F21A, 0x1F21A), (0x1F22F, 0x1F22F), (0x1F232, 0x1F23A),
    (0x1F23C, 0x1F23F), (0x1F249, 0x1F3FA), (0x1F400, 0x1F53D), (0x1F546, 0x1F64F),
    (0x1F680, 0x1F6FF), (0x1F774, 0x1F77F), (0x1F7D5, 0x1F7FF), (0x1F80C, 0x1F80F),
    (0x1F848, 0x1F84F), (0x1F85A, 0x1F85F), (0x1F888, 0x1F88F), (0x1F8AE, 0x1F8FF),
    (0x1F90C, 0x1F93A), (0x1F93C, 0x1F945), (0x1F947, 0x1FAFF), (0x1FC00, 0x1FFFD)]

/-- The class of a code point in grapheme clusters. -/
def graphemeClass (c : Nat) : GraphemeClass :=
  if c == 0x0D then .cr
  else if c == 0x0A then .lf
  else if c == 0x200D then .zwj
  else if c == 0x200C || withinRanges c [(0xFF9E, 0xFF9F), (0x1F3FB, 0x1F3FF), (0xE0020, 0xE007F)]
    || nonspacingTable.containsNat c || enclosingTable.containsNat c then .extend
  else if withinRanges c [(0x600, 0x605), (0x6DD, 0x6DD), (0x70F, 0x70F), (0x890, 0x891),
    (0x8E2, 0x8E2), (0x110BD, 0x110BD), (0x110CD, 0x110CD)] then .prepend
  else if controlTable.containsNat c || formatCharTable.containsNat c || c == 0x2028 || c == 0x2029
    then .control
  else if withinRanges c [(0x1F1E6, 0x1F1FF)] then .regional
  else if spacingTable.containsNat c then .spacingMark
  else if withinRanges c [(0x1100, 0x115F), (0xA960, 0xA97C)] then .hangulL
  else if withinRanges c [(0x1160, 0x11A7), (0xD7B0, 0xD7C6)] then .hangulV
  else if withinRanges c [(0x11A8, 0x11FF), (0xD7CB, 0xD7FB)] then .hangulT
  else if 0xAC00 <= c && c <= 0xD7A3 then (if (c - 0xAC00) % 28 == 0 then .hangulLV else .hangulLVT)
  else if isPictographic c then .pictographic
  else .other

/-- What the rules know of the cluster being built: its last code point's class, whether it is a
pictograph and extenders (maybe then a joiner), and its trailing regional indicators. -/
structure GraphemeState where
  last : GraphemeClass
  emoji : Bool
  regionals : Nat

/-- Whether a code point of a class continues the cluster. -/
def GraphemeState.joins (st : GraphemeState) (next : GraphemeClass) : Bool :=
  match st.last, next with
  | .cr, .lf => true
  | .cr, _ | .lf, _ | .control, _ => false
  | _, .cr | _, .lf | _, .control => false
  | .hangulL, .hangulL | .hangulL, .hangulV | .hangulL, .hangulLV | .hangulL, .hangulLVT => true
  | .hangulLV, .hangulV | .hangulLV, .hangulT | .hangulV, .hangulV | .hangulV, .hangulT => true
  | .hangulLVT, .hangulT | .hangulT, .hangulT => true
  | _, .extend | _, .zwj | _, .spacingMark => true
  | .prepend, _ => true
  | .zwj, .pictographic => st.emoji
  | .regional, .regional => st.regionals % 2 == 1
  | _, _ => false

/-- The state after a code point of a class. -/
def GraphemeState.step (st : GraphemeState) (joined : Bool) (next : GraphemeClass) :
    GraphemeState :=
  let emoji := match next with
    | .pictographic => true
    | .extend | .zwj => joined && st.emoji && st.last != .zwj
    | _ => false
  let regionals := if next == .regional then (if joined then st.regionals + 1 else 1) else 0
  ⟨next, emoji, regionals⟩

/-- The grapheme clusters of a text, in order. -/
def graphemes (cs : List Char) : List (List Char) :=
  let rec go (st : GraphemeState) (current : List Char) : List Char -> List (List Char)
    | [] => if current.isEmpty then [] else [current.reverse]
    | c :: rest =>
      let k := graphemeClass c.toNat
      if current.isEmpty then go (GraphemeState.step ⟨.other, false, 0⟩ false k) [c] rest
      else if st.joins k then go (st.step true k) (c :: current) rest
      else current.reverse :: go (st.step false k) [c] rest
  go ⟨.other, false, 0⟩ [] cs

/-! ## Words -/

/-- What a code point does in words. -/
inductive WordClass where
  | newline
  | space
  | letter
  | digit
  | katakana
  | ideograph
  | connector
  | midLetter
  | midNumLet
  | midNum
  | extend
  | regional
  | other
  deriving Inhabited, BEq

def letterClassTable : RangeTable := (category? "L").getD default
def decimalClassTable : RangeTable := (category? "Nd").getD default
def spaceClassTable : RangeTable := (category? "Zs").getD default
def connectorTable : RangeTable := (category? "Pc").getD default
def hanScriptTable : RangeTable := (script? "Han").getD default
def hiraganaScriptTable : RangeTable := (script? "Hiragana").getD default
def katakanaScriptTable : RangeTable := (script? "Katakana").getD default

/-- The class of a code point in words. -/
def wordClass (c : Nat) : WordClass :=
  if c == 0x0A || c == 0x0B || c == 0x0C || c == 0x0D || c == 0x85 || c == 0x2028 || c == 0x2029
    then .newline
  else if nonspacingTable.containsNat c || enclosingTable.containsNat c || spacingTable.containsNat c
    || c == 0x200D || c == 0x200C || formatCharTable.containsNat c then .extend
  else if spaceClassTable.containsNat c then .space
  else if katakanaScriptTable.containsNat c || c == 0x30FC then .katakana
  else if hanScriptTable.containsNat c || hiraganaScriptTable.containsNat c then .ideograph
  else if letterClassTable.containsNat c then .letter
  else if decimalClassTable.containsNat c then .digit
  else if connectorTable.containsNat c then .connector
  else if c == 0x3A || c == 0xB7 || c == 0x387 || c == 0x5F4 || c == 0x2027 || c == 0xFE13 ||
    c == 0xFE55 || c == 0xFF1A then .midLetter
  else if c == 0x2E || c == 0x27 || c == 0x2018 || c == 0x2019 || c == 0x2024 || c == 0xFE52 ||
    c == 0xFF07 || c == 0xFF0E then .midNumLet
  else if c == 0x2C || c == 0x3B || c == 0x37E || c == 0x589 || c == 0x60C || c == 0x60D ||
    c == 0x66C || c == 0x7F8 || c == 0x2044 || c == 0xFE10 || c == 0xFE14 || c == 0xFE50 ||
    c == 0xFE54 || c == 0xFF0C || c == 0xFF1B then .midNum
  else if withinRanges c [(0x1F1E6, 0x1F1FF)] then .regional
  else .other

/-- The class of the first code point after any extenders. -/
def nextWordClass : List Char -> Option WordClass
  | [] => none
  | c :: rest =>
    let k := wordClass c.toNat
    if k == .extend then nextWordClass rest else some k

/-- Whether a word piece holds a letter, digit, kana or ideograph. -/
def isWordLike (piece : List Char) : Bool :=
  piece.any fun c => match wordClass c.toNat with
    | .letter | .digit | .katakana | .ideograph => true
    | _ => false

/-- Whether a code point continues a word piece whose last (non-extending) class is `last`,
`beforeLast` being the class before that, and `rest` what follows the code point. -/
def wordJoins (beforeLast last next : WordClass) (rest : List Char) : Bool :=
  let after := nextWordClass rest
  let wordy (k : WordClass) := k == .letter
  match last, next with
  | .newline, _ | _, .newline => false
  | _, .extend => true
  | .space, .space => true
  | .letter, .letter | .digit, .digit | .letter, .digit | .digit, .letter => true
  | .katakana, .katakana | .ideograph, .ideograph => true
  | .letter, .midLetter | .letter, .midNumLet => after == some .letter
  | .midLetter, .letter | .midNumLet, .letter => wordy beforeLast
  | .digit, .midNum | .digit, .midNumLet => after == some .digit
  | .midNum, .digit | .midNumLet, .digit => beforeLast == .digit
  | .letter, .connector | .digit, .connector | .katakana, .connector | .connector, .connector => true
  | .connector, .letter | .connector, .digit | .connector, .katakana => true
  | .regional, .regional => true
  | _, _ => false

/-- The word pieces of a text, in order. -/
def words (cs : List Char) : List (List Char) :=
  let rec go (beforeLast last : WordClass) (pairs : Nat) (current : List Char) :
      List Char -> List (List Char)
    | [] => if current.isEmpty then [] else [current.reverse]
    | c :: rest =>
      let k := wordClass c.toNat
      if current.isEmpty then go .other k (if k == .regional then 1 else 0) [c] rest
      else
        let joins := wordJoins beforeLast last k rest &&
          !(last == .regional && k == .regional && pairs % 2 == 0)
        if joins then
          if k == .extend then go beforeLast last pairs (c :: current) rest
          else go last k (if k == .regional then pairs + 1 else 0) (c :: current) rest
        else current.reverse :: go .other k (if k == .regional then 1 else 0) [c] rest
  go .other .other 0 [] cs

/-! ## Sentences -/

/-- Characters that end a sentence outright. -/
def isSentenceTerminal (c : Char) : Bool :=
  c == '!' || c == '?' || c == '։' || c == '؟' || c == '۔' || c == '܀' ||
    c == '܁' || c == '܂' || c == '।' || c == '॥' || c == '。' ||
    c == '！' || c == '？' || c == '｡' || c == '‼' || c == '‽' ||
    c == '⁇' || c == '⁈' || c == '⁉'

/-- Closing punctuation that stays with the sentence it follows. -/
def isSentenceClose (c : Char) : Bool :=
  c == '"' || c == '\'' || c == ')' || c == ']' || c == '\x7d' || c == '»' ||
    c == '’' || c == '”' || c == '›' || c == '」' || c == '』'

/-- Whether a character is a space within a line. -/
def isSentenceSpace (c : Char) : Bool :=
  c == ' ' || c == '\t' || c == '\u00A0' || c == '\u3000' || (c.toNat >= 0x2000 && c.toNat <= 0x200A)

/-- Whether a character breaks a paragraph. -/
def isParagraphBreak (c : Char) : Bool :=
  c == '\n' || c == '\r' || c == '\u0085' || c == '\u2028' || c == '\u2029'

/-- Whether a character is upper case. -/
def isUpperChar (c : Char) : Bool :=
  c.toLower != c

/-- Whether a character is lower case. -/
def isLowerChar (c : Char) : Bool :=
  c.toUpper != c && c.toLower == c

/-- Whether a full stop ends no sentence: before a word in lower case, or a digit, or between
two capitals. -/
def fullStopContinues (before : Option Char) (afterStop : List Char) : Bool :=
  match afterStop with
  | c :: _ =>
    if c.isDigit then true
    else if (before.map isUpperChar).getD false && isUpperChar c then true
    else
      let rest := afterStop.dropWhile fun x => isSentenceClose x || isSentenceSpace x
      match rest.find? fun x => x.isAlpha || isParagraphBreak x || isSentenceTerminal x || x == '.' with
      | some x => isLowerChar x
      | none => false
  | [] => false

/-- The sentences of a text, in order. -/
def sentences (cs : List Char) : List (List Char) :=
  let rec go (current : List Char) : Nat -> List Char -> List (List Char)
    | _, [] => if current.isEmpty then [] else [current.reverse]
    | 0, rest => [current.reverse ++ rest]
    | fuel + 1, c :: rest =>
      if isParagraphBreak c then
        let (more, tail) := if c == '\r' && rest.head? == some '\n' then (['\n'], rest.drop 1)
          else ([], rest)
        (current.reverse ++ [c] ++ more) :: go [] fuel tail
      else if isSentenceTerminal c || (c == '.' && !fullStopContinues current.head? rest) then
        let terminals := rest.takeWhile fun x => isSentenceTerminal x || x == '.'
        let rest := rest.drop terminals.length
        let closes := rest.takeWhile isSentenceClose
        let rest := rest.drop closes.length
        let spaces := rest.takeWhile isSentenceSpace
        let rest := rest.drop spaces.length
        let (breaks, rest) := match rest with
          | '\r' :: '\n' :: tail => (['\r', '\n'], tail)
          | x :: tail => if isParagraphBreak x then ([x], tail) else ([], rest)
          | [] => ([], [])
        let piece := current.reverse ++ [c] ++ terminals ++ closes ++ spaces ++ breaks
        piece :: go [] fuel rest
      else go (c :: current) fuel rest
  go [] (cs.length + 1) cs

end TranscriptTest.Unicode
