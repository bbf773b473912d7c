import TranscriptTest.Unicode.Normalize
import TranscriptTest.Unicode.Category
import TranscriptTest.Unicode.Script

/-!
# Collation

Texts compare the way a dictionary orders them, level by level. Each character, after its
compatibility decomposition, gives collation elements of three weights:

* the *primary* weight orders what a reader sees as different letters: spaces and punctuation
  first, then symbols, currency signs, digits, and letters last, Latin letters by their base
  letter whatever their case or accents; combining marks and control characters have none;
* the *secondary* weight tells accents apart: none first, then acute, grave, breve, circumflex,
  caron, ring, diaeresis, double acute, tilde, dot, stroke, cedilla, ogonek, macron;
* the *tertiary* weight tells case and variant forms apart: lower case first, then the forms a
  compatibility decomposition names (wide, font, circled), upper case, kana, superscripts,
  subscripts and the other forms, fractions last.
-/

namespace TranscriptTest.Unicode

/-- One collation element: its weights at the three levels. -/
structure CollationElement where
  primary : Nat
  secondary : Nat
  tertiary : Nat
  deriving Inhabited, BEq

/-- How far a comparison looks. -/
inductive Sensitivity where
  /-- Base letters only. -/
  | base
  /-- Base letters and accents. -/
  | accent
  /-- Base letters and case. -/
  | case
  /-- Everything: base letters, accents, case and variants. -/
  | variant
  deriving Inhabited, BEq

/-- The settings of a comparison. -/
structure CollationOptions where
  sensitivity : Sensitivity := .variant
  /-- Runs of digits compare as numbers. -/
  numeric : Bool := false
  /-- Upper case comes before lower case. -/
  upperFirst : Bool := false
  /-- Spaces and punctuation are left out. -/
  ignorePunctuation : Bool := false
  /-- The language whose additional letters apply. -/
  language : String := ""
  deriving Inhabited

/-- The tables of the general categories the weights depend on. -/
def markTable : RangeTable := (category? "M").getD default
def letterTable : RangeTable := (category? "L").getD default
def decimalTable : RangeTable := (category? "Nd").getD default
def punctuationTable : RangeTable := (category? "P").getD default
def currencyTable : RangeTable := (category? "Sc").getD default
def symbolTable : RangeTable := (category? "S").getD default
def spaceTable : RangeTable := (category? "Z").getD default
def formatTable : RangeTable := (category? "Cf").getD default

/-- The ASCII spaces, punctuation and symbols in the order they sort. -/
def asciiPunctuationOrder : List Char :=
  "\t\n\x0b\x0c\r _-,;:!?.'\"()[]\x7b\x7d@*/\\&#%".toList

/-- The ASCII symbols after the punctuation, in the order they sort. -/
def asciiSymbolOrder : List Char :=
  "\x60^+<=>|~".toList

/-- First primary weights of the groups. -/
def punctuationBase : Nat := 0x100
def otherPunctuationBase : Nat := 0x1000
def symbolBase : Nat := 0x20000
def otherSymbolBase : Nat := 0x21000
def currencyBase : Nat := 0x40000
def digitBase : Nat := 0x60000
def numberBase : Nat := 0x61000
def letterBase : Nat := 0x100000

/-- The scripts in the order their letters sort; letters of scripts not named sort after them
all, and Han last. -/
def scriptOrder : List RangeTable :=
  ["Greek", "Coptic", "Cyrillic", "Glagolitic", "Georgian", "Armenian", "Hebrew", "Arabic",
   "Syriac", "Thaana", "Nko", "Tifinagh", "Ethiopic", "Devanagari", "Bengali", "Gurmukhi",
   "Gujarati", "Oriya", "Tamil", "Telugu", "Kannada", "Malayalam", "Sinhala", "Thai", "Lao",
   "Tibetan", "Myanmar", "Khmer", "Mongolian", "Cherokee", "Hangul", "Hiragana", "Bopomofo"].map
    fun name => (script? name).getD default

def katakanaTable : RangeTable := (script? "Katakana").getD default
def hanTable : RangeTable := (script? "Han").getD default

/-- The place of a letter's script in the sorting order: Latin and the letters of no script
first, then the scripts of `scriptOrder`, katakana with hiragana. -/
def scriptRank (c : Nat) : Nat :=
  if c < 0x370 then 0
  else if katakanaTable.containsNat c then 32
  else if hanTable.containsNat c then 40
  else match scriptOrder.findIdx? (·.containsNat c) with
    | some i => i + 1
    | none => if (script? "Latin").any (·.containsNat c) then 0 else 35

/-- The primary weight of a letter: its script, then its lower case, spread out so that letters
sorting beside a base letter fit after it. -/
def letterWeight (lower : Nat) : Nat := letterBase + 0x800000 * scriptRank lower + 4 * lower

/-- The secondary weight of a combining mark. -/
def markWeight (c : Nat) : Nat :=
  match [0x301, 0x300, 0x306, 0x302, 0x30C, 0x30A, 0x308, 0x30B, 0x303, 0x307].idxOf? c with
  | some i => i + 1
  | none =>
    match [0x327, 0x328, 0x304].idxOf? c with
    | some i => i + 12
    | none => 100 + c

/-- The secondary weight of a stroke through a letter. -/
def strokeWeight : Nat := 11

/-- Letters that sort as others: stroked letters as their base letter with a stroke, ligatures
as their two letters, and letters sorting right after a base letter. -/
def letterExpansion? (lower : Nat) : Option (List Nat × Nat) :=
  match lower with
  | 0xF8 => some ([0x6F], strokeWeight)
  | 0x142 => some ([0x6C], strokeWeight)
  | 0x111 => some ([0x64], strokeWeight)
  | 0x127 => some ([0x68], strokeWeight)
  | 0x167 => some ([0x74], strokeWeight)
  | 0xE6 => some ([0x61, 0x65], 0)
  | 0x153 => some ([0x6F, 0x65], 0)
  | 0xDF => some ([0x73, 0x73], 0)
  | _ => none

/-- Whether a letter sorts as a ligature of two letters, which differ from the two letters
written apart at the third level. -/
def isLigature (lower : Nat) : Bool :=
  lower == 0xE6 || lower == 0x153 || lower == 0xDF

/-- The value of a decimal digit: its place in its run of ten. -/
def digitValue (c : Nat) : Nat :=
  match decimalTable.ranges.find? fun (lo, hi) => lo <= c && c <= hi with
  | some (lo, _) => (c - lo) % 10
  | none => 0

/-- The lower case of a code point, as one code point. -/
def lowerCode (c : Nat) : Nat :=
  match lowerOf (Char.ofNat c) with
  | [l] => l.toNat
  | _ => c

/-- The forms a compatibility decomposition gives a character, which tell it from the
characters it decomposes to at the third level. -/
inductive VariantForm where
  | plain
  | wide
  | compat
  | font
  | circle
  | narrow
  | small
  | super
  | sub
  | vertical
  | noBreak
  | square
  | fraction
  deriving Inhabited, BEq

/-- Whether a code point lies in one of a list of ranges. -/
def inRanges (c : Nat) (rs : List (Nat × Nat)) : Bool :=
  rs.any fun (lo, hi) => lo <= c && c <= hi

/-- The form a character with a compatibility decomposition is written in. -/
def variantFormOf (c : Nat) : VariantForm :=
  if inRanges c [(0xA0, 0xA0), (0x2007, 0x2007), (0x2011, 0x2011), (0x202F, 0x202F),
      (0xF0C, 0xF0C)] then .noBreak
  else if inRanges c [(0xBC, 0xBE), (0x2150, 0x215F), (0x2189, 0x2189)] then .fraction
  else if inRanges c [(0x1D62, 0x1D6A), (0x2080, 0x209C), (0x2C7C, 0x2C7C)] then .sub
  else if inRanges c [(0xAA, 0xAA), (0xBA, 0xBA), (0xB2, 0xB3), (0xB9, 0xB9), (0x2B0, 0x2B8),
      (0x2C0, 0x2C1), (0x2E0, 0x2E4), (0x1D2C, 0x1D61), (0x1D78, 0x1D78), (0x1D9B, 0x1DBF),
      (0x2070, 0x207F), (0x2C7D, 0x2C7D), (0xA69C, 0xA69D), (0xA770, 0xA770), (0xA7F8, 0xA7F9),
      (0xAB5C, 0xAB5F), (0x10780, 0x107BA)] then .super
  else if inRanges c [(0x2460, 0x2473), (0x24B6, 0x24FF), (0x3244, 0x3247), (0x3251, 0x327F),
      (0x3280, 0x32BF), (0x32D0, 0x32FE), (0x1F12B, 0x1F12E)] then .circle
  else if inRanges c [(0x3300, 0x33FF), (0x32FF, 0x32FF), (0x1F130, 0x1F14F), (0x1F190, 0x1F1FF),
      (0x1F200, 0x1F2FF)] then .square
  else if inRanges c [(0x3000, 0x3000), (0xFF01, 0xFF60), (0xFFE0, 0xFFE6)] then .wide
  else if inRanges c [(0xFF61, 0xFFDC), (0xFFE8, 0xFFEE)] then .narrow
  else if inRanges c [(0xFE50, 0xFE6B)] then .small
  else if inRanges c [(0xFE10, 0xFE19), (0xFE30, 0xFE48)] then .vertical
  else if inRanges c [(0x1D400, 0x1D7FF), (0x2102, 0x2102), (0x210A, 0x2113), (0x2115, 0x2115),
      (0x2119, 0x211D), (0x2124, 0x2124), (0x2128, 0x2128), (0x212C, 0x212D), (0x212F, 0x2131),
      (0x2133, 0x2134), (0x2139, 0x2139), (0x213C, 0x2140), (0x2145, 0x2149), (0x1EE00, 0x1EEFF),
      (0xFB20, 0xFB29), (0x1FBF0, 0x1FBF9)] then .font
  else .compat

/-- The tertiary weight of a form, for lower case (and uncased) characters and for upper case
ones. -/
def formTertiary : VariantForm -> Bool -> Nat
  | .plain, u => if u then 0x08 else 0x02
  | .wide, u => if u then 0x09 else 0x03
  | .compat, u => if u then 0x0A else 0x04
  | .font, u => if u then 0x0B else 0x05
  | .circle, u => if u then 0x0C else 0x06
  | .small, _ => 0x0D
  | .narrow, _ => 0x10
  | .super, u => if u then 0x1D else 0x14
  | .sub, u => if u then 0x1D else 0x15
  | .vertical, _ => 0x16
  | .noBreak, _ => 0x1B
  | .square, u => if u then 0x1D else 0x1C
  | .fraction, _ => 0x1E

/-- Whether a tertiary weight marks upper case. -/
def isUpperTertiary (t : Nat) : Bool :=
  (0x08 <= t && t <= 0x0C) || t == 0x1D

/-- The tertiary weight of the final form of sigma. -/
def finalTertiary : Nat := 0x19

/-- Small kana, each with the full kana it sorts as. -/
def smallKana : List (Nat × Nat) :=
  [(0x3041, 0x3042), (0x3043, 0x3044), (0x3045, 0x3046), (0x3047, 0x3048), (0x3049, 0x304A),
   (0x3063, 0x3064), (0x3083, 0x3084), (0x3085, 0x3086), (0x3087, 0x3088), (0x308E, 0x308F),
   (0x3095, 0x304B), (0x3096, 0x3051)]

/-- The collation element of a kana, if the code point is one: its primary weight is the one of
its full hiragana, and its tertiary weight tells small from full and hiragana from katakana. -/
def kanaElement? (c : Nat) (form : VariantForm) : Option CollationElement :=
  let hira := if 0x30A1 <= c && c <= 0x30F6 then c - 0x60 else c
  if 0x3041 ≤ hira && hira ≤ 0x3096 then
    let katakana := hira != c
    let (full, small) := match smallKana.lookup hira with
      | some f => (f, true)
      | none => (hira, false)
    let tertiary := match katakana, small with
      | false, true => 0x0D
      | false, false => 0x0E
      | true, true => 0x0F
      | true, false => if form == .narrow then 0x12 else if form == .circle then 0x13 else 0x11
    some ⟨letterWeight full, 0, tertiary⟩
  else if c == 0x30FC then some ⟨letterWeight 0x3041 - 2, 0, 0x02⟩
  else none

/-- The primary weight of a letter that sorts right after another: dotless `ı` after `i`, `ŋ`
after `n`, `ð` after `d`, `þ` after `z`, `ĸ` after `q`. -/
def placedLetter? (lower : Nat) : Option Nat :=
  match lower with
  | 0x131 => some (letterWeight 0x69 + 1)
  | 0x14B => some (letterWeight 0x6E + 1)
  | 0xF0 => some (letterWeight 0x64 + 1)
  | 0xFE => some (letterWeight 0x7A + 1)
  | 0x138 => some (letterWeight 0x71 + 1)
  | _ => none

/-- The collation elements of one code point of a decomposed text, written in a given form. -/
def codeElements (c : Nat) (form : VariantForm) : List CollationElement :=
  let element (p : Nat) (upper : Bool) : CollationElement := ⟨p, 0, formTertiary form upper⟩
  if markTable.containsNat c then [⟨0, markWeight c, formTertiary form false⟩]
  else if c < 0x80 && (asciiPunctuationOrder.idxOf? (Char.ofNat c)).isSome then
    [element (punctuationBase + (asciiPunctuationOrder.idxOf (Char.ofNat c))) false]
  else if c < 0x80 && (asciiSymbolOrder.idxOf? (Char.ofNat c)).isSome then
    [element (symbolBase + (asciiSymbolOrder.idxOf (Char.ofNat c))) false]
  else if c == 0x24 then [element currencyBase false]
  else if decimalTable.containsNat c then
    [⟨digitBase + digitValue c, 0, if c < 0x80 || form != .plain then formTertiary form false else 0x03⟩]
  else if let some e := kanaElement? c form then [e]
  else if letterTable.containsNat c || (0x2160 ≤ c && c ≤ 0x2188) then
    let lower := lowerCode c
    let upper := lower != c
    match letterExpansion? lower with
    | some (letters, secondary) =>
      let form := if isLigature lower && form == .plain then .compat else form
      letters.map fun l => ⟨letterWeight l, secondary, formTertiary form upper⟩
    | none =>
      if lower == 0x3C2 then [⟨letterWeight 0x3C3, 0, finalTertiary⟩]
      else [element ((placedLetter? lower).getD (letterWeight lower)) upper]
  else if spaceTable.containsNat c then [⟨punctuationBase + 5, 0, formTertiary form false + 1⟩]
  else if punctuationTable.containsNat c then [element (otherPunctuationBase + c) false]
  else if currencyTable.containsNat c then [element (currencyBase + c) false]
  else if symbolTable.containsNat c then [element (otherSymbolBase + c) false]
  else if c < 0x20 || (0x7F <= c && c < 0xA0) then []
  else if formatTable.containsNat c then []
  else [element (letterWeight c) false]

/-- The collation elements of one character: those of its compatibility decomposition, in the
form that decomposition names. -/
def charElements (c : Nat) : List CollationElement :=
  let canonical := normalize .nfd [c]
  let compat := normalize .nfkd [c]
  let form := if compat != canonical then variantFormOf c else .plain
  compat.flatMap fun d => codeElements d form

/-- The letters a language adds to the alphabet: each, written in lower case, sorts one to three
places after a letter of the alphabet, or as another added letter with a secondary difference. -/
def tailoring (language : String) : List (List Nat × Nat × Nat) :=
  let after (letter : Char) (k : Nat) : Nat := letterWeight letter.toNat + k
  let entry (text : String) (letter : Char) (k : Nat) (secondary : Nat) :=
    (text.toList.map Char.toNat, after letter k, secondary)
  match language with
  | "sv" | "fi" =>
    [entry "å" 'z' 1 0, entry "ä" 'z' 2 0, entry "æ" 'z' 2 1, entry "ö" 'z' 3 0,
     entry "ø" 'z' 3 1]
  | "da" | "nb" | "nn" | "no" =>
    [entry "æ" 'z' 1 0, entry "ä" 'z' 1 1, entry "ø" 'z' 2 0, entry "ö" 'z' 2 1,
     entry "å" 'z' 3 0, entry "aa" 'z' 3 1]
  | "es" => [entry "ñ" 'n' 1 0]
  | "cs" =>
    [entry "č" 'c' 1 0, entry "ch" 'h' 1 0, entry "ř" 'r' 1 0, entry "š" 's' 1 0,
     entry "ž" 'z' 1 0]
  | "sk" =>
    [entry "ä" 'a' 1 0, entry "č" 'c' 1 0, entry "ch" 'h' 1 0, entry "ô" 'o' 1 0,
     entry "ř" 'r' 1 0, entry "š" 's' 1 0, entry "ž" 'z' 1 0]
  | "pl" =>
    [entry "ą" 'a' 1 0, entry "ć" 'c' 1 0, entry "ę" 'e' 1 0, entry "ł" 'l' 1 0,
     entry "ń" 'n' 1 0, entry "ó" 'o' 1 0, entry "ś" 's' 1 0, entry "ź" 'z' 1 0,
     entry "ż" 'z' 2 0]
  | "tr" | "az" =>
    [entry "ç" 'c' 1 0, entry "ğ" 'g' 1 0, entry "ı" 'h' 1 0, entry "ö" 'o' 1 0,
     entry "ş" 's' 1 0, entry "ü" 'u' 1 0, entry "ə" 'e' 1 0]
  | "lt" => [entry "y" 'i' 1 0, entry "č" 'c' 1 0, entry "š" 's' 1 0, entry "ž" 'z' 1 0]
  | "lv" =>
    [entry "č" 'c' 1 0, entry "ģ" 'g' 1 0, entry "ķ" 'k' 1 0, entry "ļ" 'l' 1 0,
     entry "ņ" 'n' 1 0, entry "š" 's' 1 0, entry "ž" 'z' 1 0]
  | "ro" =>
    [entry "ă" 'a' 1 0, entry "â" 'a' 2 0, entry "î" 'i' 1 0, entry "ș" 's' 1 0,
     entry "ş" 's' 1 1, entry "ț" 't' 1 0, entry "ţ" 't' 1 1]
  | "hr" | "bs" =>
    [entry "č" 'c' 1 0, entry "ć" 'c' 2 0, entry "dž" 'd' 1 0, entry "đ" 'd' 2 0,
     entry "lj" 'l' 1 0, entry "nj" 'n' 1 0, entry "š" 's' 1 0, entry "ž" 'z' 1 0]
  | "hu" =>
    [entry "cs" 'c' 1 0, entry "dz" 'd' 1 0, entry "dzs" 'd' 2 0, entry "gy" 'g' 1 0,
     entry "ly" 'l' 1 0, entry "ny" 'n' 1 0, entry "ö" 'o' 1 0, entry "ő" 'o' 1 1,
     entry "sz" 's' 1 0, entry "ty" 't' 1 0, entry "ü" 'u' 1 0, entry "ű" 'u' 1 1,
     entry "zs" 'z' 1 0]
  | "is" =>
    [entry "á" 'a' 1 0, entry "ð" 'd' 1 0, entry "é" 'e' 1 0, entry "í" 'i' 1 0,
     entry "ó" 'o' 1 0, entry "ú" 'u' 1 0, entry "ý" 'y' 1 0, entry "þ" 'z' 1 0,
     entry "æ" 'z' 2 0, entry "ö" 'z' 3 0]
  | _ => []

/-- The longest added letter a text starts with, compared in lower case: its weights and length. -/
def tailoredPrefix (table : List (List Nat × Nat × Nat)) (cs : List Nat) :
    Option (Nat × Nat × Nat) :=
  let lowered := cs.map lowerCode
  table.foldl (fun best (seq, primary, secondary) =>
    if seq.isPrefixOf lowered && seq.length > (best.map (·.2.2)).getD 0 then
      some (primary, secondary, seq.length)
    else best) none

/-- The collation elements of a text, with a language's added letters. -/
def collationElements (language : String) (s : String) : List CollationElement :=
  let table := tailoring language
  let cs := if table.isEmpty then s.toList.map Char.toNat else normalize .nfc (s.toList.map Char.toNat)
  let rec go : Nat -> List Nat -> List CollationElement
    | 0, _ => []
    | _, [] => []
    | fuel + 1, c :: rest =>
      match tailoredPrefix table (c :: rest) with
      | some (primary, secondary, length) =>
        let upper := lowerCode c != c
        ⟨primary, secondary, formTertiary .plain upper⟩ :: go fuel ((c :: rest).drop length)
      | none => charElements c ++ go fuel rest
  go (cs.length + 1) cs

/-- Numeric comparison: a run of digits becomes an element for its length less leading zeros,
then its digits, so longer numbers sort after shorter ones. -/
def numericElements : List CollationElement -> List CollationElement
  | [] => []
  | e :: rest =>
    if digitBase ≤ e.primary && e.primary < digitBase + 10 then
      let run := (e :: rest).takeWhile fun x => digitBase <= x.primary && x.primary < digitBase + 10
      let digits := run.dropWhile fun x => x.primary == digitBase
      let digits := if digits.isEmpty then [⟨digitBase, 0, 0⟩] else digits
      (⟨numberBase + digits.length, 0, 0⟩ :: digits) ++
        numericElements (rest.drop (run.length - 1))
    else e :: numericElements rest
termination_by es => es.length
decreasing_by all_goals grind

/-- Lexicographic comparison of weight lists: a list that is a proper start of another comes
first. -/
def compareWeights : List Nat -> List Nat -> Ordering
  | [], [] => .eq
  | [], _ :: _ => .lt
  | _ :: _, [] => .gt
  | a :: as, b :: bs => if a < b then .lt else if b < a then .gt else compareWeights as bs

/-- Compares two texts with the given settings. -/
def collate (opts : CollationOptions) (a b : String) : Ordering :=
  let prepare (s : String) : List CollationElement :=
    let es := collationElements opts.language s
    let es := if opts.ignorePunctuation then es.filter fun e => e.primary == 0 || e.primary >= symbolBase
      else es
    if opts.numeric then numericElements es else es
  let ea := prepare a
  let eb := prepare b
  let primaries (es : List CollationElement) := (es.filter (·.primary != 0)).map (·.primary)
  let secondaries (es : List CollationElement) :=
    (es.filter fun e => e.primary != 0 || e.secondary != 0).map (·.secondary)
  let caseOf (e : CollationElement) : Nat :=
    let upper := if isUpperTertiary e.tertiary then 1 else 0
    if opts.upperFirst then 1 - upper else upper
  let cases (es : List CollationElement) := (es.filter (·.primary != 0)).map caseOf
  let tertiaries (es : List CollationElement) :=
    (es.filter (·.primary != 0)).map fun e => if opts.upperFirst then 64 * caseOf e + e.tertiary
      else e.tertiary
  let first := compareWeights (primaries ea) (primaries eb)
  let accents := compareWeights (secondaries ea) (secondaries eb)
  match opts.sensitivity with
  | .base => first
  | .accent => first.then accents
  | .case => first.then (compareWeights (cases ea) (cases eb))
  | .variant => (first.then accents).then (compareWeights (tertiaries ea) (tertiaries eb))

end TranscriptTest.Unicode
