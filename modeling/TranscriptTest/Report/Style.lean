/-!
# Terminal styles

Styled text is wrapped in ANSI escape sequences: `ESC [ codes m`, the text, `ESC [0m`. The codes
are the styles (bold 1, underline 4) and then the colour (red 31, green 32, yellow 33), joined
by `;`. A reset inside the text is followed by the style again, so the rest stays styled.
Unstyled text, or any text when colours are off, is written as it is.
-/

namespace TranscriptTest.Report

/-- Foreground colours. -/
inductive Color where
  | red
  | green
  | yellow
  deriving Inhabited, BEq

/-- The ANSI code of a colour. -/
def Color.code : Color → String
  | .red => "31"
  | .green => "32"
  | .yellow => "33"

/-- A text style. -/
structure Style where
  bold : Bool := false
  underline : Bool := false
  color : Option Color := none
  deriving Inhabited, BEq

/-- The escape sequence that starts a style. -/
def Style.opening (s : Style) : String :=
  let codes := (if s.bold then ["1"] else []) ++ (if s.underline then ["4"] else []) ++
    (match s.color with | some c => [c.code] | none => [])
  "\x1b[" ++ ";".intercalate codes ++ "m"

/-- Whether the style changes nothing. -/
def Style.isPlain (s : Style) : Bool :=
  !s.bold && !s.underline && s.color.isNone

/-- The reset sequence. -/
def reset : String := "\x1b[0m"

/-- Text with a style, when colours are on. -/
def Style.paint (s : Style) (on : Bool) (text : String) : String :=
  if !on || s.isPlain then text
  else
    let inner := (text.splitOn reset).intersperse (reset ++ s.opening)
    s.opening ++ String.join inner ++ reset

/-- Bold. -/
def bold : Style := { bold := true }
/-- Red. -/
def red : Style := { color := some .red }
/-- Green. -/
def green : Style := { color := some .green }
/-- Yellow. -/
def yellow : Style := { color := some .yellow }
/-- Bold red. -/
def boldRed : Style := { bold := true, color := some .red }
/-- Bold green. -/
def boldGreen : Style := { bold := true, color := some .green }
/-- Bold yellow. -/
def boldYellow : Style := { bold := true, color := some .yellow }

end TranscriptTest.Report
