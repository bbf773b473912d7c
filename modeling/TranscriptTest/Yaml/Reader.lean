import TranscriptTest.Yaml.Node

/-!
# Reading YAML documents

The reader takes the block structure from indentation, line by line: a line that starts with
`- ` opens a sequence entry, a line with a key and `:` (or an explicit `? ` key) opens a mapping
entry, and anything else is a node of its own, written plain, quoted, as a flow collection
(`[…]`, `{…}`), as a block scalar (`|`, `>`) or as an alias (`*name`). A node may carry an
anchor (`&name`) and a tag (`!!str`, `!local`, `!<uri>`); properties alone on a line belong to the
block node below them. Quoted scalars and flow collections may go on over several lines: they are
read from the rest of the text as one stream of characters, lines divided by line feeds, where a
line break folds into a space and each further one into a line feed.
-/

namespace TranscriptTest.Yaml

/-- Why a text is not read as a YAML document. -/
inductive YamlError where
  | tabIndentation
  | badIndentation
  | expectedKey
  | mappingValueHere
  | unclosedQuote
  | unclosedFlow
  | badEscape
  | unsupportedIndicator
  | trailingText
  | multipleDocuments
  | unknownAnchor
  | badProperty
  | documentMarker
  | badDirective
  | controlCharacter
  deriving Inhabited, BEq

/-- What reading has gathered so far: the anchors defined, the latest first, and the tag handles
the directives declared. -/
structure ReadState where
  anchors : List (String × Node) := []
  handles : List (String × String) := []
  deriving Inhabited

/-- Reading that may fail. -/
abbrev Read := StateT ReadState (Except YamlError)

/-- Defines an anchor for a node, when there is one. -/
def define (anchor : Option String) (n : Node) : Read Unit :=
  match anchor with
  | some a => modify fun st => { st with anchors := (a, n) :: st.anchors }
  | none => pure ()

/-- The node an alias names. -/
def lookupAnchor (a : String) : Read Node := do
  match (<- get).anchors.lookup a with
  | some n => pure n
  | none => throw .unknownAnchor

/-! ## Characters and lines -/

/-- Whether a character separates tokens on a line. -/
def isBlankChar (c : Char) : Bool := c == ' ' || c == '\t'

/-- Whether a character is a blank or a line break. -/
def isSpaceChar (c : Char) : Bool := isBlankChar c || c == '\n'

/-- The number of spaces a line starts with. -/
def indentOf (l : String) : Nat := (l.toList.takeWhile (· == ' ')).length

/-- A line without its indentation. -/
def bodyOf (l : String) : List Char := l.toList.dropWhile (· == ' ')

/-- Whether a line holds only blanks or a comment. -/
def isBlankLine (l : String) : Bool :=
  match l.toList.dropWhile isBlankChar with
  | [] => true
  | '#' :: _ => true
  | _ => false

/-- Drops leading blank and comment lines. -/
def skipBlankLines : List String -> List String
  | [] => []
  | l :: rest => if isBlankLine l then skipBlankLines rest else l :: rest

/-- Whether a line's body starts with the indicator `c` followed by a blank or nothing. -/
def startsIndicator (c : Char) : List Char -> Bool
  | [d] => d == c
  | d :: e :: _ => d == c && isBlankChar e
  | [] => false

/-- Whether a line's body opens a sequence entry: `-` followed by a blank or nothing. -/
def isEntry (body : List Char) : Bool := startsIndicator '-' body

/-- Whether a line's body opens an explicit key: `?` followed by a blank or nothing. -/
def isExplicitKey (body : List Char) : Bool := startsIndicator '?' body

/-- Whether a line's body opens an explicit value: `:` followed by a blank or nothing. -/
def isExplicitValue (body : List Char) : Bool := startsIndicator ':' body

/-- Drops blanks at the start. -/
def dropBlanks (cs : List Char) : List Char := cs.dropWhile isBlankChar

/-- Drops blanks at the end. -/
def trimBlanksEnd (cs : List Char) : List Char := (cs.reverse.dropWhile isBlankChar).reverse

/-- Whether what is left of a line is blank or a comment. -/
def isRestBlank (cs : List Char) : Bool :=
  match dropBlanks cs with
  | [] => true
  | '#' :: _ => true
  | _ => false

/-- Whether characters start with a document marker (`---` or `...`) that stands alone. -/
def startsDocumentMarker (cs : List Char) : Bool :=
  match cs with
  | a :: b :: c :: rest =>
    ((a == '-' && b == '-' && c == '-') || (a == '.' && b == '.' && c == '.')) &&
      match rest with
      | [] => true
      | d :: _ => isSpaceChar d
  | _ => false

/-- Whether a line is a document marker. -/
def isDocumentMarker (l : String) : Bool := startsDocumentMarker l.toList

/-- The rest of a line and the lines after it as one stream, lines divided by line feeds. -/
def streamOf (first : List Char) (lines : List String) : List Char :=
  first ++ lines.flatMap fun l => '\n' :: l.toList

/-- What a reader left of a stream, back as the rest of its line and the lines after it: the
line feeds left say how many lines were not reached. -/
def unstream (rest : List Char) (lines : List String) : List Char × List String :=
  (rest.takeWhile (· != '\n'), lines.drop (lines.length - rest.count '\n'))

/-- A line whose body starts at the column of `after` within a line indented by `n` whose first
character was an indicator: the indicator becomes a space. -/
def reindent (n : Nat) (after : List Char) : String :=
  String.ofList (List.replicate (n + 1) ' ' ++ after)

/-! ## Folding -/

/-- What lies between two runs of a scalar's text: blanks, which are kept; line breaks, the first
a space and each further one a line feed; or an escaped line break. -/
inductive Gap where
  | blanks (ws : List Char)
  | breaks (n : Nat)
  | escaped (n : Nat)
  deriving Inhabited

/-- The text a gap stands for. -/
def Gap.text : Gap -> List Char
  | .blanks ws => ws
  | .breaks n => if n == 1 then [' '] else List.replicate (n - 1) '\n'
  | .escaped n => List.replicate n '\n'

/-- A gap after one more blank. -/
def Gap.blank (c : Char) : Gap -> Gap
  | .blanks ws => .blanks (ws ++ [c])
  | g => g

/-- A gap after one more line break. -/
def Gap.lineBreak : Gap -> Gap
  | .blanks _ => .breaks 1
  | .breaks n => .breaks (n + 1)
  | .escaped n => .escaped (n + 1)

/-- Whether a gap is empty. -/
def Gap.isNone : Gap -> Bool
  | .blanks [] => true
  | _ => false

/-- Text so far (reversed) with a gap and then a character added. -/
def pushAfter (acc : List Char) (g : Gap) (c : Char) : List Char :=
  c :: (g.text.reverse ++ acc)

/-! ## Quoted scalars -/

/-- The value of hexadecimal digits. -/
def hexValue? (cs : List Char) : Option Nat :=
  digitsValue? 16 cs

/-- The character of an escape after its backslash, and how many characters the escape
takes. -/
def escapeChar (cs : List Char) : Except YamlError (Char × Nat) :=
  match cs with
  | '0' :: _ => pure ('\x00', 1)
  | 'a' :: _ => pure ('\x07', 1)
  | 'b' :: _ => pure ('\x08', 1)
  | 't' :: _ => pure ('\t', 1)
  | '\t' :: _ => pure ('\t', 1)
  | 'n' :: _ => pure ('\n', 1)
  | 'v' :: _ => pure ('\x0b', 1)
  | 'f' :: _ => pure ('\x0c', 1)
  | 'r' :: _ => pure ('\r', 1)
  | 'e' :: _ => pure ('\x1b', 1)
  | ' ' :: _ => pure (' ', 1)
  | '"' :: _ => pure ('"', 1)
  | '/' :: _ => pure ('/', 1)
  | '\\' :: _ => pure ('\\', 1)
  | 'N' :: _ => pure ('\u0085', 1)
  | '_' :: _ => pure ('\u00a0', 1)
  | 'L' :: _ => pure ('\u2028', 1)
  | 'P' :: _ => pure ('\u2029', 1)
  | 'x' :: r => code 2 r
  | 'u' :: r => code 4 r
  | 'U' :: r => code 8 r
  | _ => throw .badEscape
where
  code (n : Nat) (r : List Char) : Except YamlError (Char × Nat) :=
    match hexValue? (r.take n) with
    | some v =>
      if r.length < n || (0xD800 <= v ∧ v <= 0xDFFF) || v > 0x10FFFF then throw .badEscape
      else pure (Char.ofNat v, n + 1)
    | none => throw .badEscape

/-- Reads a double-quoted scalar after its opening quote, over a stream of lines; `acc` is the
text so far, reversed. -/
def doubleQuoted (acc : List Char) (gap : Gap) : List Char -> Except YamlError (String × List Char)
  | [] => throw .unclosedQuote
  | '"' :: rest => pure (String.ofList (gap.text.reverse ++ acc).reverse, rest)
  | '\\' :: '\n' :: rest => doubleQuoted (gap.text.reverse ++ acc) (.escaped 0) rest
  | '\\' :: rest => do
    let (c, k) <- escapeChar rest
    doubleQuoted (pushAfter acc gap c) (.blanks []) (rest.drop k)
  | '\n' :: rest =>
    if startsDocumentMarker rest then throw .documentMarker
    else doubleQuoted acc gap.lineBreak rest
  | c :: rest =>
    if isBlankChar c then doubleQuoted acc (gap.blank c) rest
    else doubleQuoted (pushAfter acc gap c) (.blanks []) rest
termination_by cs => cs.length
decreasing_by all_goals grind

/-- Reads a single-quoted scalar after its opening quote, over a stream of lines; `''` is a
quote. -/
def singleQuoted (acc : List Char) (gap : Gap) : List Char -> Except YamlError (String × List Char)
  | [] => throw .unclosedQuote
  | '\'' :: '\'' :: rest => singleQuoted (pushAfter acc gap '\'') (.blanks []) rest
  | '\'' :: rest => pure (String.ofList (gap.text.reverse ++ acc).reverse, rest)
  | '\n' :: rest =>
    if startsDocumentMarker rest then throw .documentMarker
    else singleQuoted acc gap.lineBreak rest
  | c :: rest =>
    if isBlankChar c then singleQuoted acc (gap.blank c) rest
    else singleQuoted (pushAfter acc gap c) (.blanks []) rest

/-! ## Plain scalars -/

/-- Whether a character ends a plain scalar inside a flow collection. -/
def isFlowIndicator (c : Char) : Bool :=
  c == ',' || c == '[' || c == ']' || c == '{' || c == '}'

/-- Whether a plain scalar may start with these characters. -/
def plainStart : List Char -> Bool
  | [] => false
  | c :: rest =>
    if c == '-' || c == '?' || c == ':' then
      match rest with
      | d :: _ => !isSpaceChar d
      | [] => false
    else !("[]{},#&*!|>'\"%@`".contains c)

/-- Reads a plain scalar on one line of a block: up to a comment or the end; `: ` inside is an
error. -/
def blockPlain (acc : List Char) : List Char -> Except YamlError (List Char)
  | [] => pure (trimBlanksEnd acc.reverse)
  | ':' :: [] => throw .mappingValueHere
  | ':' :: c :: rest =>
    if isBlankChar c then throw .mappingValueHere else blockPlain (c :: ':' :: acc) rest
  | c :: '#' :: rest =>
    if isBlankChar c then pure (trimBlanksEnd acc.reverse) else blockPlain ('#' :: c :: acc) rest
  | c :: rest => blockPlain (c :: acc) rest

/-- Reads a plain scalar in a flow collection, over lines: up to a flow indicator, a `:` before a
blank or an indicator, or a `#` after a blank; line breaks fold. -/
def flowPlain (acc : List Char) (gap : Gap) : List Char -> List Char × List Char
  | [] => (acc.reverse, [])
  | [':'] => (acc.reverse, [':'])
  | ':' :: c :: rest =>
    if isSpaceChar c || isFlowIndicator c then (acc.reverse, ':' :: c :: rest)
    else flowPlain (c :: pushAfter acc gap ':') (.blanks []) rest
  | '\n' :: rest => flowPlain acc gap.lineBreak rest
  | c :: rest =>
    if isBlankChar c then flowPlain acc (gap.blank c) rest
    else if isFlowIndicator c || (c == '#' && !gap.isNone) then (acc.reverse, c :: rest)
    else flowPlain (pushAfter acc gap c) (.blanks []) rest

mutual

/-- Skips blanks, line breaks and comments between the tokens of a flow collection. -/
def skipFlowSpace : List Char -> List Char
  | [] => []
  | c :: rest =>
    if isSpaceChar c then skipFlowSpace rest
    else if c == '#' then skipComment rest
    else c :: rest

/-- Skips a comment up to its line break, then what `skipFlowSpace` skips. -/
def skipComment : List Char -> List Char
  | [] => []
  | c :: rest => if c == '\n' then skipFlowSpace rest else skipComment rest

end

/-! ## Properties -/

/-- The properties a node may carry. -/
structure Props where
  anchor : Option String := none
  tag : Option String := none
  deriving Inhabited

/-- Whether a node has no properties. -/
def Props.isEmpty (p : Props) : Bool := p.anchor.isNone && p.tag.isNone

/-- Whether a character may be part of an anchor's name or a tag handle. -/
def isNameChar (c : Char) : Bool := c.isAlphanum || c == '-' || c == '_'

/-- Whether a character may be part of a tag; `,`, `[` and `]` only between `<` and `>`. -/
def isTagChar (verbatim : Bool) (c : Char) : Bool :=
  isNameChar c || ";/?:@&=+$.%!~*'()".contains c || (verbatim && ",[]".contains c)

/-- Whether characters may follow an anchor's name or an alias. -/
def endsName : List Char -> Bool
  | [] => true
  | c :: _ => isSpaceChar c || "?:,]\x7d%@`".contains c

/-- Whether characters may follow a tag: a blank or the end, or a comma in a flow
collection. -/
def endsTag (flow : Bool) : List Char -> Bool
  | [] => true
  | c :: _ => isSpaceChar c || (flow && c == ',')

/-- Reads an anchor's name or an alias's after its indicator. -/
def readName (cs : List Char) : Read (String × List Char) :=
  let (name, after) := cs.span isNameChar
  if name.isEmpty || !endsName after then throw .badProperty
  else pure (String.ofList name, after)

/-- Reads a tag after its `!`: `!<uri>` as written, `!!suffix` in the core schema, `!handle!suffix`
by a declared handle, and `!suffix` or a lone `!` as local tags. -/
def readTag (cs : List Char) : Read (String × List Char) := do
  match cs with
  | '<' :: rest =>
    let (uri, after) := rest.span (isTagChar true)
    match after with
    | '>' :: after => if uri.isEmpty then throw .badProperty else pure (String.ofList uri, after)
    | _ => throw .badProperty
  | _ =>
    let (word, after) := cs.span isNameChar
    match after with
    | '!' :: rest =>
      let (suffix, after) := rest.span (isTagChar false)
      if suffix.isEmpty then throw .badProperty
      else if word.isEmpty then pure (coreTag (String.ofList suffix), after)
      else
        match (<- get).handles.lookup ("!" ++ String.ofList word ++ "!") with
        | some pre => pure (pre ++ String.ofList suffix, after)
        | none => throw .badProperty
    | _ =>
      let (suffix, after) := cs.span (isTagChar false)
      pure ("!" ++ String.ofList suffix, after)

/-- Reads one property in front of a node, if there is one. -/
def readProp (flow : Bool) (p : Props) (cs : List Char) : Read (Option (Props × List Char)) := do
  match cs with
  | '&' :: rest =>
    if p.anchor.isSome then throw .badProperty
    let (name, after) <- readName rest
    pure (some ({ p with anchor := some name }, after))
  | '!' :: rest =>
    if p.tag.isSome then throw .badProperty
    let (tag, after) <- readTag rest
    if !endsTag flow after then throw .badProperty
    pure (some ({ p with tag := some tag }, after))
  | _ => pure none

/-- Reads the properties in front of a node, at most an anchor and a tag in either order, each
followed by what `space` skips; returns what follows them. -/
def readProps (space : List Char -> List Char) (flow : Bool) (cs : List Char) :
    Read (Props × List Char) := do
  match <- readProp flow {} (space cs) with
  | none => pure ({}, space cs)
  | some (p, after) =>
    match <- readProp flow p (space after) with
    | none => pure (p, space after)
    | some (p, after) =>
      match space after with
      | '&' :: _ | '!' :: _ => throw .badProperty
      | rest => pure (p, rest)

/-- Puts properties on a node that was read, defining its anchor. -/
def withProps (p : Props) (n : Node) : Read Node := do
  let n := n.withTag p.tag
  define p.anchor n
  pure n

/-! ## Flow collections -/

mutual

/-- Reads one node inside a flow collection, over a stream of lines. -/
def flowNode : Nat -> List Char -> Read (Node × List Char)
  | 0, _ => throw .unclosedFlow
  | fuel + 1, cs => do
    match skipFlowSpace cs with
    | '*' :: rest =>
      let (name, after) <- readName rest
      pure (<- lookupAnchor name, after)
    | cs =>
      let (props, cs) <- readProps skipFlowSpace true cs
      let (node, rest) <- flowContent fuel props cs
      pure (<- withProps props node, rest)

/-- Reads the content of a node inside a flow collection, after its properties. -/
def flowContent : Nat -> Props -> List Char -> Read (Node × List Char)
  | 0, _, _ => throw .unclosedFlow
  | fuel + 1, props, cs =>
    match cs with
    | '[' :: rest => do
      let (items, rest) <- flowItems fuel [] true rest
      pure (.seq items none, rest)
    | '{' :: rest => do
      let (entries, rest) <- flowEntries fuel [] true rest
      pure (.map entries none, rest)
    | '"' :: rest => do
      let (t, rest) <- doubleQuoted [] (.blanks []) rest
      pure (.scalar ⟨t, .doubleQuoted, none⟩, rest)
    | '\'' :: rest => do
      let (t, rest) <- singleQuoted [] (.blanks []) rest
      pure (.scalar ⟨t, .singleQuoted, none⟩, rest)
    | [] => throw .unclosedFlow
    | c :: rest =>
      if plainStart (c :: rest) then
        let (t, rest) := flowPlain [] (.blanks []) (c :: rest)
        pure (.scalar ⟨String.ofList t, .plain, none⟩, rest)
      else if !props.isEmpty && (isFlowIndicator c || c == ':') then pure (Node.null, c :: rest)
      else throw .unsupportedIndicator

/-- Reads the items of a flow sequence after its `[`, up to its `]`. -/
def flowItems : Nat -> List Node -> Bool -> List Char -> Read (List Node × List Char)
  | 0, _, _, _ => throw .unclosedFlow
  | fuel + 1, acc, first, cs =>
    match skipFlowSpace cs with
    | ']' :: rest => pure (acc.reverse, rest)
    | [] => throw .unclosedFlow
    | cs => do
      let cs <- if first then pure cs
        else match cs with
          | ',' :: rest => pure rest
          | _ => throw .unclosedFlow
      match skipFlowSpace cs with
      | ']' :: rest => pure (acc.reverse, rest)
      | cs => do
        let (explicit, cs) := match cs with
          | '?' :: rest => (true, skipFlowSpace rest)
          | _ => (false, cs)
        let (key, rest) <- match cs with
          | ':' :: _ | ',' :: _ | ']' :: _ =>
            if explicit then pure (Node.null, cs) else flowNode fuel cs
          | _ => flowNode fuel cs
        match skipFlowSpace rest with
        | ':' :: afterColon =>
          let (value, rest) <- match skipFlowSpace afterColon with
            | ',' :: _ | ']' :: _ => pure (Node.null, skipFlowSpace afterColon)
            | _ => flowNode fuel afterColon
          flowItems fuel (.map [(key, value)] none :: acc) false rest
        | rest =>
          let item := if explicit then Node.map [(key, Node.null)] none else key
          flowItems fuel (item :: acc) false rest

/-- Reads the entries of a flow mapping after its `{`, up to its `}`; a key without `:` has a
null value. -/
def flowEntries : Nat -> List (Node × Node) -> Bool -> List Char ->
    Read (List (Node × Node) × List Char)
  | 0, _, _, _ => throw .unclosedFlow
  | fuel + 1, acc, first, cs =>
    match skipFlowSpace cs with
    | '}' :: rest => pure (acc.reverse, rest)
    | [] => throw .unclosedFlow
    | cs => do
      let cs <- if first then pure cs
        else match cs with
          | ',' :: rest => pure rest
          | _ => throw .unclosedFlow
      match skipFlowSpace cs with
      | '}' :: rest => pure (acc.reverse, rest)
      | cs => do
        let (explicit, cs) := match cs with
          | '?' :: rest => (true, skipFlowSpace rest)
          | _ => (false, cs)
        let (key, rest) <- match cs with
          | ':' :: _ | ',' :: _ | '}' :: _ =>
            if explicit then pure (Node.null, cs) else flowNode fuel cs
          | _ => flowNode fuel cs
        match skipFlowSpace rest with
        | ':' :: rest =>
          match skipFlowSpace rest with
          | ',' :: _ | '}' :: _ =>
            flowEntries fuel ((key, Node.null) :: acc) false (skipFlowSpace rest)
          | _ => do
            let (value, rest) <- flowNode fuel rest
            flowEntries fuel ((key, value) :: acc) false rest
        | rest => flowEntries fuel ((key, Node.null) :: acc) false rest

end

/-! ## Block scalars -/

/-- The header of a block scalar after `|` or `>`: chomping (`-` strip, `+` keep) and an explicit
indentation, in either order, then blanks or a comment. -/
structure BlockHeader where
  chomp : Option Bool := none
  indent : Option Nat := none

/-- Reads a block scalar header. -/
def blockHeader (cs : List Char) : Except YamlError BlockHeader :=
  let chompOf (c : Char) : Option Bool :=
    if c == '-' then some false else if c == '+' then some true else none
  let indentOf (c : Char) : Option Nat :=
    if '1' <= c ∧ c <= '9' then some (c.toNat - 48) else none
  let (h, rest) : BlockHeader × List Char := match cs with
    | a :: b :: rest =>
      match chompOf a, indentOf b, indentOf a, chompOf b with
      | some ch, some i, _, _ => (⟨some ch, some i⟩, rest)
      | _, _, some i, some ch => (⟨some ch, some i⟩, rest)
      | some ch, _, _, _ => (⟨some ch, none⟩, b :: rest)
      | _, _, some i, _ => (⟨none, some i⟩, b :: rest)
      | _, _, _, _ => ({}, a :: b :: rest)
    | [a] =>
      match chompOf a, indentOf a with
      | some ch, _ => (⟨some ch, none⟩, [])
      | _, some i => (⟨none, some i⟩, [])
      | _, _ => ({}, [a])
    | [] => ({}, [])
  match rest with
  | [] => pure h
  | c :: _ => if isBlankChar c && isRestBlank rest then pure h else throw .trailingText

/-- Whether a line is empty apart from spaces. -/
def isSpaceLine (l : String) : Bool := l.all (· == ' ')

/-- Splits off the lines of a block scalar whose content is indented by `indent`: blank lines
and lines indented at least that much. -/
def blockLines (indent : Nat) : List String -> List String × List String
  | [] => ([], [])
  | l :: rest =>
    if isSpaceLine l || indentOf l ≥ indent then
      let (inner, after) := blockLines indent rest
      (l :: inner, after)
    else ([], l :: rest)

/-- The text of a literal block: each line without its indentation, ended by a line feed. -/
def literalText (indent : Nat) (ls : List String) : String :=
  String.join (ls.map fun l => String.ofList (l.toList.drop indent) ++ "\n")

/-- The text of a folded block: a line break between two lines that are not indented further
becomes a space, and empty lines stay line breaks. -/
def foldedText (indent : Nat) (ls : List String) : String :=
  let rows := ls.map fun l => l.toList.drop indent
  let step (acc : String × Option Bool × Nat) (row : List Char) : String × Option Bool × Nat :=
    let (out, prev, empties) := acc
    if row.isEmpty then (out, prev, empties + 1)
    else
      let blankStart := isBlankChar (row.headD ' ')
      let joint := match prev with
        | none => String.ofList (List.replicate empties '\n')
        | some prevBlank =>
          if !prevBlank && !blankStart then
            if empties == 0 then " " else String.ofList (List.replicate empties '\n')
          else String.ofList (List.replicate (empties + 1) '\n')
      (out ++ joint ++ String.ofList row, some blankStart, 0)
  let (out, prev, empties) := rows.foldl step ("", none, 0)
  match prev with
  | some _ => out ++ "\n" ++ String.ofList (List.replicate empties '\n')
  | none => String.ofList (List.replicate empties '\n')

/-- Applies chomping to a block's text: strip drops every final line feed, clip keeps one, keep
keeps them all. -/
def chompText (chomp : Option Bool) (t : String) : String :=
  let body := (t.toList.reverse.dropWhile (· == '\n')).reverse
  match chomp with
  | some false => String.ofList body
  | some true => t
  | none => if body.isEmpty then "" else String.ofList body ++ "\n"

/-- Reads a block scalar whose parent is indented by `parent`, from the lines after its header. -/
def blockScalar (folded : Bool) (h : BlockHeader) (parent : Int) (lines : List String) :
    Node × List String :=
  -- the indentation is the largest of the leading empty lines' lengths and the first content
  -- line's, and more than the parent's
  let (leading, content) := lines.span isSpaceLine
  let widest := (leading.map String.length).foldl max (match content with
    | l :: _ => indentOf l
    | [] => 0)
  let auto : Nat := max widest (max ((parent + 1).toNat) 1)
  let indent : Nat := match h.indent with
    | some i => (parent + 1).toNat + i - 1
    | none => auto
  let style := if folded then Style.folded else Style.literal
  if (indent : Int) ≤ parent ∨ indent == 0 then
    -- no content: the lines that follow belong to the parent
    let (blank, rest) := lines.span isSpaceLine
    let t := chompText h.chomp (String.ofList (List.replicate blank.length '\n'))
    (.scalar ⟨t, style, none⟩, rest)
  else
    let (inner, rest) := blockLines indent lines
    let text := if folded then foldedText indent inner else literalText indent inner
    (.scalar ⟨chompText h.chomp text, style, none⟩, rest)

/-! ## Blocks -/

/-- Splits a line's body at the `:` that ends a plain key; `none` if there is none before a
comment. -/
def splitKey (acc : List Char) : List Char -> Option (List Char × List Char)
  | [] => none
  | [':'] => some (acc.reverse, [])
  | ':' :: c :: rest => if isBlankChar c then some (acc.reverse, c :: rest) else splitKey (c :: ':' :: acc) rest
  | c :: '#' :: rest => if isBlankChar c then none else splitKey ('#' :: c :: acc) rest
  | c :: rest => splitKey (c :: acc) rest

/-- What follows a key written before a `:`: the rest after the `:` when the `:` comes next and
is followed by a blank or nothing. -/
def afterColon (cs : List Char) : Option (List Char) :=
  match dropBlanks cs with
  | ':' :: r => if r.isEmpty || isBlankChar (r.headD ' ') then some r else none
  | _ => none

/-- Reads a quoted key on one line; `none` when the quote does not close there. -/
def quotedKey (double : Bool) (rest : List Char) : Option (String × List Char) :=
  match (if double then doubleQuoted [] (.blanks []) rest else singleQuoted [] (.blanks []) rest) with
  | .ok r => some r
  | .error _ => none

/-- The key of a mapping line, perhaps after properties, and what follows its `:`; `none` if the
line holds no key. -/
def lineKey (body : List Char) : Read (Option (Node × List Char)) := do
  match body with
  | '*' :: rest =>
    let (name, after) <- readName rest
    match afterColon after with
    | some r => pure (some (<- lookupAnchor name, r))
    | none => pure none
  | _ =>
    let (props, cs) <- readProps dropBlanks false body
    let found : Option (Node × List Char) := match cs with
      | '"' :: rest =>
        (quotedKey true rest).bind fun (t, after) =>
          (afterColon after).map fun r => (.scalar ⟨t, .doubleQuoted, none⟩, r)
      | '\'' :: rest =>
        (quotedKey false rest).bind fun (t, after) =>
          (afterColon after).map fun r => (.scalar ⟨t, .singleQuoted, none⟩, r)
      | '[' :: _ | '{' :: _ | '|' :: _ | '>' :: _ => none
      | cs =>
        if isExplicitValue cs then some (Node.null, cs.drop 1)
        else (splitKey [] cs).map fun (k, r) => (.scalar ⟨String.ofList (trimBlanksEnd k), .plain, none⟩, r)
    match found with
    | some (key, r) =>
      match key with
      | .scalar k =>
        if k.style == .plain && !k.text.isEmpty && !plainStart k.text.toList then
          throw .unsupportedIndicator
      | _ => pure ()
      pure (some (<- withProps props key, r))
    | none => pure none

/-- Whether a line holds only blanks. -/
def isEmptyLine (l : String) : Bool := l.all isBlankChar

/-- Continues a plain scalar over the following lines indented past `parent`: a single line
break becomes a space, each empty line a line feed. -/
def plainContinuation (parent : Int) (text : List Char) (lines : List String) :
    Except YamlError (List Char × List String) :=
  match hrest : lines.dropWhile isEmptyLine with
  | l :: more =>
    if (indentOf l : Int) > parent && !isBlankLine l && !isDocumentMarker l then do
      let piece <- blockPlain [] (dropBlanks l.toList)
      let empties := (lines.takeWhile isEmptyLine).length
      let joint := if empties == 0 then [' '] else List.replicate empties '\n'
      have : more.length < lines.length := by
        have hle := (List.dropWhile_suffix isEmptyLine (l := lines)).length_le
        rw [hrest, List.length_cons] at hle
        omega
      plainContinuation parent (text ++ joint ++ piece) more
    else pure (text, lines)
  | [] => pure (text, lines)
termination_by lines.length

/-- Whether a line starts with a tab where indentation is expected. -/
def hasTabIndent (l : String) : Bool :=
  match l.toList.dropWhile (· == ' ') with
  | '\t' :: _ => true
  | _ => false

/-- Reads a node that may go on over the following lines from a stream of them; the rest of
its last line must be blank. -/
def overLines (read : List Char -> Read (Node × List Char)) (cs : List Char) (lines : List String) :
    Read (Node × List String) := do
  let (node, after) <- read (streamOf cs lines)
  let (restLine, more) := unstream after lines
  if isRestBlank restLine then pure (node, more) else throw .trailingText

mutual

/-- Reads the block node that starts at the next line indented past `parent` (or a sequence
at `parent` itself when `entryAtParent`); a null scalar if there is none. -/
def blockNode : Nat -> Int -> Bool -> List String -> Read (Node × List String)
  | 0, _, _, _ => throw .badIndentation
  | fuel + 1, parent, entryAtParent, lines =>
    match skipBlankLines lines with
    | [] => pure (Node.null, [])
    | l :: rest =>
      if isDocumentMarker l then pure (Node.null, l :: rest)
      else if hasTabIndent l then throw .tabIndentation
      else
        let n := indentOf l
        let body := bodyOf l
        if (n : Int) > parent ∨ (entryAtParent ∧ (n : Int) = parent ∧ isEntry body) then
          if isEntry body then do
            let (items, rest) <- blockSeq fuel n (l :: rest)
            pure (.seq items none, rest)
          else if isExplicitKey body then do
            let (entries, rest) <- blockMap fuel n (l :: rest)
            pure (.map entries none, rest)
          else do
            match <- lineKey body with
            | some _ => do
              let (entries, rest) <- blockMap fuel n (l :: rest)
              pure (.map entries none, rest)
            | none => inlineNode fuel parent entryAtParent body rest
        else pure (Node.null, l :: rest)

/-- Reads a node on the rest of a line (`cs`), maybe going on over lines indented past `parent`;
properties alone on the line belong to the block node below. -/
def inlineNode : Nat -> Int -> Bool -> List Char -> List String -> Read (Node × List String)
  | 0, _, _, _, _ => throw .badIndentation
  | fuel + 1, parent, entryAtParent, cs, lines =>
    match cs with
    | '*' :: rest => do
      let (name, after) <- readName rest
      if isRestBlank after then pure (<- lookupAnchor name, lines) else throw .trailingText
    | _ => do
      let (props, cs) <- readProps dropBlanks false cs
      let (node, rest) <- if !props.isEmpty && isRestBlank cs then blockNode fuel parent entryAtParent lines
        else match cs with
          | '[' :: _ | '{' :: _ => overLines (flowNode (4 * (streamOf cs lines).length + 4)) cs lines
          | '"' :: rest => overLines (fun s => do
              let (t, after) <- doubleQuoted [] (.blanks []) s
              pure (.scalar ⟨t, .doubleQuoted, none⟩, after)) rest lines
          | '\'' :: rest => overLines (fun s => do
              let (t, after) <- singleQuoted [] (.blanks []) s
              pure (.scalar ⟨t, .singleQuoted, none⟩, after)) rest lines
          | '|' :: rest => do
            let h <- blockHeader rest
            pure (blockScalar false h parent lines)
          | '>' :: rest => do
            let h <- blockHeader rest
            pure (blockScalar true h parent lines)
          | _ =>
            if !plainStart cs then throw .unsupportedIndicator
            else do
              let first <- blockPlain [] cs
              let (text, rest) <- plainContinuation parent first lines
              pure (.scalar ⟨String.ofList text, .plain, none⟩, rest)
      pure (<- withProps props node, rest)

/-- Reads the entries of a block sequence indented by `n`. -/
def blockSeq : Nat -> Nat -> List String -> Read (List Node × List String)
  | 0, _, _ => throw .badIndentation
  | fuel + 1, n, lines =>
    match skipBlankLines lines with
    | [] => pure ([], [])
    | l :: rest =>
      if isDocumentMarker l then pure ([], l :: rest)
      else if hasTabIndent l then throw .tabIndentation
      else if indentOf l == n && isEntry (bodyOf l) then do
        let after := (bodyOf l).drop 1
        let (item, rest) <- if isRestBlank after then blockNode fuel n false rest
          else match after with
            | '\t' :: _ => throw .tabIndentation
            | _ => blockNode fuel n false (reindent n after :: rest)
        let (items, rest) <- blockSeq fuel n rest
        pure (item :: items, rest)
      else if indentOf l > n then throw .badIndentation
      else pure ([], l :: rest)

/-- Reads the value of an explicit key: a `:` line at the key's indentation `n`, or null. -/
def explicitValue : Nat -> Nat -> List String -> Read (Node × List String)
  | 0, _, _ => throw .badIndentation
  | fuel + 1, n, lines =>
    match skipBlankLines lines with
    | l :: rest =>
      if !isDocumentMarker l && indentOf l == n && isExplicitValue (bodyOf l) then
        let after := (bodyOf l).drop 1
        if isRestBlank after then blockNode fuel n true rest
        else blockNode fuel n false (reindent n after :: rest)
      else pure (Node.null, lines)
    | [] => pure (Node.null, lines)

/-- Reads the entries of a block mapping indented by `n`. -/
def blockMap : Nat -> Nat -> List String -> Read (List (Node × Node) × List String)
  | 0, _, _ => throw .badIndentation
  | fuel + 1, n, lines =>
    match skipBlankLines lines with
    | [] => pure ([], [])
    | l :: rest =>
      if isDocumentMarker l then pure ([], l :: rest)
      else if hasTabIndent l then throw .tabIndentation
      else if indentOf l == n then do
        let body := bodyOf l
        if isExplicitKey body then do
          let after := body.drop 1
          let (key, rest) <- if isRestBlank after then blockNode fuel n false rest
            else blockNode fuel n false (reindent n after :: rest)
          let (value, rest) <- explicitValue fuel n rest
          let (entries, rest) <- blockMap fuel n rest
          pure ((key, value) :: entries, rest)
        else
          match <- lineKey body with
          | none => throw .expectedKey
          | some (key, after) => do
            let (value, rest) <- if isRestBlank after then blockNode fuel n true rest
              else inlineNode fuel n true (dropBlanks after) rest
            let (entries, rest) <- blockMap fuel n rest
            pure ((key, value) :: entries, rest)
      else if indentOf l > n then throw .badIndentation
      else pure ([], l :: rest)

end

/-! ## Documents -/

/-- Whether a character breaks a line: a line feed, a carriage return (alone or before a line
feed), a next-line character, or a line or paragraph separator. -/
def isLineBreak (c : Char) : Bool :=
  c == '\n' || c == '\r' || c.toNat == 0x85 || c.toNat == 0x2028 || c.toNat == 0x2029

/-- The text with every line break written as one line feed. -/
def unifyBreaks : List Char -> List Char
  | '\r' :: '\n' :: rest => '\n' :: unifyBreaks rest
  | c :: rest => (if isLineBreak c then '\n' else c) :: unifyBreaks rest
  | [] => []

/-- The lines of a text, split at its line breaks; a final line break opens no line. -/
def textLines (text : String) : List String :=
  let text := String.ofList (unifyBreaks text.toList)
  let pieces := text.splitOn "\n"
  if text.endsWith "\n" then pieces.dropLast else pieces

/-- Whether a character may stand in a YAML text: tab, line breaks, printable ASCII, next-line,
and the rest of Unicode but C1 controls, surrogates and `U+FFFE`, `U+FFFF`. -/
def isPrintable (c : Char) : Bool :=
  let n := c.toNat
  n == 0x9 || n == 0xA || n == 0xD || (0x20 <= n && n <= 0x7E) || n == 0x85 ||
    (0xA0 <= n && n <= 0xD7FF) || (0xE000 <= n && n <= 0xFFFD) || (0x10000 <= n && n <= 0x10FFFF)

/-- Whether a line marks the start of a document. -/
def isDocumentStart (l : String) : Bool :=
  l.startsWith "---" && isDocumentMarker l

/-- Whether a line marks the end of a document. -/
def isDocumentEnd (l : String) : Bool :=
  l.startsWith "..." && isDocumentMarker l

/-- The words of a directive line, its comment dropped. -/
def directiveWords (l : String) : List String :=
  let body := (l.splitOn " #").headD ""
  ((body.splitOn " ").flatMap (·.splitOn "\t")).filter (!·.isEmpty)

/-- Takes the directives before a document's start: `%YAML 1.1` or `1.2` at most once, and
`%TAG` declaring a handle once. -/
def readDirectives (ls : List String) : Read Unit := do
  let step (seenYaml : Bool) (l : String) : Read Bool := do
    match directiveWords l with
    | ["%YAML", v] =>
      if seenYaml then throw .badDirective
      match v.splitOn "." with
      | [major, minor] =>
        if major.isEmpty || minor.isEmpty || !major.all Char.isDigit || !minor.all Char.isDigit then
          throw .badDirective
        else if major.toNat? != some 1 || (minor.toNat? != some 1 && minor.toNat? != some 2) then
          throw .badDirective
        else pure true
      | _ => throw .badDirective
    | ["%TAG", handle, pre] =>
      let st <- get
      if st.handles.any (·.1 == handle) || !handle.startsWith "!" || !handle.endsWith "!" then
        throw .badDirective
      set { st with handles := (handle, pre) :: st.handles }
      pure seenYaml
    | _ => throw .badDirective
  let _ <- ls.foldlM (fun seen l => if isBlankLine l then pure seen else step seen l) false

/-- Reads a text holding at most one document; `none` when it holds nothing. -/
def document (text : String) : Read (Option Node) := do
  let lines := skipBlankLines (textLines text)
  -- directives come before an explicit start
  let (directives, lines) := lines.span fun l => l.startsWith "%" || isBlankLine l
  if !directives.isEmpty then
    match lines with
    | l :: _ => if isDocumentStart l then readDirectives directives else throw .badDirective
    | [] => throw .badDirective
  let (started, lines) := match lines with
    | l :: rest =>
      if isDocumentStart l then
        let after := (l.toList.drop 3)
        (true, if isRestBlank after then rest else String.ofList (' ' :: after) :: rest)
      else (false, lines)
    | [] => (false, [])
  if !started && (skipBlankLines lines).isEmpty then return none
  if !started then
    match skipBlankLines lines with
    | l :: _ => if isDocumentEnd l then return none
    | [] => pure ()
  -- every step of the block reader takes a line or goes one level down
  let (node, rest) <- blockNode (3 * (streamOf [] lines).length + 3) (-1) false lines
  match skipBlankLines rest with
  | [] => pure (some node)
  | l :: more =>
    if isDocumentEnd l then
      if (skipBlankLines more).isEmpty then pure (some node) else throw .multipleDocuments
    else if isDocumentStart l then throw .multipleDocuments
    else throw .badIndentation

/-- Reads a text holding at most one document; `none` when it holds nothing. -/
def readDocument (text : String) : Except YamlError (Option Node) :=
  if text.toList.all isPrintable then (document text).run' {}
  else .error .controlCharacter

end TranscriptTest.Yaml
