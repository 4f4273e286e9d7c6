import ListingQuery.Yaml.Scalar
import ListingQuery.Yaml.Token

/-!
# From text to tokens

Outside brackets the column of a token says which collections it ends and which it starts.  A mapping
key is only known as such at the colon behind it, so the place of everything that may be a key is
remembered, for each level of brackets, and the tokens before the key are put in when the colon is
found.  A key stands on one line and has at most 1024 characters.
-/

namespace ListingQuery.Yaml

/-- The place of something that may turn out to be a key. -/
structure PossibleKey where
  /-- The number of tokens before it. -/
  position : Nat
  /-- It stands where only a key may stand. -/
  required : Bool
  line : Nat
  column : Nat
  index : Nat

/-- How far the text has been read. -/
structure Lexer where
  rest : List Glyph
  /-- The tokens found, the last first. -/
  tokens : List Token := []
  /-- Whether a key may start here. -/
  keyAllowed : Bool := true
  /-- The column of the innermost block collection. -/
  indent? : Option Nat := none
  /-- The columns of the collections around it, from the inside out. -/
  outer : List (Option Nat) := []
  /-- What may be a key outside brackets, or within the innermost brackets. -/
  possibleKey? : Option PossibleKey := none
  /-- The same for the levels of brackets around, from the inside out. -/
  outerKeys : List (Option PossibleKey) := []

namespace Lexer

/-! ## Places -/

/-- Whether the lexer is inside brackets. -/
def inFlow (l : Lexer) : Bool := !l.outerKeys.isEmpty

/-- Whether a column lies to the right of the innermost block collection. -/
def isBelow (indent? : Option Nat) (column : Nat) : Bool := indent?.all (· < column)

/-- Add a token. -/
def emit (l : Lexer) (t : Token) : Lexer := { l with tokens := t :: l.tokens }

/-- Put a token behind the first `position` tokens. -/
def emitAt (l : Lexer) (position : Nat) (t : Token) : Lexer :=
  let later := l.tokens.length - position
  { l with tokens := l.tokens.take later ++ t :: l.tokens.drop later }

/-- Start a block collection at this column, unless the innermost one starts there or further right.
Its token goes behind the first `position` tokens. -/
def startBlock (l : Lexer) (column position : Nat) (t : Token) : Lexer :=
  if !l.inFlow && isBelow l.indent? column then
    { l.emitAt position t with indent? := some column, outer := l.indent? :: l.outer }
  else l

/-- The block collections that end before this column, or all of them; from the inside out. -/
def endBlocksFrom (column? : Option Nat) :
    (indent? : Option Nat) → (outer : List (Option Nat)) → Nat × Option Nat × List (Option Nat)
  | none, outer => (0, none, outer)
  | some n, outer =>
    if column?.any (n ≤ ·) then (0, some n, outer)
    else
      match outer with
      | [] => (1, none, [])
      | indent? :: outer =>
        let (count, rest) := endBlocksFrom column? indent? outer
        (count + 1, rest)

/-- End the block collections that end before this column, or all of them. -/
def endBlocks (l : Lexer) (column? : Option Nat) : Lexer :=
  if l.inFlow then l
  else
    let (count, indent?, outer) := endBlocksFrom column? l.indent? l.outer
    { l with
      tokens := List.replicate count Token.blockEnd ++ l.tokens
      indent? := indent?
      outer := outer }

/-! ## Keys -/

/-- Nothing before may be a key any more; a place where one was required is a fault. -/
def dropKey (l : Lexer) : Option Lexer :=
  match l.possibleKey? with
  | some k => if k.required then none else some { l with possibleKey? := none }
  | none => some l

/-- What comes next may be a key, if one is allowed here. -/
def markKey (l : Lexer) (g : Glyph) : Option Lexer :=
  if !l.keyAllowed then some l
  else do
    let l ← l.dropKey
    let required := !l.inFlow && l.indent? == some g.column
    some { l with possibleKey? := some ⟨l.tokens.length, required, g.line, g.column, g.index⟩ }

/-- The key that ends before this place. -/
def keyBefore (l : Lexer) (g : Glyph) : Option (Option PossibleKey) :=
  match l.possibleKey? with
  | none => some none
  | some k =>
    if k.line < g.line || k.index + 1024 < g.index then
      if k.required then none else some none
    else some (some k)

/-! ## Blanks -/

/-- The text behind blanks and comments.  Outside brackets a line break allows a key again, and tabs
are no blanks where a key may start. -/
def skipBlanks (inFlow : Bool) : (keyAllowed inComment : Bool) → List Glyph → Bool × List Glyph
  | allowed, _, [] => (allowed, [])
  | allowed, inComment, g :: gs =>
    if isBreak g.char then skipBlanks inFlow (allowed || !inFlow) false gs
    else if inComment || g.char == '#' then skipBlanks inFlow allowed true gs
    else if g.char == ' ' || (g.char == '\t' && (inFlow || !allowed)) then
      skipBlanks inFlow allowed false gs
    else (allowed, g :: gs)

/-- Go on to the next token. -/
def skip (l : Lexer) : Lexer :=
  let (allowed, rest) := skipBlanks l.inFlow l.keyAllowed false l.rest
  { l with keyAllowed := allowed, rest := rest }

/-! ## Directives, tags and names -/

/-- Whether a character may stand in a name. -/
def isNameChar (c : Char) : Bool := (c.toNat < 0x80 && c.isAlphanum) || c == '_' || c == '-'

/-- Whether a character may stand in a tag; some only within angle brackets. -/
def isTagChar (inAngles : Bool) (c : Char) : Bool :=
  isNameChar c || ";/?:@&=+$.!~*'()%".toList.contains c || (inAngles && ",[]".toList.contains c)

/-- The name of an anchor or alias, which must end at a blank or a mark. -/
def readName (gs : List Glyph) : Option (List Char × List Glyph) :=
  let (name, rest) := gs.span fun g => isNameChar g.char
  let ends := atBlank rest || rest.head?.any fun g => "?:,]\x7d%@\x60".toList.contains g.char
  if name.isEmpty || !ends then none else some (chars name, rest)

/-- The handle that a tag may start with: an exclamation mark, perhaps a name, and a second mark. -/
def readHandle (gs : List Glyph) : List Char × List Glyph :=
  let (name, rest) := gs.span fun g => isNameChar g.char
  if startsWith '!' rest then ('!' :: chars name ++ ['!'], rest.drop 1) else (['!'], gs)

/-- A tag, behind its first mark. -/
def readTag (inFlow : Bool) (gs : List Glyph) : Option (Token × List Glyph) := do
  let (tag, rest) ←
    if startsWith '<' gs then
      let (name, rest) := (gs.drop 1).span fun g => isTagChar true g.char
      if name.isEmpty || !startsWith '>' rest then none
      else some (Token.tag [] (chars name), rest.drop 1)
    else
      let (handle, rest) := readHandle gs
      let (suffix, rest) := rest.span fun g => isTagChar false g.char
      if handle == ['!'] then
        if suffix.isEmpty then some (.tag [] ['!'], rest) else some (.tag ['!'] (chars suffix), rest)
      else if suffix.isEmpty then none
      else some (.tag handle (chars suffix), rest)
  if atBlank rest || (inFlow && startsWith ',' rest) then some (tag, rest) else none

/-- A whole number of at most nine digits. -/
def readNumber (gs : List Glyph) : Option (Nat × List Glyph) :=
  let (digits, rest) := gs.span fun g => g.char.isDigit
  if digits.isEmpty || 9 < digits.length then none
  else some (digits.foldl (fun n g => 10 * n + (g.char.toNat - 0x30)) 0, rest)

/-- A directive, behind the percent sign: the version of the language or the meaning of a tag
handle. -/
def readDirective (gs : List Glyph) : Option (Token × List Glyph) := do
  let (name, rest) := gs.span fun g => isNameChar g.char
  let rest := rest.dropWhile fun g => isSpace g.char
  let (t, rest) ←
    if chars name == "YAML".toList then do
      let (major, rest) ← readNumber rest
      if !startsWith '.' rest then none
      else do
        let (minor, rest) ← readNumber (rest.drop 1)
        some (Token.version major minor, rest)
    else if chars name == "TAG".toList then
      if !startsWith '!' rest then none
      else
        let (handle, rest) := readHandle (rest.drop 1)
        let blanks := rest.takeWhile fun g => isSpace g.char
        let (base, rest) := (rest.drop blanks.length).span fun g => isTagChar true g.char
        if blanks.isEmpty || base.isEmpty || !atBlank rest then none
        else some (.tagHandle handle (chars base), rest)
    else none
  let rest ← skipLineEnd rest
  some (t, rest)

/-! ## Tokens -/

/-- A token of one character that belongs to no key. -/
def readMark (l : Lexer) (t : Token) (keyAllowed : Bool) (rest : List Glyph) : Option Lexer := do
  let l ← l.dropKey
  some { l.emit t with keyAllowed := keyAllowed, rest := rest }

/-- A mark or a directive at the start of a line, outside all collections. -/
def readDocumentToken (l : Lexer) (t : Token) (rest : List Glyph) : Option Lexer :=
  (l.endBlocks none).readMark t false rest

/-- An opening bracket. -/
def readOpening (l : Lexer) (g : Glyph) (t : Token) (rest : List Glyph) : Option Lexer := do
  let l ← l.markKey g
  some { l.emit t with
    keyAllowed := true, rest := rest, possibleKey? := none
    outerKeys := l.possibleKey? :: l.outerKeys }

/-- A closing bracket; outside brackets it is left to the grammar. -/
def readClosing (l : Lexer) (t : Token) (rest : List Glyph) : Option Lexer := do
  let l ← l.dropKey
  let l := match l.outerKeys with
    | [] => l
    | k :: ks => { l with possibleKey? := k, outerKeys := ks }
  some { l.emit t with keyAllowed := false, rest := rest }

/-- A hyphen that starts an item of a block sequence. -/
def readBlockEntry (l : Lexer) (g : Glyph) (rest : List Glyph) : Option Lexer :=
  if !l.inFlow && !l.keyAllowed then none
  else (l.startBlock g.column l.tokens.length .blockSequenceStart).readMark .blockEntry true rest

/-- A question mark that starts a key. -/
def readKey (l : Lexer) (g : Glyph) (rest : List Glyph) : Option Lexer :=
  if !l.inFlow && !l.keyAllowed then none
  else (l.startBlock g.column l.tokens.length .blockMappingStart).readMark .key (!l.inFlow) rest

/-- A colon that starts a value.  If a key stands before it, its token and perhaps that of a mapping
are put in front of the key. -/
def readValue (l : Lexer) (g : Glyph) (rest : List Glyph) : Option Lexer := do
  match ← l.keyBefore g with
  | some k =>
    let l := (l.emitAt k.position .key).startBlock k.column k.position .blockMappingStart
    some { l.emit .value with keyAllowed := false, rest := rest, possibleKey? := none }
  | none =>
    if !l.inFlow && !l.keyAllowed then none
    else
      let l := { l with possibleKey? := none }
      let l := l.startBlock g.column l.tokens.length .blockMappingStart
      some { l.emit .value with keyAllowed := !l.inFlow, rest := rest }

/-- A token that may be, or may introduce, a key. -/
def readNodePart (l : Lexer) (g : Glyph) (t : Token) (keyAllowed : Bool) (rest : List Glyph) :
    Option Lexer := do
  let l ← l.markKey g
  some { l.emit t with keyAllowed := keyAllowed, rest := rest }

/-- A scalar in quotes. -/
def readQuoted (l : Lexer) (g : Glyph) (gs : List Glyph) : Option Lexer := do
  let (text, rest) ← quotedText g.char (gs.length + 1) gs
  l.readNodePart g (.scalar (String.ofList text) .other) false rest

/-- A block scalar, which is no key. -/
def readBlock (l : Lexer) (g : Glyph) (gs : List Glyph) : Option Lexer := do
  let folded := g.char == '>'
  let (text, rest) ← blockText folded l.indent? gs
  l.readMark (.scalar (String.ofList text) (if folded then .other else .literal)) true rest

/-- Whether a plain scalar may start here.  A hyphen, and outside brackets a question mark or a
colon, starts one if no blank follows. -/
def startsPlain (inFlow : Bool) (g : Glyph) (gs : List Glyph) : Bool :=
  !("-?:,[]\x7b\x7d#&*!|>'\"%@\x60".toList.contains g.char || isSpaceOrBreak g.char)
    || (g.char == '-' && !atBlank gs)
    || (!inFlow && (g.char == '?' || g.char == ':') && !atBlank gs)

/-- A plain scalar.  If a line break follows, a key may start behind it. -/
def readPlain (l : Lexer) (g : Glyph) (gs : List Glyph) : Option Lexer := do
  let least := match l.indent? with
    | some n => n + 1
    | none => 0
  let (text, broke, rest) ← plainText l.inFlow least (gs.length + 2) [] (g :: gs)
  l.readNodePart g (.scalar (String.ofList text) .plain) broke rest

/-! ## Algorithm -/

/-- Read the token that starts with this character. -/
def readToken (l : Lexer) (g : Glyph) (gs : List Glyph) : Option Lexer :=
  let l := l.endBlocks (some g.column)
  let marksBlank := l.inFlow || atBlank gs
  if g.column = 0 ∧ g.char = '%' then do
    let (t, rest) ← readDirective gs
    l.readDocumentToken t rest
  else
    match cutMark? '-' (g :: gs), cutMark? '.' (g :: gs) with
    | some rest, _ => l.readDocumentToken .documentStart rest
    | none, some rest => l.readDocumentToken .documentEnd rest
    | none, none =>
      match g.char with
      | '[' => l.readOpening g .flowSequenceStart gs
      | '\x7b' => l.readOpening g .flowMappingStart gs
      | ']' => l.readClosing .flowSequenceEnd gs
      | '\x7d' => l.readClosing .flowMappingEnd gs
      | ',' => l.readMark .flowEntry true gs
      | '*' => do
        let (name, rest) ← readName gs
        l.readNodePart g (.alias name) false rest
      | '&' => do
        let (name, rest) ← readName gs
        l.readNodePart g (.anchor name) false rest
      | '!' => do
        let (t, rest) ← readTag l.inFlow gs
        l.readNodePart g t false rest
      | '\'' => l.readQuoted g gs
      | '"' => l.readQuoted g gs
      | c =>
        if c = '-' ∧ atBlank gs then l.readBlockEntry g gs
        else if c = '?' ∧ marksBlank then l.readKey g gs
        else if c = ':' ∧ marksBlank then l.readValue g gs
        else if (c = '|' ∨ c = '>') ∧ !l.inFlow then l.readBlock g gs
        else if startsPlain l.inFlow g gs then l.readPlain g gs
        else none

/-- Read tokens to the end of the text; every token takes at least one character. -/
def run : (fuel : Nat) → Lexer → Option Lexer
  | 0, _ => none
  | fuel + 1, l =>
    let l := l.skip
    match l.rest with
    | [] => (l.endBlocks none).dropKey
    | g :: gs => (l.readToken g gs).bind (run fuel)

end Lexer

/-- The tokens of a text.  A byte order mark at its start counts as a column. -/
def tokens? (text : String) : Option (List Token) := do
  let gs ← glyphs? text
  let gs := if startsWith '\ufeff' gs then gs.drop 1 else gs
  let l ← Lexer.run (gs.length + 1) { rest := gs }
  some l.tokens.reverse

end ListingQuery.Yaml
