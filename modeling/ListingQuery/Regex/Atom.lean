import ListingQuery.Regex.Pattern
import ListingQuery.Regex.Spacing

/-!
# Atoms

The smallest parts of a pattern: single characters, predefined classes and anchors.  Here belong the
escapes, all that a backslash can introduce, and the flags that say how atoms are read.

A reader takes the text behind what it has already seen and gives the atom and the rest; `none` is a
fault of the pattern.
-/

namespace ListingQuery.Regex

open Text (isBlank)
open Unicode (Property)

/-- How a pattern is read from some point on. -/
structure Flags where
  ignoreCase : Bool := false
  /-- The anchors of the text are anchors of its lines. -/
  multiLine : Bool := false
  /-- A dot stands for line ends as well. -/
  dotAll : Bool := false
  /-- A carriage return ends lines as well. -/
  returns : Bool := false
  unicode : Bool := true
  /-- Blanks and comments have no meaning. -/
  spaced : Bool := false
  deriving DecidableEq, Repr

/-- A part of a pattern that has no parts. -/
inductive Atom where
  /-- A character; `isByte` says that it was written by two hexadecimal digits. -/
  | char (c : Char) (isByte : Bool)
  | set (s : CharSet)
  | anchor (a : Anchor)

namespace Flags

/-- Turn the flag with this letter on or off.  The letter for lazy matching changes no answer. -/
def set? (f : Flags) (letter : Char) (on : Bool) : Option Flags :=
  match letter with
  | 'i' => some { f with ignoreCase := on }
  | 'm' => some { f with multiLine := on }
  | 's' => some { f with dotAll := on }
  | 'R' => some { f with returns := on }
  | 'u' => some { f with unicode := on }
  | 'x' => some { f with spaced := on }
  | 'U' => some f
  | _ => none

/-- The set closed under case, if case is ignored. -/
def fold (f : Flags) (s : CharSet) : CharSet :=
  if !f.ignoreCase then s else if f.unicode then .folded s else .asciiFolded s

/-- The set or, if `negated`, its complement, which without Unicode would hold bytes that are no
characters. -/
def negate? (f : Flags) (negated : Bool) (s : CharSet) : Option CharSet :=
  if !negated then some s else if f.unicode then some (.complement s) else none

end Flags

/-! ## Predefined classes -/

/-- Digits, blanks and the characters of words, by their letter. -/
def letterClass (f : Flags) (letter : Char) : CharSet :=
  match letter with
  | 'd' => if f.unicode then .property (.category ["Nd"]) else .range 0x30 0x39
  | 's' =>
    if f.unicode then .property (.binary "White_Space") else .union (.range 9 13) (.single ' ')
  | _ => if f.unicode then wordSet else asciiWordSet

/-- The classes of ASCII characters that have a name inside brackets. -/
def namedClasses : List (String × CharSet) :=
  let digits := CharSet.range 0x30 0x39
  let upper := CharSet.range 0x41 0x5A
  let lower := CharSet.range 0x61 0x7A
  [("alnum", .unionAll [digits, upper, lower]), ("alpha", .union upper lower),
    ("ascii", .range 0 0x7F), ("blank", .union (.single '\t') (.single ' ')),
    ("cntrl", .union (.range 0 0x1F) (.range 0x7F 0x7F)), ("digit", digits),
    ("graph", .range 0x21 0x7E), ("lower", lower), ("print", .range 0x20 0x7E),
    ("punct", .unionAll [.range 0x21 0x2F, .range 0x3A 0x40, .range 0x5B 0x60, .range 0x7B 0x7E]),
    ("space", .union (.range 9 13) (.single ' ')), ("upper", upper), ("word", asciiWordSet),
    ("xdigit", .unionAll [digits, .range 0x41 0x46, .range 0x61 0x66])]

/-! ## Escapes -/

/-- Whether a character has a meaning of its own in patterns. -/
def isMeta (c : Char) : Bool := "\\.+*?()|[]\x7b\x7d^$#&-~".toList.contains c

/-- Whether a backslash before the character makes it stand for itself. -/
def isEscapable (c : Char) : Bool :=
  isMeta c || (c.toNat < 0x80 && !c.isAlphanum && c != '<' && c != '>')

/-- The value of a hexadecimal digit. -/
def hexDigit? (c : Char) : Option Nat :=
  if c.isDigit then some (c.toNat - 0x30)
  else if 'a' ≤ c ∧ c ≤ 'f' then some (c.toNat - 0x61 + 10)
  else if 'A' ≤ c ∧ c ≤ 'F' then some (c.toNat - 0x41 + 10)
  else none

/-- The number written by hexadecimal digits. -/
def hexNumber (digits : List Char) : Nat :=
  digits.foldl (fun n c => 16 * n + (hexDigit? c).getD 0) 0

/-- The character with this code point. -/
def charOfCode? (n : Nat) : Option Char :=
  if n < 0xD800 ∨ (0xDFFF < n ∧ n < 0x110000) then some (Char.ofNat n) else none

/-- Exactly `count` hexadecimal digits. -/
def readHexDigits (spaced : Bool) : (count : Nat) → List Char → Option (List Char × List Char)
  | 0, cs => some ([], cs)
  | count + 1, cs =>
    match Spacing.skip spaced cs with
    | [] => none
    | c :: rest =>
      if (hexDigit? c).isNone then none
      else (readHexDigits spaced count rest).map fun r => (c :: r.1, r.2)

/-- A character given by `count` hexadecimal digits, or by any number of them between braces. -/
def readHex (spaced : Bool) (count : Nat) (cs : List Char) : Option (Atom × List Char) := do
  let cs := Spacing.skip spaced cs
  let (digits, rest, braced) ← match cs with
    | '\x7b' :: cs =>
      let (digits, rest) := Spacing.gather spaced (fun c => (hexDigit? c).isSome) false cs
      match digits, rest with
      | _ :: _, '\x7d' :: rest => some (digits, rest, true)
      | _, _ => none
    | _ => (readHexDigits spaced count cs).map fun (digits, rest) => (digits, rest, false)
  let c ← charOfCode? (hexNumber digits)
  some (.char c (!braced && count == 2), rest)

/-- The text before and behind the first place where `sep` stands. -/
def cutAt? (sep : List Char) : List Char → Option (List Char × List Char)
  | [] => none
  | c :: cs =>
    if sep.isPrefixOf (c :: cs) then some ([], (c :: cs).drop sep.length)
    else (cutAt? sep cs).map fun r => (c :: r.1, r.2)

/-- The property that a name, or a name and a value, stand for. -/
def propertyOf? (text : List Char) : Option Property :=
  match cutAt? ['!', '='] text with
  | some (name, value) => Property.valued? name value
  | none =>
    match cutAt? [':'] text with
    | some (name, value) => Property.valued? name value
    | none =>
      match cutAt? ['='] text with
      | some (name, value) => Property.valued? name value
      | none => Property.named? text

/-- The class of a property, named by a single letter or between braces. -/
def readProperty (f : Flags) (negated : Bool) (cs : List Char) : Option (Atom × List Char) := do
  let (name, rest) ← match Spacing.skip f.spaced cs with
    | '\x7b' :: cs =>
      match Spacing.gather f.spaced (· != '\x7d') false cs with
      | (name, '\x7d' :: rest) => some (name, rest)
      | _ => none
    | '\\' :: _ => none
    | c :: rest => some ([c], rest)
    | [] => none
  if !f.unicode then none
  else do
    let p ← propertyOf? name
    let s ← f.negate? negated (f.fold (.property p))
    some (.set s, rest)

/-- The edge of a word that a name between braces stands for. -/
def wordEdge? (name : List Char) : Option WordEdge :=
  [("start", WordEdge.start), ("end", .finish), ("start-half", .startHalf),
    ("end-half", .finishHalf)].lookup (String.ofList name)

/-- The edge of a word, behind its letter.  Braces may name the kind of edge; braces around anything
that is not a name belong to what follows. -/
def readWordEdge (f : Flags) (cs : List Char) : Option (Atom × List Char) :=
  let plain := some (Atom.anchor (.word .boundary f.unicode), cs)
  match cs with
  | '\x7b' :: inner =>
    let isNameChar (c : Char) : Bool := c.isAlpha || c == '-'
    match Spacing.skip f.spaced inner with
    | [] => none
    | c :: more =>
      if !isNameChar c then plain
      else
        match Spacing.gather f.spaced isNameChar false (c :: more) with
        | (name, '\x7d' :: rest) =>
          (wordEdge? name).map fun edge => (.anchor (.word edge f.unicode), rest)
        | _ => none
  | _ => plain

/-- Control characters that have a letter. -/
def controls : List (Char × Char) :=
  [('a', '\x07'), ('f', '\x0c'), ('t', '\t'), ('n', '\n'), ('r', '\r'), ('v', '\x0b')]

/-- Anchors that have a letter or a sign. -/
def escapedAnchor? (f : Flags) (c : Char) : Option Anchor :=
  match c with
  | 'A' => some .textStart
  | 'z' => some .textEnd
  | 'B' => some (.word .inside f.unicode)
  | '<' => some (.word .start f.unicode)
  | '>' => some (.word .finish f.unicode)
  | _ => none

/-- What stands behind a backslash. -/
def readEscape (f : Flags) : List Char → Option (Atom × List Char)
  | [] => none
  | c :: cs =>
    if c = 'x' then readHex f.spaced 2 cs
    else if c = 'u' then readHex f.spaced 4 cs
    else if c = 'U' then readHex f.spaced 8 cs
    else if c = 'p' ∨ c = 'P' then readProperty f (c == 'P') cs
    else if c = 'd' ∨ c = 's' ∨ c = 'w' then some (.set (letterClass f c), cs)
    else if c = 'D' ∨ c = 'S' ∨ c = 'W' then
      (f.negate? true (letterClass f c.toLower)).map fun s => (.set s, cs)
    else if isEscapable c then some (.char c false, cs)
    else if c = 'b' then readWordEdge f cs
    else
      match controls.lookup c, escapedAnchor? f c with
      | some control, _ => some (.char control false, cs)
      | none, some a => some (.anchor a, cs)
      | none, none => none

end ListingQuery.Regex
