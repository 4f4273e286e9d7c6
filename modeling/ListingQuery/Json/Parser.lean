import ListingQuery.Json.Wire
import ListingQuery.Decimal.Reading

/-!
# Reading JSON text

The text is cut into tokens, and a stack of open containers turns the tokens into a `Wire`.  Neither
step fails: the tokens end at the first character that belongs to none, and the stack is closed at
the first token that does not fit, so every fault keeps its place in reading order.

A whole number that fits 64 bits is read exactly.  Any other number is read as a double: its digits
are gathered into an unsigned 64-bit word as long as they fit, and the word, rounded to a double, is
scaled by a power of ten.
-/

namespace ListingQuery

namespace Json

/-- The tokens of JSON text. -/
inductive Token where
  | openArray
  | closeArray
  | openObject
  | closeObject
  | comma
  | colon
  | null
  | bool (b : Bool)
  /-- A number; `none` is beyond the doubles. -/
  | number (n : Option Number)
  /-- A string; `none` holds half a surrogate pair. -/
  | string (s : Option String)
  /-- The text does not go on with a token. -/
  | bad

/-! ## Strings -/

/-- What one step through a string yields: a character, or a code unit written in hexadecimal. -/
inductive StringPiece where
  | char (c : Char)
  | unit (n : Nat)

/-- The value of a hexadecimal digit. -/
def hexDigit? (c : Char) : Option Nat :=
  if c.isDigit then some (c.toNat - 0x30)
  else if 'a' ≤ c ∧ c ≤ 'f' then some (c.toNat - 0x61 + 10)
  else if 'A' ≤ c ∧ c ≤ 'F' then some (c.toNat - 0x41 + 10)
  else none

/-- The number written by a run of hexadecimal digits. -/
def hex? (cs : List Char) : Option Nat :=
  cs.foldl (fun n? c => do
    let n ← n?
    let d ← hexDigit? c
    some (16 * n + d)) (some 0)

/-- The character that a one-letter escape stands for. -/
def escaped? (c : Char) : Option Char :=
  if c = '"' ∨ c = '\\' ∨ c = '/' then some c
  else if c = 'b' then some '\x08'
  else if c = 'f' then some '\x0c'
  else if c = 'n' then some '\n'
  else if c = 'r' then some '\r'
  else if c = 't' then some '\t'
  else none

/-- The pieces of a string up to its closing quote, and the text behind it. -/
def stringPieces? : List Char → Option (List StringPiece × List Char)
  | [] => none
  | '"' :: rest => some ([], rest)
  | '\\' :: 'u' :: a :: b :: c :: d :: rest => do
    let n ← hex? [a, b, c, d]
    let (ps, rest) ← stringPieces? rest
    some (.unit n :: ps, rest)
  | '\\' :: e :: rest => do
    let c ← escaped? e
    let (ps, rest) ← stringPieces? rest
    some (.char c :: ps, rest)
  | c :: rest =>
    if c = '\\' ∨ c.toNat < 0x20 then none
    else do
      let (ps, rest) ← stringPieces? rest
      some (.char c :: ps, rest)

/-- The characters of pieces; a code unit of a surrogate pair must stand beside its other half. -/
def charsOfPieces? : List StringPiece → Option (List Char)
  | [] => some []
  | .char c :: ps => (charsOfPieces? ps).map (c :: ·)
  | .unit n :: .unit m :: ps =>
    if 0xD800 ≤ n ∧ n < 0xDC00 then
      if 0xDC00 ≤ m ∧ m < 0xE000 then
        (charsOfPieces? ps).map
          (Char.ofNat (0x10000 + (n - 0xD800) * 0x400 + (m - 0xDC00)) :: ·)
      else none
    else if 0xDC00 ≤ n ∧ n < 0xE000 then none
    else (charsOfPieces? (.unit m :: ps)).map (Char.ofNat n :: ·)
  | .unit n :: ps =>
    if 0xD800 ≤ n ∧ n < 0xE000 then none
    else (charsOfPieces? ps).map (Char.ofNat n :: ·)

/-! ## Numbers -/

/-- Digits gathered into a word, and the power of ten that is still to be applied. -/
structure Gathered where
  word : Nat
  exponent : Int
  /-- A digit no longer fitted. -/
  full : Bool

/-- Gather digits while they fit 64 bits.  A digit taken moves the exponent by `taken`, and one
dropped by `dropped`. -/
def gather (taken dropped : Int) (g : Gathered) (digits : List Char) : Gathered :=
  digits.foldl (fun g c =>
    let word := 10 * g.word + Decimal.digitValue c
    if g.full || Nat.pow 2 64 ≤ word then ⟨g.word, g.exponent + dropped, true⟩
    else ⟨word, g.exponent + taken, false⟩) g

/-- `word · 10^exponent` as a double: the word is rounded first, then multiplied or divided by a
power of ten of at most `10^308` at a time; `none` if the result is infinite. -/
def scale? (word : Nat) (exponent : Int) : Option Float :=
  let start := Float.ofNat word
  if 0 ≤ exponent then
    if exponent ≤ 308 then
      let x := start * Float.ofScientific 1 false exponent.toNat
      if x.isInf then none else some x
    else if word = 0 then some start else none
  else
    let below := (-exponent).toNat
    let steps := min ((below - 1) / 308) 3
    let x := steps.repeat (fun x => x / 1e308) start
    some (x / Float.ofScientific 1 false (min (below - 308 * steps) 308))

/-- The number with these parts: sign, whole digits, digits behind the point, exponent. -/
def numberOfParts? (negative : Bool) (whole fraction : List Char) (exponent : Option Int) :
    Option Number :=
  let n := Decimal.natOfDigits whole
  let signed : Int := if negative then -n else n
  if fraction.isEmpty && exponent.isNone && !(negative && n == 0)
      && (isInt64 signed || isUInt64 signed) then
    some (.int signed)
  else
    let g := gather 0 1 ⟨0, 0, false⟩ whole
    let g := gather (-1) 0 ⟨g.word, g.exponent, false⟩ fraction
    (scale? g.word (g.exponent + exponent.getD 0)).map fun x =>
      .float (if negative then -x else x)

/-- Cut the digits behind a point off; the point needs at least one. -/
def fraction? : List Char → Option (List Char × List Char)
  | '.' :: rest =>
    let digits := rest.takeWhile Char.isDigit
    if digits.isEmpty then none else some (digits, rest.dropWhile Char.isDigit)
  | rest => some ([], rest)

/-- Cut an exponent off, if there is one; it needs at least one digit. -/
def exponentPart? : List Char → Option (Option Int × List Char)
  | [] => some (none, [])
  | c :: rest =>
    if c = 'e' ∨ c = 'E' then
      let (negative, rest) := Decimal.cutSign rest
      let digits := rest.takeWhile Char.isDigit
      if digits.isEmpty then none
      else
        let n : Int := Decimal.natOfDigits digits
        some (some (if negative then -n else n), rest.dropWhile Char.isDigit)
    else some (none, c :: rest)

/-- A number at the start of the text, and the text behind it. -/
def number? (text : List Char) : Option (Option Number × List Char) := do
  let (negative, rest) := match text with
    | '-' :: rest => (true, rest)
    | rest => (false, rest)
  let whole := rest.takeWhile Char.isDigit
  if whole.isEmpty || (whole.head? == some '0' && whole.length != 1) then none
  else
    let (fraction, rest) ← fraction? (rest.dropWhile Char.isDigit)
    let (exponent, rest) ← exponentPart? rest
    some (numberOfParts? negative whole fraction exponent, rest)

/-! ## Tokens -/

/-- The blanks between tokens. -/
def isBlank (c : Char) : Bool := c = ' ' || c = '\n' || c = '\r' || c = '\t'

/-- The word `word` at the start of the text, cut off. -/
def cutWord? (word text : List Char) : Option (List Char) :=
  if word.isPrefixOf text then some (text.drop word.length) else none

/-- The first token and the text behind it; the text does not start with a blank. -/
def token? : List Char → Option (Token × List Char)
  | [] => none
  | '[' :: rest => some (.openArray, rest)
  | ']' :: rest => some (.closeArray, rest)
  | '\x7b' :: rest => some (.openObject, rest)
  | '\x7d' :: rest => some (.closeObject, rest)
  | ',' :: rest => some (.comma, rest)
  | ':' :: rest => some (.colon, rest)
  | '"' :: rest => do
    let (ps, rest) ← stringPieces? rest
    some (.string ((charsOfPieces? ps).map String.ofList), rest)
  | 'n' :: rest => (cutWord? ['u', 'l', 'l'] rest).map (.null, ·)
  | 't' :: rest => (cutWord? ['r', 'u', 'e'] rest).map (.bool true, ·)
  | 'f' :: rest => (cutWord? ['a', 'l', 's', 'e'] rest).map (.bool false, ·)
  | text => (number? text).map fun (n, rest) => (.number n, rest)

/-- The tokens of a text, ended by `bad` where the text does not go on with one.  Every token takes
at least one character, so the length of the text is fuel enough. -/
def tokensWithin : (fuel : Nat) → List Char → List Token
  | 0, _ => []
  | fuel + 1, text =>
    match text.dropWhile isBlank with
    | [] => []
    | text =>
      match token? text with
      | none => [.bad]
      | some (t, rest) => t :: tokensWithin fuel rest

/-- The tokens of a text. -/
def tokens (text : List Char) : List Token := tokensWithin text.length text

/-! ## Containers -/

/-- A container that is still open, its contents in reverse. -/
inductive Frame where
  | array (items : List Wire)
  | object (members : List (Option String × Wire))

/-- What the next token may be. -/
inductive Expect where
  | value
  /-- The first item of an array, or its end. -/
  | itemOrEnd
  /-- The first key of an object, or its end. -/
  | keyOrEnd
  | key
  /-- The colon behind this key. -/
  | colon (key : Option String)
  /-- The value of this key. -/
  | member (key : Option String)
  /-- A comma, or the end of the innermost container. -/
  | more
  /-- The outermost value is complete. -/
  | nothing

/-- How many containers may stand inside each other. -/
def depthLimit : Nat := 127

/-- Close a container of the given depth. -/
def Frame.close (depth : Nat) (closed : Bool) : Frame → Wire
  | .array items =>
    if depth ≤ depthLimit then .array items.reverse closed
    else if closed then .unreadable else .broken
  | .object members =>
    if depth ≤ depthLimit then .object members.reverse closed
    else if closed then .unreadable else .broken

/-- Put a value into a container; `pending` is the key it belongs to. -/
def Frame.add (pending : Option String) (w : Wire) : Frame → Frame
  | .array items => .array (w :: items)
  | .object members => .object ((pending, w) :: members)

/-- An open container, and the key under which it will be stored in the container around it. -/
structure Opened where
  frame : Frame
  key : Option String

/-- How far the reading of a text has come. -/
structure Reading where
  /-- The open containers, innermost first. -/
  stack : List Opened
  expect : Expect
  /-- The outermost value, once it is complete. -/
  top : Wire

/-- Put a complete value where it belongs: under `key` into the innermost container, or at the
top. -/
def storeValue (stack : List Opened) (key : Option String) (w : Wire) : Reading :=
  match stack with
  | [] => ⟨[], .nothing, w⟩
  | o :: outer => ⟨⟨o.frame.add key w, o.key⟩ :: outer, .more, .broken⟩

/-- Close the innermost container. -/
def closeInnermost : List Opened → Option Reading
  | [] => none
  | o :: outer => some (storeValue outer o.key (o.frame.close (outer.length + 1) true))

/-- Whether the innermost container is an array. -/
def isInArray : List Opened → Bool
  | ⟨.array _, _⟩ :: _ => true
  | _ => false

/-- Read a token where a value may stand; `key` is the key it belongs to. -/
def startValue (t : Token) (stack : List Opened) (key : Option String) : Option Reading :=
  match t with
  | .openArray => some ⟨⟨.array [], key⟩ :: stack, .itemOrEnd, .broken⟩
  | .openObject => some ⟨⟨.object [], key⟩ :: stack, .keyOrEnd, .broken⟩
  | .null => some (storeValue stack key .null)
  | .bool b => some (storeValue stack key (.bool b))
  | .number (some n) => some (storeValue stack key (.number n))
  | .number none => some (storeValue stack key .unreadable)
  | .string (some s) => some (storeValue stack key (.string s))
  | .string none => some (storeValue stack key .unreadable)
  | _ => none

/-- Read one token; `none` if it does not fit. -/
def Reading.step (r : Reading) (t : Token) : Option Reading :=
  match r.expect, t with
  | .itemOrEnd, .closeArray => closeInnermost r.stack
  | .keyOrEnd, .closeObject => closeInnermost r.stack
  | .more, .closeArray => if isInArray r.stack then closeInnermost r.stack else none
  | .more, .closeObject => if isInArray r.stack then none else closeInnermost r.stack
  | .more, .comma => some { r with expect := if isInArray r.stack then .value else .key }
  | .keyOrEnd, .string s => some { r with expect := .colon s }
  | .key, .string s => some { r with expect := .colon s }
  | .colon key, .colon => some { r with expect := .member key }
  | .value, t => startValue t r.stack none
  | .itemOrEnd, t => startValue t r.stack none
  | .member key, t => startValue t r.stack key
  | _, _ => none

/-- Close all containers as unfinished, from the inside out. -/
def closeUnfinished : List Opened → Option String → Wire → Wire
  | [], _, w => w
  | o :: outer, key, w =>
    closeUnfinished outer o.key ((o.frame.add key w).close (outer.length + 1) false)

/-- What was read when the text cannot go on. -/
def Reading.abandon (r : Reading) : Wire :=
  match r.expect, r.stack with
  | .nothing, _ => r.top
  | _, [] => .broken
  | .colon key, stack => closeUnfinished stack key .broken
  | .member key, stack => closeUnfinished stack key .broken
  | _, o :: outer => closeUnfinished outer o.key (o.frame.close (outer.length + 1) false)

/-- Read all tokens; the result says whether they make up exactly one value. -/
def Reading.run : Reading → List Token → Wire × Bool
  | r, [] =>
    match r.expect with
    | .nothing => (r.top, true)
    | _ => (r.abandon, false)
  | r, t :: ts =>
    match r.step t with
    | some r => r.run ts
    | none => (r.abandon, false)

/-- The value at the start of a text, and whether it makes up the whole text. -/
def wireOfText (text : String) : Wire × Bool :=
  Reading.run ⟨[], .value, .broken⟩ (tokens text.toList)

/-- Read a text as one value. -/
def readText {α : Type} (read : Wire → Except WireFault α) (text : String) : Except WireFault α := do
  let (w, complete) := wireOfText text
  let a ← read w
  if complete then .ok a else .error .malformed

/-- The value that a text stands for. -/
def ofText? (text : String) : Option Json := (readText Wire.readValue text).toOption

end Json

end ListingQuery
