/-!
# Media types

A media type names a type and a subtype, the latter perhaps with a suffix behind a plus sign, and may
have parameters.  Case does not count.  A body is JSON if its subtype or suffix says so.
-/

namespace ListingQuery.Http

/-- A media type without its parameters, in small letters. -/
structure MediaType where
  type : List Char
  subtype : List Char
  suffix? : Option (List Char)
  deriving DecidableEq, Repr

namespace MediaType

/-! ## Parameters -/

/-- Whether the character may stand in a name. -/
def isNameChar (c : Char) : Bool :=
  (c.toNat < 0x80 && c.isAlphanum) || "!#$%&'*+-.^_`|~".toList.contains c

/-- Where the reading of parameters stands. -/
inductive ParameterState where
  /-- At the start of a name, behind a semicolon or a blank. -/
  | start
  | name
  /-- Behind an equals sign. -/
  | valueStart
  | value
  /-- Within quotes; the flag says whether something stands there already. -/
  | quoted (filled : Bool)
  /-- Behind closing quotes. -/
  | done

/-- Whether the text is a list of parameters. -/
def areParameters : ParameterState → List Char → Bool
  | .start, [] => true
  | .name, [] => false
  | .valueStart, [] => true
  | .value, [] => true
  | .quoted _, [] => false
  | .done, [] => true
  | .start, c :: cs =>
    if c = ' ' then areParameters .start cs
    else isNameChar c && areParameters .name cs
  | .name, c :: cs =>
    if c = '=' then areParameters .valueStart cs
    else isNameChar c && areParameters .name cs
  | .valueStart, c :: cs =>
    if c = '"' then areParameters (.quoted false) cs
    else isNameChar c && areParameters .value cs
  | .value, c :: cs =>
    if c = ';' then areParameters .start cs
    else isNameChar c && areParameters .value cs
  | .quoted filled, c :: cs =>
    if c = '"' ∧ filled then areParameters .done cs
    else 0x20 ≤ c.toNat && c.toNat < 0x7F && areParameters (.quoted true) cs
  | .done, c :: cs =>
    if c = ';' then areParameters .start cs
    else c == ' ' && areParameters .done cs

/-! ## Algorithm -/

/-- A subtype, cut at its last plus sign that has something in front. -/
def cutSuffix (subtype : List Char) : List Char × Option (List Char) :=
  let suffix := (subtype.reverse.takeWhile (· != '+')).reverse
  let front := subtype.take (subtype.length - suffix.length - 1)
  if front.isEmpty ∨ suffix.length = subtype.length then (subtype, none) else (front, some suffix)

/-- The media type that a text names. -/
def ofText? (text : String) : Option MediaType :=
  let cs := text.toList
  let type := cs.takeWhile isNameChar
  match cs.drop type.length with
  | '/' :: rest =>
    let subtype := rest.takeWhile isNameChar
    let (main, suffix?) := cutSuffix subtype
    let result := some ⟨type.map Char.toLower, main.map Char.toLower,
      suffix?.map (·.map Char.toLower)⟩
    if type.isEmpty then none
    else
      match rest.drop subtype.length with
      | [] => result
      | ';' :: parameters =>
        if !subtype.isEmpty && areParameters .start parameters then result else none
      | _ => none
  | _ => none

/-- Whether a body of this type is JSON. -/
def isJson (t : MediaType) : Bool :=
  t.type == "application".toList
    && (t.subtype == "json".toList || t.suffix? == some "json".toList)

end MediaType

end ListingQuery.Http
