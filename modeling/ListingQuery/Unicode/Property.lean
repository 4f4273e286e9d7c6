import ListingQuery.Unicode.AgeTable
import ListingQuery.Unicode.BinaryTable
import ListingQuery.Unicode.BreakTable
import ListingQuery.Unicode.CategoryTable
import ListingQuery.Unicode.PropertyName
import ListingQuery.Unicode.ScriptExtensionTable
import ListingQuery.Unicode.ScriptTable

/-!
# Properties of characters

A `Property` is a set of code points that the standard names.  `named?` finds a property by its own
name, `valued?` by the name of a property and one of its values.
-/

namespace ListingQuery.Unicode

/-- A named set of code points. -/
inductive Property where
  /-- Every code point. -/
  | any
  | ascii
  /-- Code points in some general category. -/
  | assigned
  | unassigned
  /-- The members of these general categories. -/
  | category (codes : List String)
  /-- The group of controls, formats, private use and unassigned code points. -/
  | other
  | script (name : String)
  | scriptExtension (name : String)
  | binary (name : String)
  /-- The characters that the standard had in this version. -/
  | age (version : String)
  | graphemeBreak (name : String)
  | wordBreak (name : String)
  | sentenceBreak (name : String)
  deriving DecidableEq, Repr

namespace Property

/-! ## Algorithm -/

/-- Whether the table with this name contains the code point. -/
def inTable (tables : List (String × RangeTable)) (name : String) (n : Nat) : Bool :=
  match tables.lookup name with
  | some t => t.contains n
  | none => false

/-- Whether the code point is in one of the general categories. -/
def inCategory (codes : List String) (n : Nat) : Bool :=
  codes.any fun code => inTable categoryTables code n

/-- Whether the code point is in any general category. -/
def isAssigned (n : Nat) : Bool := categoryTables.any fun t => t.2.contains n

/-- Whether the code point has the property. -/
def holds : Property → Nat → Bool
  | .any, _ => true
  | .ascii, n => n < 0x80
  | .assigned, n => isAssigned n
  | .unassigned, n => !isAssigned n
  | .category codes, n => inCategory codes n
  | .other, n => inCategory ["Cc", "Cf", "Co"] n || !isAssigned n
  | .script name, n => inTable scriptTables name n
  | .scriptExtension name, n =>
    match scriptExtensionTables.lookup name with
    | some t => t.contains n
    | none => inTable scriptTables name n
  | .binary name, n => inTable binaryTables name n
  | .age version, n =>
    let upTo := ageTables.takeWhile fun t => t.1 != version
    upTo.any (fun t => t.2.contains n) || inTable ageTables version n
  | .graphemeBreak name, n => inTable graphemeBreakTables name n
  | .wordBreak name, n => inTable wordBreakTables name n
  | .sentenceBreak name, n => inTable sentenceBreakTables name n

/-- How many ranges the property has, roughly: a measure of the work it makes. -/
def size : Property → Nat
  | .any => 1
  | .ascii => 1
  | .category codes =>
    codes.foldl (fun n code => n + ((categoryTables.lookup code).map (·.size)).getD 0) 0
  | .script name => ((scriptTables.lookup name).map (·.size)).getD 0
  | .scriptExtension name => ((scriptTables.lookup name).map (·.size)).getD 0
  | .binary name => ((binaryTables.lookup name).map (·.size)).getD 0
  | _ => 700

/-- A general category, or one of the sets that stand beside them. -/
def categoryNamed? (loose : String) : Option Property :=
  if loose = "any" then some .any
  else if loose = "assigned" then some .assigned
  else if loose = "ascii" then some .ascii
  else if loose = "c" ∨ loose = "other" then some .other
  else if loose = "cn" ∨ loose = "unassigned" then some .unassigned
  else (categoryNames.lookup loose).map .category

/-- A script. -/
def scriptNamed? (loose : String) : Option Property :=
  (scriptNames.lookup loose).map .script

/-- A version, written as a number or as `v` and its digits. -/
def ageNamed? (loose : String) : Option Property :=
  (ageTables.find? fun t =>
    t.1 == loose || String.ofList ('v' :: t.1.toList.filter (· != '.')) == loose).map (.age ·.1)

/-- The property with this name: a binary property, a general category or a script. -/
def named? (name : List Char) : Option Property :=
  let loose := looseName name
  match binaryNames.lookup loose with
  | some long => some (.binary long)
  | none => (categoryNamed? loose).or (scriptNamed? loose)

/-- The set of characters for which this property has this value. -/
def valued? (name value : List Char) : Option Property :=
  let property := looseName name
  let loose := looseName value
  if property = "gc" ∨ property = "generalcategory" then categoryNamed? loose
  else if property = "sc" ∨ property = "script" then scriptNamed? loose
  else if property = "scx" ∨ property = "scriptextensions" then
    (scriptNames.lookup loose).map .scriptExtension
  else if property = "age" then ageNamed? loose
  else if property = "gcb" ∨ property = "graphemeclusterbreak" then
    (graphemeBreakNames.lookup loose).map .graphemeBreak
  else if property = "wb" ∨ property = "wordbreak" then
    (wordBreakNames.lookup loose).map .wordBreak
  else if property = "sb" ∨ property = "sentencebreak" then
    (sentenceBreakNames.lookup loose).map .sentenceBreak
  else none

end Property

end ListingQuery.Unicode
