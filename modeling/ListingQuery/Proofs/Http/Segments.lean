import Mathlib.Data.List.TakeWhile
import ListingQuery.Http.Routes
import ListingQuery.Proofs.Shape.Dotted

/-!
# Paths to collections

Every name but the empty one can stand in a path: written with a percent sign and two digits for each
byte, it has no slash and no question mark, and it is read back.  So for every such name there is a
path that leads to each question about the collection, unless a fixed page lies there.

    decodeSegment? (encodeSegment name) = some name                   (decodeSegment?_encodeSegment)
-/

namespace ListingQuery.Http

/-! ## Algorithm -/

/-- The hexadecimal digit of a value below 16. -/
def hexDigit (n : Nat) : Char := Char.ofNat (if n < 10 then 0x30 + n else 0x41 + n - 10)

/-- A byte in a segment. -/
def escapedByte (b : UInt8) : List Char := ['%', hexDigit (b.toNat / 16), hexDigit (b.toNat % 16)]

/-- A segment that stands for a text. -/
def encodeSegment (name : String) : String :=
  String.ofList (name.toUTF8.data.toList.flatMap escapedByte)

/-- The last segment of the path to a question. -/
def Question.word : Question → String
  | query => "query"
  | count => "count"

/-! ## Segments -/

theorem hexValue?_hexDigit {n : Nat} (h : n < 16) : hexValue? (hexDigit n) = some n := by
  have key : ∀ i : Fin 16, hexValue? (hexDigit i) = some i.val := by decide
  exact key ⟨n, h⟩

theorem hexDigit_ne {n : Nat} (h : n < 16) : hexDigit n ≠ '/' ∧ hexDigit n ≠ '?' := by
  have key : ∀ i : Fin 16, hexDigit i ≠ '/' ∧ hexDigit i ≠ '?' := by decide
  exact key ⟨n, h⟩

theorem segmentBytes_escapedByte (b : UInt8) (rest : List Char) :
    segmentBytes (escapedByte b ++ rest) = b :: segmentBytes rest := by
  have hb : b.toNat < 256 := b.toNat_lt
  have hbyte : hexByte? (hexDigit (b.toNat / 16)) (hexDigit (b.toNat % 16)) = some b := by
    rw [hexByte?, hexValue?_hexDigit (by omega), hexValue?_hexDigit (by omega)]
    show some (UInt8.ofNat (16 * (b.toNat / 16) + b.toNat % 16)) = some b
    rw [Nat.div_add_mod, UInt8.ofNat_toNat]
  show segmentBytes ('%' :: hexDigit (b.toNat / 16) :: hexDigit (b.toNat % 16) :: rest) = _
  rw [segmentBytes, hbyte]

theorem segmentBytes_escaped (bytes : List UInt8) :
    segmentBytes (bytes.flatMap escapedByte) = bytes := by
  induction bytes with
  | nil => rfl
  | cons b bytes ih => rw [List.flatMap_cons, segmentBytes_escapedByte, ih]

theorem decodeSegment?_encodeSegment (name : String) :
    decodeSegment? (encodeSegment name) = some name := by
  rw [decodeSegment?, encodeSegment, String.toList_ofList, segmentBytes_escaped,
    Array.toArray_toList]
  exact dif_pos name.isValidUTF8

/-- No separator of paths stands in a segment. -/
theorem not_mem_encodeSegment (name : String) :
    '/' ∉ (encodeSegment name).toList ∧ '?' ∉ (encodeSegment name).toList := by
  have key : ∀ c ∈ (encodeSegment name).toList, c ≠ '/' ∧ c ≠ '?' := by
    intro c hc
    rw [encodeSegment, String.toList_ofList] at hc
    obtain ⟨b, -, hc⟩ := List.mem_flatMap.1 hc
    have hb : b.toNat < 256 := b.toNat_lt
    simp only [escapedByte, List.mem_cons, List.not_mem_nil, or_false] at hc
    rcases hc with rfl | rfl | rfl
    · decide
    · exact hexDigit_ne (by omega)
    · exact hexDigit_ne (by omega)
  exact ⟨fun h => (key _ h).1 rfl, fun h => (key _ h).2 rfl⟩

theorem encodeSegment_ne_empty {name : String} (h : name ≠ "") : encodeSegment name ≠ "" := by
  intro hempty
  have hdecode := decodeSegment?_encodeSegment name
  rw [hempty] at hdecode
  have hnone : decodeSegment? "" = some "" := by decide
  rw [hnone] at hdecode
  exact h (Option.some.inj hdecode).symm

/-! ## Routes -/

variable {m : Type → Type}

/-- The path to a question about the collection that a segment stands for. -/
def questionPath (segment : String) (question : Question) : String :=
  "/" ++ segment ++ "/" ++ question.word

theorem toList_questionPath (segment : String) (question : Question) :
    (questionPath segment question).toList =
      '/' :: (segment.toList ++ '/' :: question.word.toList) := by
  simp [questionPath]

theorem word_ne (question : Question) :
    '/' ∉ question.word.toList ∧ '?' ∉ question.word.toList := by
  cases question <;> decide

theorem pathOf_questionPath {segment : String} (h : '?' ∉ segment.toList) (question : Question) :
    pathOf (questionPath segment question) = questionPath segment question := by
  have hall : ∀ c ∈ (questionPath segment question).toList, (c != '?') = true := by
    intro c hc
    rw [bne_iff_ne]
    rintro rfl
    rw [toList_questionPath] at hc
    simp [h, (word_ne question).2] at hc
  rw [pathOf, List.takeWhile_eq_self_iff.2 hall, String.ofList_toList]

theorem segmentsOf_questionPath {segment : String} (h : '/' ∉ segment.toList)
    (question : Question) :
    segmentsOf (questionPath segment question) = [segment, question.word] := by
  rw [segmentsOf, Text.split, toList_questionPath, Text.splitOn, if_pos rfl, Text.splitOn_append h,
    Text.splitOn_eq_singleton (word_ne question).1]
  simp

/-- Where no page lies, a path of a segment and a question leads to the question. -/
theorem route?_questionPath (s : Server m) {segment : String} (hne : segment ≠ "")
    (hslash : '/' ∉ segment.toList) (question : Question)
    (hpage : Keyed.get? s.pages (questionPath segment question) = none) :
    s.route? (questionPath segment question) = some (.collection segment question) := by
  -- the fixed pages have paths of one segment
  have hfixed (path : String) (hcount : path.toList.count '/' = 1) :
      path ≠ questionPath segment question := by
    rintro rfl
    rw [toList_questionPath, List.count_cons_self, List.count_append, List.count_cons_self] at hcount
    omega
  have hnone : Keyed.get? s.allPages (questionPath segment question) = none := by
    simp only [Server.allPages, List.cons_append, List.nil_append, Keyed.get?]
    rw [if_neg (hfixed _ (by decide)), if_neg (hfixed _ (by decide)), if_neg (hfixed _ (by decide)),
      hpage]
  have hempty : segment.isEmpty = false := by simp [hne]
  rw [Server.route?, hnone, segmentsOf_questionPath hslash]
  cases question <;> simp [hempty, Question.word]

end ListingQuery.Http
