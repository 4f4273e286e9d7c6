import ListingQuery.Yaml.Lexer

/-!
# From tokens to nodes

A document is a tree of scalars, sequences and mappings.  An alias stands for the node that bore its
anchor last.  A text is read only if it holds exactly one document.
-/

namespace ListingQuery.Yaml

/-- A node of a document. -/
inductive Node where
  /-- A scalar as it is written; the tag is empty if there is none. -/
  | scalar (text : String) (style : Style) (tag : List Char)
  | sequence (items : List Node)
  | mapping (entries : List (Node × Node))
  /-- An alias inside the node that it stands for. -/
  | cyclic

namespace Node

/-- What is left out: an empty plain scalar. -/
def absent : Node := scalar "" .plain []

end Node

/-- How far the tokens have been read. -/
structure NodeReader where
  tokens : List Token
  /-- What tag handles stand for. -/
  handles : List (List Char × List Char)
  /-- The nodes that bear anchors, the last first. -/
  anchors : List (List Char × Node) := []

/-- A step that reads some tokens or fails. -/
abbrev Reads (α : Type) := StateT NodeReader Option α

namespace Reads

/-! ## Steps -/

/-- The next token. -/
def peek : Reads (Option Token) := do
  let r ← get
  pure r.tokens.head?

/-- Go past the next token. -/
def skip : Reads Unit := modify fun r => { r with tokens := r.tokens.drop 1 }

/-- Go past the next token if it is this one. -/
def skipIf (t : Token) : Reads Bool := do
  if (← peek) = some t then
    skip
    pure true
  else pure false

/-- The next token must be this one. -/
def expect (t : Token) : Reads Unit := do
  if !(← skipIf t) then failure

/-- Whether one of these tokens, or the end, comes next. -/
def isAt (ts : List Token) : Reads Bool := do
  match ← peek with
  | none => pure true
  | some t => pure (ts.contains t)

/-- The full form of a tag. -/
def fullTag (handle suffix : List Char) : Reads (List Char) := do
  if handle.isEmpty then pure suffix
  else
    match (← get).handles.lookup handle with
    | some base => pure (base ++ suffix)
    | none => failure

/-- The anchor that comes next, if there is one. -/
def anchor? : Reads (Option (List Char)) := do
  match ← peek with
  | some (.anchor name) => skip; pure (some name)
  | _ => pure none

/-- The tag that comes next, if there is one. -/
def tag? : Reads (Option (List Char)) := do
  match ← peek with
  | some (.tag handle suffix) => skip; some <$> fullTag handle suffix
  | _ => pure none

/-- An anchor and a tag, in any order. -/
def properties : Reads (Option (List Char) × Option (List Char)) := do
  match ← anchor? with
  | some name => pure (some name, ← tag?)
  | none =>
    match ← tag? with
    | some tag => pure (← anchor?, some tag)
    | none => pure (none, none)

/-- The node that bears an anchor. -/
def lookUp (name : List Char) : Reads Node := do
  match (← get).anchors.lookup name with
  | some n => pure n
  | none => failure

/-- Let a node bear an anchor. -/
def bind (name? : Option (List Char)) (n : Node) : Reads Unit := do
  match name? with
  | some name => modify fun r => { r with anchors := (name, n) :: r.anchors }
  | none => pure ()

/-! ## Nodes -/

mutual

/-- A node.  `inBlock` says whether block collections may start here, `inMapping` whether the items of
a sequence may stand here without a token for its start. -/
def node : (fuel : Nat) → (inBlock inMapping : Bool) → Reads Node
  | 0, _, _ => failure
  | fuel + 1, inBlock, inMapping => do
    match ← peek with
    | some (.alias name) =>
      skip
      lookUp name
    | _ =>
      let (anchor?, tag?) ← properties
      bind anchor? .cyclic
      let n ← content fuel inBlock inMapping (anchor?.isSome || tag?.isSome) (tag?.getD [])
      bind anchor? n
      pure n

/-- A node behind its properties; if it has any, it may be left out. -/
def content : (fuel : Nat) → (inBlock inMapping hasProperties : Bool) → (tag : List Char) →
    Reads Node
  | 0, _, _, _, _ => failure
  | fuel + 1, inBlock, inMapping, hasProperties, tag => do
    match ← peek with
    | some (.scalar text style) =>
      skip
      pure (.scalar text style tag)
    | some .flowSequenceStart =>
      skip
      .sequence <$> flowItems fuel true
    | some .flowMappingStart =>
      skip
      .mapping <$> flowEntries fuel true
    | t =>
      if inMapping ∧ t = some .blockEntry then .sequence <$> looseItems fuel
      else if inBlock ∧ t = some .blockSequenceStart then
        skip
        .sequence <$> blockItems fuel
      else if inBlock ∧ t = some .blockMappingStart then
        skip
        .mapping <$> blockEntries fuel
      else if hasProperties then pure (.scalar "" .plain tag)
      else failure

/-- A node, or nothing where one of these tokens comes next. -/
def nodeUnless : (fuel : Nat) → (ends : List Token) → (inBlock inMapping : Bool) → Reads Node
  | 0, _, _, _ => failure
  | fuel + 1, ends, inBlock, inMapping => do
    if ← isAt ends then pure .absent else node fuel inBlock inMapping

/-- The items of a block sequence, up to its end. -/
def blockItems : (fuel : Nat) → Reads (List Node)
  | 0 => failure
  | fuel + 1 => do
    if ← skipIf .blockEntry then
      let n ← nodeUnless fuel [.blockEntry, .blockEnd] true false
      let ns ← blockItems fuel
      pure (n :: ns)
    else
      expect .blockEnd
      pure []

/-- The items of a sequence that stand at the column of the mapping around it. -/
def looseItems : (fuel : Nat) → Reads (List Node)
  | 0 => failure
  | fuel + 1 => do
    if ← skipIf .blockEntry then
      let n ← nodeUnless fuel [.blockEntry, .key, .value, .blockEnd] true false
      let ns ← looseItems fuel
      pure (n :: ns)
    else pure []

/-- The entries of a block mapping, up to its end. -/
def blockEntries : (fuel : Nat) → Reads (List (Node × Node))
  | 0 => failure
  | fuel + 1 => do
    if ← skipIf .key then
      let k ← nodeUnless fuel [.key, .value, .blockEnd] true true
      let v ← if ← skipIf .value then nodeUnless fuel [.key, .value, .blockEnd] true true
        else pure .absent
      let es ← blockEntries fuel
      pure ((k, v) :: es)
    else
      expect .blockEnd
      pure []

/-- The items of a sequence in brackets, up to its end. -/
def flowItems : (fuel : Nat) → (isFirst : Bool) → Reads (List Node)
  | 0, _ => failure
  | fuel + 1, isFirst => do
    if ← skipIf .flowSequenceEnd then pure []
    else
      if !isFirst then expect .flowEntry
      if ← skipIf .flowSequenceEnd then pure []
      else
        let n ← if ← skipIf .key then pairItem fuel else node fuel false false
        let ns ← flowItems fuel false
        pure (n :: ns)

/-- A mapping of one entry as an item of a sequence in brackets, behind the mark of its key. -/
def pairItem : (fuel : Nat) → Reads Node
  | 0 => failure
  | fuel + 1 => do
    let isKeyless ← isAt [.value, .flowEntry, .flowSequenceEnd]
    let k ← if isKeyless then skip; pure .absent else node fuel false false
    let v ← if ← skipIf .value then nodeUnless fuel [.flowEntry, .flowSequenceEnd] false false
      else pure .absent
    pure (.mapping [(k, v)])

/-- The entries of a mapping in brackets, up to its end. -/
def flowEntries : (fuel : Nat) → (isFirst : Bool) → Reads (List (Node × Node))
  | 0, _ => failure
  | fuel + 1, isFirst => do
    if ← skipIf .flowMappingEnd then pure []
    else
      if !isFirst then expect .flowEntry
      if ← skipIf .flowMappingEnd then pure []
      else
        let e ← if ← skipIf .key then do
            let k ← nodeUnless fuel [.value, .flowEntry, .flowMappingEnd] false false
            let v ← if ← skipIf .value then
                nodeUnless fuel [.flowEntry, .flowMappingEnd] false false
              else pure .absent
            pure (k, v)
          else do
            let k ← node fuel false false
            pure (k, .absent)
        let es ← flowEntries fuel false
        pure (e :: es)

end

/-! ## Documents -/

/-- Whether a token is a directive. -/
def isDirective : Token → Bool
  | .version _ _ => true
  | .tagHandle _ _ => true
  | _ => false

/-- What the directives before a document make of tag handles; a handle is given once, and so is the
version, which is 1.1 or 1.2. -/
def handlesOf : (versionSeen : Bool) → List Token → Option (List (List Char × List Char))
  | _, [] => some []
  | versionSeen, .version major minor :: ts =>
    if versionSeen || major != 1 || !(minor == 1 || minor == 2) then none else handlesOf true ts
  | versionSeen, .tagHandle handle base :: ts => do
    let handles ← handlesOf versionSeen ts
    if (handles.lookup handle).isSome then none else some ((handle, base) :: handles)
  | _, _ :: _ => none

/-- What tag handles stand for where no directive says so. -/
def standardHandles : List (List Char × List Char) :=
  [(['!'], ['!']), (['!', '!'], "tag:yaml.org,2002:".toList)]

/-- The root of a document. -/
def root (fuel : Nat) : Reads Node := do
  match ← peek with
  | none => failure
  | some t =>
    if t = .documentStart then
      skip
      if (← isAt [.documentStart, .documentEnd]) || (← peek).any isDirective then pure .absent
      else node fuel true false
    else node fuel true false

end Reads

/-! ## Algorithm -/

/-- The only document of a row of tokens. -/
def Node.ofTokens? (ts : List Token) : Option Node := do
  let directives := ts.takeWhile Reads.isDirective
  let ts := ts.drop directives.length
  if !directives.isEmpty && ts.head? != some .documentStart then none
  else do
    let handles ← Reads.handlesOf false directives
    let (n, r) ← (Reads.root (4 * ts.length + 4)).run
      { tokens := ts, handles := handles ++ Reads.standardHandles }
    if r.tokens.all (· == .documentEnd) then some n else none

/-- The only document of a text. -/
def Node.ofText? (text : String) : Option Node := do
  let ts ← tokens? text
  Node.ofTokens? ts

end ListingQuery.Yaml
