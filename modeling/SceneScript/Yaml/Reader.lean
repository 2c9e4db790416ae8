import SceneScript.Yaml.Lexer

/-!
# Reading YAML

A document is read from its tokens by the grammar of nodes. An alias stands for the node with its anchor; since a node is known
only when it has been read, an alias cannot mean a node that it is part of. A text holds one document at most.
-/

namespace SceneScript.Yaml

/-- What is left of the tokens, and the anchored nodes so far with the last one first. -/
structure Reading where
  tokens : List Token
  anchors : List (String × Node)
  deriving Repr

/-- A reader of part of a document. -/
abbrev Reader := StateT Reading (Except Fault)

namespace Reader

/-- The next token. -/
def peek? : Reader (Option Token) := return (← get).tokens.head?

/-- Goes on behind the next token. -/
def advance : Reader Unit := modify fun r => { r with tokens := r.tokens.drop 1 }

/-- Takes the next token if it is the given one. -/
def accept (token : Token) : Reader Bool := do
  if (← peek?) = some token then
    advance
    pure true
  else pure false

/-- Takes the given token, which has to come next. -/
def expect (token : Token) : Reader Unit := do
  if !(← accept token) then throw .unexpectedToken

/-- The anchor in front of a node, over tags, each at most once. Tags have no bearing on what is read, but their handles have to
be declared. -/
def properties (handles : List String) : Reader (Option String × Bool) := do
  let anchor? : Reader (Option String) := do
    match ← peek? with
    | some (.anchor name) =>
      advance
      pure (some name)
    | _ => pure none
  let tag? : Reader Bool := do
    match ← peek? with
    | some (.tag handle) =>
      if handle.any (· ∉ handles) then throw .unknownTagHandle
      advance
      pure true
    | _ => pure false
  match ← anchor? with
  | some name => pure (some name, ← tag?)
  | none => if ← tag? then pure (← anchor?, true) else pure (none, false)

/-- Where a node can start: in a block, in a block where a sequence need not be indented, or in a flow collection. -/
inductive Place where
  | block
  | blockValue
  | flow
  deriving DecidableEq, Repr

mutual

/-- A node. -/
def node (handles : List String) : Nat → Place → Reader Node
  | 0, _ => throw .unexpectedToken
  | rounds + 1, place => do
    if let some (.alias name) ← peek? then
      advance
      match (← get).anchors.lookup name with
      | some node => pure node
      | none => throw .unknownAlias
    else
      let (anchor, tagged) ← properties handles
      let found ← content handles rounds place (anchor.isSome || tagged)
      if let some name := anchor then
        modify fun r => { r with anchors := (name, found) :: r.anchors }
      pure found

/-- A node without what stands in front of it. It may be absent if something does. -/
def content (handles : List String) : Nat → Place → Bool → Reader Node
  | 0, _, _ => throw .unexpectedToken
  | rounds + 1, place, mayBeAbsent => do
    match ← peek? with
    | some (.scalar text style) =>
      advance
      pure (.scalar text style)
    | some .flowSequenceStart =>
      advance
      return .sequence (← flowItems handles rounds true)
    | some .flowMappingStart =>
      advance
      return .mapping (← flowEntries handles rounds true)
    | some .blockSequenceStart =>
      if place = .flow then absentOr mayBeAbsent
      else
        advance
        let items ← blockItems handles rounds [.blockEntry, .blockEnd]
        expect .blockEnd
        pure (.sequence items)
    | some .blockMappingStart =>
      if place = .flow then absentOr mayBeAbsent
      else
        advance
        let entries ← blockEntries handles rounds
        expect .blockEnd
        pure (.mapping entries)
    | some .blockEntry =>
      if place = .blockValue then
        return .sequence (← blockItems handles rounds [.blockEntry, .key, .value, .blockEnd])
      else absentOr mayBeAbsent
    | _ => absentOr mayBeAbsent

/-- The absent node, where there may be none. -/
def absentOr (mayBeAbsent : Bool) : Reader Node :=
  if mayBeAbsent then pure .absent else throw .unexpectedToken

/-- A node, or the absent one if one of the given tokens comes next. -/
def nodeUnless (handles : List String) : Nat → Place → List Token → Reader Node
  | 0, _, _ => throw .unexpectedToken
  | rounds + 1, place, ends => do
    match ← peek? with
    | some token => if token ∈ ends then pure .absent else node handles rounds place
    | none => throw .unexpectedToken

/-- The items behind dashes. -/
def blockItems (handles : List String) : Nat → List Token → Reader (List Node)
  | 0, _ => throw .unexpectedToken
  | rounds + 1, ends => do
    if ← accept .blockEntry then
      let item ← nodeUnless handles rounds .block ends
      return item :: (← blockItems handles rounds ends)
    else pure []

/-- The entries of a block mapping. -/
def blockEntries (handles : List String) : Nat → Reader (List (Node × Node))
  | 0 => throw .unexpectedToken
  | rounds + 1 => do
    if ← accept .key then
      let key ← nodeUnless handles rounds .blockValue [.key, .value, .blockEnd]
      let value ←
        if ← accept .value then nodeUnless handles rounds .blockValue [.key, .value, .blockEnd] else pure .absent
      return (key, value) :: (← blockEntries handles rounds)
    else pure []

/-- The items of a flow sequence. An item can be a single entry of a mapping. -/
def flowItems (handles : List String) : Nat → Bool → Reader (List Node)
  | 0, _ => throw .unexpectedToken
  | rounds + 1, first => do
    if ← accept .flowSequenceEnd then pure []
    else
      if !first then expect .flowEntry
      if ← accept .flowSequenceEnd then pure []
      else if ← accept .key then
        let key ← nodeUnless handles rounds .flow [.value, .flowEntry, .flowSequenceEnd]
        let value ←
          if ← accept .value then nodeUnless handles rounds .flow [.flowEntry, .flowSequenceEnd] else pure .absent
        return .mapping [(key, value)] :: (← flowItems handles rounds false)
      else
        let item ← node handles rounds .flow
        return item :: (← flowItems handles rounds false)

/-- The entries of a flow mapping. -/
def flowEntries (handles : List String) : Nat → Bool → Reader (List (Node × Node))
  | 0, _ => throw .unexpectedToken
  | rounds + 1, first => do
    if ← accept .flowMappingEnd then pure []
    else
      if !first then expect .flowEntry
      if ← accept .flowMappingEnd then pure []
      else if ← accept .key then
        let key ← nodeUnless handles rounds .flow [.value, .flowEntry, .flowMappingEnd]
        let value ←
          if ← accept .value then nodeUnless handles rounds .flow [.flowEntry, .flowMappingEnd] else pure .absent
        return (key, value) :: (← flowEntries handles rounds false)
      else
        let key ← node handles rounds .flow
        return (key, .absent) :: (← flowEntries handles rounds false)

end

/-- The handles that the directives in front of a document declare, besides the two that are always there. -/
def directives : Nat → Bool → List String → Reader (List String)
  | 0, _, handles => pure handles
  | rounds + 1, versioned, handles => do
    match ← peek? with
    | some (.version major minor) =>
      if versioned || major ≠ 1 || (minor ≠ 1 && minor ≠ 2) then throw .invalidDirective
      advance
      directives rounds true handles
    | some (.tagHandle handle) =>
      if handle ∈ handles then throw .invalidDirective
      advance
      directives rounds versioned (handle :: handles)
    | _ => pure handles

/-- Takes the marks at the end of a document. -/
def skipEnds : Nat → Reader Unit
  | 0 => pure ()
  | rounds + 1 => do
    if ← accept .documentEnd then skipEnds rounds

/-- The document of a text, if it holds one. -/
def document (rounds : Nat) : Reader (Option Node) := do
  let before ← get
  let handles ← directives rounds false []
  let marked := (← get).tokens.length ≠ before.tokens.length
  let started ← accept .documentStart
  if marked && !started then throw .unexpectedToken
  match ← peek? with
  | none => pure (if started then some .absent else none)
  | some token =>
    let found ←
      if started && (token = .documentStart || token = .documentEnd) then pure .absent
      else node handles (4 * rounds + 4) .block
    skipEnds rounds
    if (← peek?).isSome then throw .severalDocuments
    pure (some found)

end Reader

/-- The document that a text holds, if it holds one. -/
def Node.ofText? (text : String) : Except Fault (Option Node) := do
  let tokens ← Token.ofText text
  let (found, _) ← (Reader.document (tokens.length + 1)).run ⟨tokens, []⟩
  pure found

end SceneScript.Yaml
