import SceneScript.Yaml.Scalar

/-!
# Reading tokens

Tokens are read from left to right. Whether a scalar is the key of a mapping shows only at the colon behind it; until then it is
kept as a possible key, and the tokens in front of it are put in when the colon comes. Outside of flow collections, a token left
of the current indentation ends the block collections that it is not part of.
-/

namespace SceneScript.Yaml

/-- A token that may turn out to be a key. -/
structure PossibleKey where
  /-- Must it be one? At the indentation of a mapping nothing else is allowed. -/
  required : Bool
  /-- How many tokens come before it. -/
  position : Nat
  line : Nat
  column : Nat
  index : Nat
  deriving Repr

/-- How far a text has been read. -/
structure Lexer where
  cursor : Cursor
  tokens : Array Token
  /-- The column of the innermost block collection, -1 outside of all. -/
  indent : Int
  /-- The columns of the collections around it. -/
  outer : List Int
  /-- The possible key of the innermost flow collection, or of the block part. -/
  possible : Option PossibleKey
  /-- The possible keys of the flow collections around it, and of the block part. -/
  outerPossible : List (Option PossibleKey)
  /-- May a key start here? -/
  keyAllowed : Bool
  deriving Repr

namespace Lexer

/-- The start of a text. A byte order mark there is skipped. -/
def ofList (text : List Char) : Lexer where
  cursor := .ofList (if text.head? = some '\uFEFF' then text.drop 1 else text)
  tokens := #[]
  indent := -1
  outer := []
  possible := none
  outerPossible := []
  keyAllowed := true

/-- Is this inside a flow collection? -/
def inFlow (l : Lexer) : Bool := !l.outerPossible.isEmpty

/-- Adds a token. -/
def emit (l : Lexer) (token : Token) : Lexer := { l with tokens := l.tokens.push token }

/-- Goes on behind `n` characters. -/
def skip (l : Lexer) (n : Nat) : Lexer := { l with cursor := l.cursor.skip n }

/-! ## Indentation and keys -/

/-- Opens a block collection at a column, if that is right of the current one, with its token before those from `position` on. -/
def roll (l : Lexer) (column position : Nat) (token : Token) : Lexer :=
  if !l.inFlow && l.indent < column then
    { l with
      outer := l.indent :: l.outer
      indent := column
      tokens := l.tokens.extract 0 position ++ #[token] ++ l.tokens.extract position l.tokens.size }
  else l

/-- Closes the block collections right of a column. -/
def unroll (l : Lexer) (column : Int) : Lexer :=
  if l.inFlow then l else go l.outer l.indent l.tokens
where
  go (outer : List Int) (indent : Int) (tokens : Array Token) : Lexer :=
    if column < indent then
      match outer with
      | [] => { l with outer := [], indent := -1, tokens := tokens.push .blockEnd }
      | next :: rest => go rest next (tokens.push .blockEnd)
    else { l with outer, indent, tokens }

/-- Gives up the possible key. -/
def dropKey (l : Lexer) : Except Fault Lexer :=
  match l.possible with
  | some key => if key.required then .error .missingColon else .ok { l with possible := none }
  | none => .ok l

/-- Keeps the next token as a possible key. -/
def saveKey (l : Lexer) : Except Fault Lexer := do
  if l.keyAllowed then
    let required := !l.inFlow && l.indent = l.cursor.column
    let l ← l.dropKey
    pure { l with possible := some ⟨required, l.tokens.size, l.cursor.line, l.cursor.column, l.cursor.index⟩ }
  else pure l

/-- The possible key, if it is on the same line and at most 1024 characters back. -/
def validKey (l : Lexer) : Except Fault (Option PossibleKey) :=
  match l.possible with
  | none => .ok none
  | some key =>
    if key.line < l.cursor.line ∨ key.index + 1024 < l.cursor.index then
      if key.required then .error .missingColon else .ok none
    else .ok (some key)

/-! ## What stands between tokens -/

/-- Goes on to the next token, over blanks, comments and breaks. A tab does not indent. -/
def toNextToken : Nat → Lexer → Lexer
  | 0, l => l
  | rounds + 1, l =>
    match l.cursor.rest with
    | a :: _ =>
      if a = ' ' || (a = '\t' && (l.inFlow || !l.keyAllowed)) then toNextToken rounds (l.skip 1)
      else if a = '#' then toNextToken rounds { l with cursor := l.cursor.skipWhile (!isBreak ·) }
      else if isBreak a then
        toNextToken rounds { l with cursor := l.cursor.skipBreak, keyAllowed := l.keyAllowed || !l.inFlow }
      else l
    | [] => l

/-! ## Single tokens -/

/-- The characters of names. -/
def isNameCharacter (c : Char) : Bool := c.isAlphanum || c = '_' || c = '-'

/-- Starts or ends a document. -/
def documentMark (l : Lexer) (token : Token) : Except Fault Lexer := do
  let l ← (l.unroll (-1)).dropKey
  pure (({ l with keyAllowed := false }.emit token).skip 3)

/-- Opens a flow collection. -/
def openFlow (l : Lexer) (token : Token) : Except Fault Lexer := do
  let l ← l.saveKey
  pure (({ l with outerPossible := l.possible :: l.outerPossible, possible := none, keyAllowed := true }.emit token).skip 1)

/-- Closes a flow collection. A closing bracket without an opening one is left to the grammar. -/
def closeFlow (l : Lexer) (token : Token) : Except Fault Lexer := do
  let l ← l.dropKey
  let l := match l.outerPossible with
    | possible :: rest => { l with possible, outerPossible := rest }
    | [] => l
  pure (({ l with keyAllowed := false }.emit token).skip 1)

/-- A comma between the items of a flow collection. -/
def flowEntry (l : Lexer) : Except Fault Lexer := do
  let l ← l.dropKey
  pure (({ l with keyAllowed := true }.emit .flowEntry).skip 1)

/-- A dash in front of an item. -/
def blockEntry (l : Lexer) : Except Fault Lexer := do
  if !l.inFlow && !l.keyAllowed then throw .misplacedEntry
  let l ← (l.roll l.cursor.column l.tokens.size .blockSequenceStart).dropKey
  pure (({ l with keyAllowed := true }.emit .blockEntry).skip 1)

/-- A question mark in front of a key. -/
def explicitKey (l : Lexer) : Except Fault Lexer := do
  if !l.inFlow && !l.keyAllowed then throw .misplacedKey
  let l ← (l.roll l.cursor.column l.tokens.size .blockMappingStart).dropKey
  pure (({ l with keyAllowed := !l.inFlow }.emit .key).skip 1)

/-- A colon: behind a possible key, it makes that a key. -/
def colon (l : Lexer) : Except Fault Lexer := do
  match ← l.validKey with
  | some key =>
    let l := { l with
      tokens := l.tokens.extract 0 key.position ++ #[Token.key] ++ l.tokens.extract key.position l.tokens.size }
    let l := l.roll key.column key.position .blockMappingStart
    pure (({ l with possible := none, keyAllowed := false }.emit .value).skip 1)
  | none =>
    if !l.inFlow && !l.keyAllowed then throw .misplacedValue
    let l := l.roll l.cursor.column l.tokens.size .blockMappingStart
    pure (({ l with possible := none, keyAllowed := !l.inFlow }.emit .value).skip 1)

/-- An anchor or an alias. -/
def name (l : Lexer) (token : String → Token) : Except Fault Lexer := do
  let l ← l.saveKey
  let (name, after) := (l.cursor.skip 1).takeWhile isNameCharacter
  let ends := after.isSpaceAt 0 || after.peek?.any (· ∈ ['?', ':', ',', ']', '\x7d', '%', '@', '`'])
  if name.isEmpty || !ends then throw .invalidName
  pure ({ l with cursor := after, keyAllowed := false }.emit (token (String.ofList name)))

/-- The characters of tags and their prefixes. -/
def isTagCharacter (c : Char) : Bool :=
  isNameCharacter c || c ∈ [';', '/', '?', ':', '@', '&', '=', '+', '$', '.', '%', '!', '~', '*', '\'', '(', ')']

/-- A tag: verbatim, with a handle, or with the default handle. -/
def tag (l : Lexer) : Except Fault Lexer := do
  let l ← l.saveKey
  let start := l.cursor.skip 1
  let (handle, after) ←
    if start.peek? = some '<' then
      let (uri, after) := (start.skip 1).takeWhile fun c => isTagCharacter c || c ∈ [',', '[', ']']
      if uri.isEmpty || after.peek? ≠ some '>' then throw .invalidTag
      pure (none, after.skip 1)
    else
      let (word, behind) := start.takeWhile isNameCharacter
      if behind.peek? = some '!' then
        let (suffix, after) := (behind.skip 1).takeWhile isTagCharacter
        if suffix.isEmpty then throw .invalidTag
        pure (if word.isEmpty then none else some (String.ofList ('!' :: word ++ ['!'])), after)
      else
        pure (none, start.skipWhile isTagCharacter)
  if !(after.isSpaceAt 0 || (l.inFlow && after.peek? = some ',')) then throw .invalidTag
  pure ({ l with cursor := after, keyAllowed := false }.emit (.tag handle))

/-- A directive. -/
def directive (l : Lexer) : Except Fault Lexer := do
  let l ← (l.unroll (-1)).dropKey
  let (name, after) := (l.cursor.skip 1).takeWhile isNameCharacter
  if !after.isSpaceAt 0 then throw .invalidDirective
  let after := after.skipWhile isBlank
  let number (digits : List Char) : Nat := digits.foldl (fun n d => 10 * n + (d.toNat - '0'.toNat)) 0
  let (token, after) ←
    if name = ['Y', 'A', 'M', 'L'] then
      let (major, dot) := after.takeWhile Char.isDigit
      let (minor, after) := (dot.skip 1).takeWhile Char.isDigit
      if major.isEmpty || dot.peek? ≠ some '.' || minor.isEmpty || 9 < major.length || 9 < minor.length then
        throw .invalidDirective
      pure (Token.version (number major) (number minor), after)
    else if name = ['T', 'A', 'G'] then
      let (word, behind) := (after.skip 1).takeWhile isNameCharacter
      let closed := behind.peek? = some '!'
      if after.peek? ≠ some '!' || !(closed || word.isEmpty) then throw .invalidDirective
      let behind := if closed then behind.skip 1 else behind
      if !behind.peek?.any isBlank then throw .invalidDirective
      let (uri, after) := (behind.skipWhile isBlank).takeWhile fun c => isTagCharacter c || c ∈ [',', '[', ']']
      if uri.isEmpty || !after.isSpaceAt 0 then throw .invalidDirective
      let handle := if closed then '!' :: word ++ ['!'] else ['!']
      pure (Token.tagHandle (String.ofList handle), after)
    else throw .invalidDirective
  let after := after.skipWhile isBlank
  let after := if after.peek? = some '#' then after.skipWhile (!isBreak ·) else after
  if !(after.rest.isEmpty || after.break?.isSome) then throw .invalidDirective
  pure ({ l with cursor := after, keyAllowed := false }.emit token)

/-- A quoted scalar. -/
def quoted (l : Lexer) (quote : Char) (style : ScalarStyle) : Except Fault Lexer := do
  let l ← l.saveKey
  let start := l.cursor.skip 1
  let (text, after) ← Scalar.quoted quote (start.rest.length + 1) start []
  pure ({ l with cursor := after, keyAllowed := false }.emit (.scalar (String.ofList text) style))

/-- A block scalar. -/
def block (l : Lexer) (folded : Bool) (style : ScalarStyle) : Except Fault Lexer := do
  let l ← l.dropKey
  let (text, after) ← Scalar.block folded l.indent (l.cursor.skip 1)
  pure ({ l with cursor := after, keyAllowed := true }.emit (.scalar (String.ofList text) style))

/-- An unquoted scalar. -/
def plain (l : Lexer) : Except Fault Lexer := do
  let l ← l.saveKey
  let (text, broken, after) ← Scalar.plain l.inFlow (l.indent + 1).toNat (l.cursor.rest.length + 1) l.cursor [] [] false
  pure ({ l with cursor := after, keyAllowed := broken }.emit (.scalar (String.ofList text) .plain))

/-- Can an unquoted scalar start here? -/
def startsPlain (l : Lexer) (a : Char) : Bool :=
  let nextIsSpace := l.cursor.isSpaceAt 1
  if a = '-' then !(l.cursor.rest.drop 1).head?.any isBlank
  else if a = '?' || a = ':' then !l.inFlow && !nextIsSpace
  else a ∉ [',', '[', ']', '\x7b', '\x7d', '#', '&', '*', '!', '|', '>', '\'', '"', '%', '@', '`'] && !isBlank a && !isBreak a

/-- Reads the token that starts with a character. -/
def token (l : Lexer) (a : Char) : Except Fault Lexer :=
  let nextIsSpace := l.cursor.isSpaceAt 1
  if l.cursor.column = 0 && a = '%' then l.directive
  else if l.cursor.atDocumentMark then l.documentMark (if a = '-' then .documentStart else .documentEnd)
  else if a = '[' then l.openFlow .flowSequenceStart
  else if a = '\x7b' then l.openFlow .flowMappingStart
  else if a = ']' then l.closeFlow .flowSequenceEnd
  else if a = '\x7d' then l.closeFlow .flowMappingEnd
  else if a = ',' then l.flowEntry
  else if a = '-' && nextIsSpace then l.blockEntry
  else if a = '?' && (l.inFlow || nextIsSpace) then l.explicitKey
  else if a = ':' && (l.inFlow || nextIsSpace) then l.colon
  else if a = '*' then l.name .alias
  else if a = '&' then l.name .anchor
  else if a = '!' then l.tag
  else if a = '|' && !l.inFlow then l.block false .literal
  else if a = '>' && !l.inFlow then l.block true .folded
  else if a = '\'' then l.quoted '\'' .singleQuoted
  else if a = '"' then l.quoted '"' .doubleQuoted
  else if l.startsPlain a then l.plain
  else .error .unexpectedCharacter

/-- All tokens from here on. Every round but the last takes a character. -/
def run : Nat → Lexer → Except Fault (List Token)
  | 0, _ => .error .unexpectedCharacter
  | rounds + 1, l => do
    let l := toNextToken l.cursor.rest.length l
    let _ ← l.validKey
    let l := if (← l.validKey).isNone then { l with possible := none } else l
    let l := l.unroll l.cursor.column
    match l.cursor.peek? with
    | some a => run rounds (← l.token a)
    | none =>
      let l ← (l.unroll (-1)).dropKey
      pure l.tokens.toList

end Lexer

/-- The characters that a document may hold. -/
def isAllowed (c : Char) : Bool :=
  let n := c.toNat
  n = 0x9 || n = 0xA || n = 0xD || (0x20 ≤ n && n ≤ 0x7E) || n = 0x85 || (0xA0 ≤ n && n ≤ 0xFFFD) || 0x10000 ≤ n

/-- The tokens of a text. -/
def Token.ofText (text : String) : Except Fault (List Token) :=
  let chars := text.toList
  if chars.all isAllowed then Lexer.run (chars.length + 1) (.ofList chars) else .error .forbiddenCharacter

end SceneScript.Yaml
