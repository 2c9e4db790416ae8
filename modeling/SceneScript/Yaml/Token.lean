import SceneScript.Yaml.Node

/-!
# Tokens of YAML

The marks and scalars of a document in order. Indentation is made explicit: a block collection has a token at its start and one at
its end, and each key of a mapping has one in front.
-/

namespace SceneScript.Yaml

/-- What makes a text no YAML document. -/
inductive Fault where
  | forbiddenCharacter
  | unexpectedCharacter
  | unclosedQuote
  | unknownEscape
  | invalidBlockHeader
  | misplacedTab
  | misplacedEntry
  | misplacedKey
  | misplacedValue
  | missingColon
  | invalidName
  | invalidTag
  | invalidDirective
  | unknownAlias
  | unknownTagHandle
  | unexpectedToken
  | severalDocuments
  /-- The document is in order, but not of the wanted form. -/
  | wrongForm
  deriving DecidableEq, Repr

/-- A mark or a scalar. -/
inductive Token where
  | version (major minor : Nat)
  | tagHandle (handle : String)
  | documentStart
  | documentEnd
  | blockSequenceStart
  | blockMappingStart
  | blockEnd
  | flowSequenceStart
  | flowSequenceEnd
  | flowMappingStart
  | flowMappingEnd
  | blockEntry
  | flowEntry
  | key
  | value
  | alias (name : String)
  | anchor (name : String)
  /-- A tag, with the handle that has to be declared for it. -/
  | tag (handle : Option String)
  | scalar (text : String) (style : ScalarStyle)
  deriving DecidableEq, Repr

/-- A place in the text: what is left of it, and how far it has been read. -/
structure Cursor where
  rest : List Char
  line : Nat
  column : Nat
  index : Nat
  deriving Repr

namespace Cursor

/-- The start of a text. -/
def ofList (text : List Char) : Cursor := ⟨text, 0, 0, 0⟩

/-- The next character. -/
def peek? (c : Cursor) : Option Char := c.rest.head?

/-- After `n` characters of the same line. -/
def skip (c : Cursor) (n : Nat) : Cursor :=
  ⟨c.rest.drop n, c.line, c.column + n, c.index + n⟩

/-- After the line break that comes next. A carriage return and a line feed are one break. -/
def skipBreak (c : Cursor) : Cursor :=
  match c.rest with
  | '\r' :: '\n' :: rest => ⟨rest, c.line + 1, 0, c.index + 2⟩
  | _ :: rest => ⟨rest, c.line + 1, 0, c.index + 1⟩
  | [] => c

/-- The break that comes next, as it counts in a scalar: only the line and paragraph separators stay what they are. -/
def break? (c : Cursor) : Option Char :=
  match c.rest with
  | a :: _ => if isBreak a then some (if a = '\u2028' ∨ a = '\u2029' then a else '\n') else none
  | [] => none

/-- The characters up to the first that is not in `p`, and the place after them. -/
def takeWhile (c : Cursor) (p : Char → Bool) : List Char × Cursor :=
  let taken := c.rest.takeWhile p
  (taken, c.skip taken.length)

/-- The place after all characters in `p`. -/
def skipWhile (c : Cursor) (p : Char → Bool) : Cursor := (c.takeWhile p).2

/-- Is the text over, or a blank or a break the next but `n`? -/
def isSpaceAt (c : Cursor) (n : Nat) : Bool :=
  match c.rest.drop n with
  | a :: _ => isBlank a || isBreak a
  | [] => true

/-- Is there a mark that starts or ends a document? -/
def atDocumentMark (c : Cursor) : Bool :=
  c.column = 0 && (c.rest.take 3 = ['-', '-', '-'] || c.rest.take 3 = ['.', '.', '.']) && c.isSpaceAt 3

end Cursor

end SceneScript.Yaml
