import SceneScript.Text.Hex
import SceneScript.Yaml.Node
import SceneScript.Yaml.Resolution

/-!
# Writing YAML

Nodes are written in block form with two spaces for each level, and a sequence in a mapping is not indented. A text is unquoted
where it can be, a literal block if it has line breaks, and quoted otherwise. Lines are never folded.
-/

namespace SceneScript.Yaml

/-! ## The style of a text -/

/-- The characters that may be written as they are. -/
def isPrintable (c : Char) : Bool :=
  let n := c.toNat
  n = 0xA || (0x20 ≤ n && n ≤ 0x7E) || (0xA0 ≤ n && n ≤ 0xFFFD && n ≠ 0xFEFF) || 0x10000 ≤ n

/-- Does a character, or the end of a text, separate it from what comes before? -/
def isSeparator (c? : Option Char) : Bool :=
  match c? with
  | none => true
  | some c => isBlank c || isBreak c || c = '\x00'

/-- Does `p` hold of two neighbours in a text? -/
def anyPair (p : Char → Char → Bool) : List Char → Bool
  | a :: b :: rest => p a b || anyPair p (b :: rest)
  | _ => false

/-- The characters that start something else when they come first. -/
def isFirstIndicator (c : Char) : Bool :=
  c ∈ ['#', ',', '[', ']', '\x7b', '\x7d', '&', '*', '!', '|', '>', '\'', '"', '%', '@', '`']

/-- Would a text start something else? -/
def startsIndicator : List Char → Bool
  | '-' :: '-' :: '-' :: _ => true
  | '.' :: '.' :: '.' :: _ => true
  | c :: rest => isFirstIndicator c || ((c = '?' || c = '-') && isSeparator rest.head?)
  | [] => false

/-- Is there a colon that would end a key, or a number sign that would start a comment? -/
def holdsIndicator (text : List Char) : Bool :=
  text.getLast? = some ':' ||
    anyPair (fun a b => (a = ':' && isSeparator (some b)) || (b = '#' && isSeparator (some a))) text

/-- Is there a line break next to a space in the given order? -/
def spaceBeforeBreak : List Char → Bool :=
  anyPair fun a b => a = ' ' && isBreak b

/-- Is there a space at the start of a line after the first? -/
def spaceAfterBreak : List Char → Bool :=
  anyPair fun a b => isBreak a && b = ' '

/-- Can a text be written unquoted, as far as its characters go? -/
def allowsPlain (text : List Char) : Bool :=
  !(startsIndicator text || holdsIndicator text || text.any isBreak || text.any (!isPrintable ·) ||
    text.head? = some ' ' || text.getLast? = some ' ')

/-- Can a text be written between single quotes? -/
def allowsSingle (text : List Char) : Bool :=
  !(spaceAfterBreak text || spaceBeforeBreak text || text.any (!isPrintable ·))

/-- Can a text be written as a block? -/
def allowsBlock (text : List Char) : Bool :=
  !(text.getLast? = some ' ' || spaceBeforeBreak text || text.any (!isPrintable ·))

/-- The style of a text. -/
def styleOf (text : String) : ScalarStyle :=
  let chars := text.toList
  if '\n' ∈ chars then
    if allowsBlock chars then .literal else .doubleQuoted
  else if allowsPlain chars && !Resolution.isAmbiguous text then .plain
  else if allowsSingle chars then .singleQuoted
  else .doubleQuoted

/-- The node of a text. -/
def Node.ofText (text : String) : Node :=
  .scalar text (styleOf text)

/-- The node of a number. -/
def Node.ofInt (n : Int) : Node :=
  .scalar (toString n) .plain

/-- A mapping whose keys are texts. -/
def Node.ofFields (fields : List (String × Node)) : Node :=
  .mapping (fields.map fun (key, value) => (.ofText key, value))

/-! ## Scalars -/

/-- The letter that a character is escaped by, if there is one. -/
def escapeLetter? (c : Char) : Option Char :=
  [('\x00', '0'), ('\x07', 'a'), ('\x08', 'b'), ('\t', 't'), ('\n', 'n'), ('\x0b', 'v'), ('\x0c', 'f'), ('\r', 'r'), ('\x1b', 'e'),
    ('"', '"'), ('\\', '\\'), ('\u0085', 'N'), ('\u00a0', '_'), ('\u2028', 'L'), ('\u2029', 'P')].lookup c

/-- A character between double quotes. -/
def doubleQuotedChar (c : Char) : List Char :=
  if isPrintable c && !isBreak c && c ≠ '"' && c ≠ '\\' then [c]
  else
    match escapeLetter? c with
    | some letter => ['\\', letter]
    | none =>
      let n := c.toNat
      if n ≤ 0xFF then '\\' :: 'x' :: Hex.fixedDigits 2 n
      else '\\' :: 'u' :: Hex.fixedDigits 4 n

/-- Text whose lines after a break are indented. -/
def indentLines (indent : Nat) (charText : Char → List Char) : (atStart : Bool) → List Char → List Char
  | _, [] => []
  | atStart, c :: rest =>
    if isBreak c then c :: indentLines indent charText true rest
    else
      (if atStart then List.replicate indent ' ' else []) ++ charText c ++ indentLines indent charText false rest

/-- Does a text end with a line break? -/
def endsWithBreak (text : List Char) : Bool :=
  text.getLast?.any isBreak

/-- What follows the bar of a literal block: the indentation, if the text does not show it, and how its end is treated. -/
def blockHints (text : List Char) : List Char :=
  let indentation := match text.head? with
    | some c => if c = ' ' || isBreak c then ['2'] else []
    | none => []
  let ending :=
    if !endsWithBreak text then ['-']
    else if text.length = 1 || endsWithBreak text.dropLast then ['+']
    else []
  indentation ++ ending

/-- A scalar and the end of its last line, where the lines of its continuation have the given indentation. -/
def scalarText (indent : Nat) (text : String) : ScalarStyle → List Char
  | .plain => text.toList ++ ['\n']
  | .singleQuoted =>
    let body := indentLines indent (fun c => if c = '\'' then ['\'', '\''] else [c]) false text.toList
    let ending := if endsWithBreak text.toList then List.replicate indent ' ' else []
    '\'' :: body ++ ending ++ ['\'', '\n']
  | .doubleQuoted => '"' :: text.toList.flatMap doubleQuotedChar ++ ['"', '\n']
  | .literal | .folded =>
    let ending := if endsWithBreak text.toList then [] else ['\n']
    '|' :: blockHints text.toList ++ ['\n'] ++ indentLines indent (fun c => [c]) true text.toList ++ ending

/-! ## Nodes -/

/-- A key and its colon. Only scalars on one line are written as keys; what stands for any other is empty. -/
def keyText : Node → List Char
  | .scalar text style => (scalarText 0 text style).dropLast ++ [':']
  | _ => [':']

mutual

/-- A node that starts in the middle of a line, behind a dash. Its further lines have the given indentation. -/
def itemText (indent : Nat) : Node → List Char
  | .scalar text style => scalarText indent text style
  | .sequence [] => ['[', ']', '\n']
  | .sequence (item :: items) => '-' :: ' ' :: itemText (indent + 2) item ++ sequenceText indent items
  | .mapping [] => ['\x7b', '\x7d', '\n']
  | .mapping ((key, value) :: entries) => entryText indent key value ++ mappingText indent entries

/-- The items of a sequence, each on lines of its own. -/
def sequenceText (indent : Nat) : List Node → List Char
  | [] => []
  | item :: items =>
    List.replicate indent ' ' ++ ['-', ' '] ++ itemText (indent + 2) item ++ sequenceText indent items

/-- The entries of a mapping, each on lines of its own. -/
def mappingText (indent : Nat) : List (Node × Node) → List Char
  | [] => []
  | (key, value) :: entries => List.replicate indent ' ' ++ entryText indent key value ++ mappingText indent entries

/-- An entry of a mapping. -/
def entryText (indent : Nat) (key : Node) : Node → List Char
  | .scalar text style => keyText key ++ ' ' :: scalarText (indent + 2) text style
  | .sequence [] => keyText key ++ [' ', '[', ']', '\n']
  | .sequence (item :: items) =>
    keyText key ++ '\n' :: (List.replicate indent ' ' ++ ['-', ' '] ++ itemText (indent + 2) item) ++ sequenceText indent items
  | .mapping [] => keyText key ++ [' ', '\x7b', '\x7d', '\n']
  | .mapping ((inner, value) :: entries) =>
    keyText key ++ '\n' :: (List.replicate (indent + 2) ' ' ++ entryText (indent + 2) inner value) ++
      mappingText (indent + 2) entries

end

/-- The text of a document. -/
def Node.render (node : Node) : String :=
  String.ofList (itemText 0 node)

end SceneScript.Yaml
