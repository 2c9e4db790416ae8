import SceneScript.Toml.Scalar
import SceneScript.Toml.Table

/-!
# Reading TOML

A document is a list of sections: keys with their values at the top, then headers of tables, each with the keys behind it. The
sections are put together in order.

Each reader of a part that goes on has as many rounds as there are characters left, which is enough since every round takes one.
-/

namespace SceneScript.Toml

/-- A reader of part of a document. -/
abbrev Reader := StateT (List Char) (Except Fault)

namespace Reader

/-- The next character. -/
def peek? : Reader (Option Char) := return (← get).head?

/-- Goes on behind `n` characters. -/
def skip (n : Nat) : Reader Unit := modify (List.drop n)

/-- Takes the given characters if they come next. -/
def accept (text : List Char) : Reader Bool := do
  if (← get).take text.length = text then
    skip text.length
    pure true
  else pure false

/-- Takes the given characters, which have to come next. -/
def expect (text : List Char) : Reader Unit := do
  if !(← accept text) then throw (if (← get).isEmpty then .unexpectedEnd else .unexpectedCharacter)

/-- Takes the characters up to the first that is not in `p`. -/
def takeWhile (p : Char → Bool) : Reader (List Char) := do
  let taken := (← get).takeWhile p
  skip taken.length
  pure taken

/-- More rounds than there are characters left. -/
def rounds : Reader Nat := return (← get).length + 1

/-! ## Blanks -/

/-- The characters that separate words. -/
def isBlank (c : Char) : Bool := c = ' ' || c = '\t'

/-- Is this a control character other than a tab? -/
def isControl (c : Char) : Bool := (c < ' ' && c ≠ '\t') || c = '\x7f'

/-- Skips blanks. -/
def blanks : Reader Unit := do
  let _ ← takeWhile isBlank

/-- Takes a line break if one comes next. -/
def lineBreak : Reader Bool := do
  if ← accept ['\n'] then pure true else accept ['\r', '\n']

/-- Skips a comment if one comes next. Of the control characters it may hold a tab and a delete. -/
def comment : Reader Unit := do
  if ← accept ['#'] then
    let _ ← takeWhile fun c => !isControl c || c = '\x7f'

/-- The end of a line, or of the text, after blanks and a comment. -/
def lineEnd : Reader Unit := do
  blanks
  comment
  if !(← lineBreak) && !(← get).isEmpty then throw .unexpectedCharacter

/-- Skips blanks, comments and line breaks. -/
def gap : Nat → Reader Unit
  | 0 => pure ()
  | rounds + 1 => do
    blanks
    comment
    if ← lineBreak then gap rounds

/-! ## Texts -/

/-- The character that an escape stands for, behind the backslash. -/
def escape : Reader Char := do
  let coded (count : Nat) : Reader Char := do
    match Digits.codePoint? count (← get) with
    | some c =>
      skip count
      pure c
    | none => throw .invalidEscape
  match ← peek? with
  | none => throw .unexpectedEnd
  | some c =>
    skip 1
    if c = 'u' then coded 4
    else if c = 'U' then coded 8
    else
      match [('b', '\x08'), ('t', '\t'), ('n', '\n'), ('f', '\x0c'), ('r', '\r'), ('"', '"'), ('\\', '\\')].lookup c with
      | some c => pure c
      | none => throw .invalidEscape

/-- The rest of a text on one line, up to behind its closing quote. Only a text in double quotes has escapes. -/
def lineText (quote : Char) : Nat → Reader (List Char)
  | 0 => throw .unexpectedEnd
  | rounds + 1 => do
    match ← peek? with
    | none => throw .unexpectedEnd
    | some c =>
      if c = '\\' && quote = '"' then
        skip 1
        let e ← escape
        return e :: (← lineText quote rounds)
      else if isControl c then throw .unexpectedCharacter
      else
        skip 1
        if c = quote then pure [] else return c :: (← lineText quote rounds)

/-- The rest of a text on several lines, up to behind its three closing quotes. Two quotes may stand right before these. A
backslash at the end of a line takes away all blanks and line breaks behind it. -/
def linesText (quote : Char) : Nat → Reader (List Char)
  | 0 => throw .unexpectedEnd
  | n + 1 => do
    let run := ((← get).takeWhile (· = quote)).length
    if 3 ≤ run then
      let inner := min (run - 3) 2
      skip (inner + 3)
      pure (List.replicate inner quote)
    else if 1 ≤ run then
      skip run
      return List.replicate run quote ++ (← linesText quote n)
    else if ← lineBreak then return '\n' :: (← linesText quote n)
    else
      match ← peek? with
      | none => throw .unexpectedEnd
      | some c =>
        if c = '\\' && quote = '"' then
          skip 1
          let behind := (← get).dropWhile isBlank
          if behind.head? = some '\n' || behind.take 2 = ['\r', '\n'] then
            blankLines (← rounds)
            linesText quote n
          else
            let e ← escape
            return e :: (← linesText quote n)
        else if isControl c then throw .unexpectedCharacter
        else
          skip 1
          return c :: (← linesText quote n)
where
  /-- Skips blanks and line breaks. -/
  blankLines : Nat → Reader Unit
    | 0 => pure ()
    | n + 1 => do
      blanks
      if ← lineBreak then blankLines n

/-- A text in quotes. A line break right behind three quotes does not count. -/
def text (quote : Char) : Reader String := do
  if ← accept (List.replicate 3 quote) then
    let _ ← lineBreak
    return String.ofList (← linesText quote (← rounds))
  else
    expect [quote]
    return String.ofList (← lineText quote (← rounds))

/-! ## Keys -/

/-- How many names a path may have, and how deep values may lie in each other. -/
def depthLimit : Nat := 79

/-- The characters of names without quotes. -/
def isNameCharacter (c : Char) : Bool := c.isAlphanum || c = '_' || c = '-'

/-- A name, which may be a text on one line. -/
def name : Reader String := do
  match ← peek? with
  | some '"' =>
    skip 1
    return String.ofList (← lineText '"' (← rounds))
  | some '\'' =>
    skip 1
    return String.ofList (← lineText '\'' (← rounds))
  | _ =>
    let name ← takeWhile isNameCharacter
    if name.isEmpty then throw .unexpectedCharacter
    pure (String.ofList name)

/-- At most a given number of names, with dots in between. -/
def names : Nat → Reader (List String)
  | 0 => throw .tooDeep
  | limit + 1 => do
    blanks
    let first ← name
    blanks
    if ← accept ['.'] then return first :: (← names limit) else pure [first]

/-- A path. -/
def path : Reader (List String) := names depthLimit

/-! ## Values -/

/-- A word without quotes. A date and a time of day may stand apart. -/
def word : Reader (List Char) := do
  let first ← takeWhile Scalar.isWordCharacter
  match ← get with
  | ' ' :: a :: b :: ':' :: _ =>
    if Scalar.isDate first && a.isDigit && b.isDigit then
      skip 1
      return first ++ ' ' :: (← takeWhile Scalar.isWordCharacter)
    else pure first
  | _ => pure first

/-- The rest of an array. A comma may follow the last item. -/
def items (item : Reader Value) : Nat → Reader (List Value)
  | 0 => throw .unexpectedEnd
  | n + 1 => do
    gap (← rounds)
    if ← accept [']'] then pure []
    else
      let first ← item
      gap (← rounds)
      if ← accept [','] then return first :: (← items item n)
      else
        expect [']']
        pure [first]

/-- A key with its value. -/
def assignment (value : Reader Value) : Reader Assignment := do
  let path ← path
  expect ['=']
  blanks
  return ⟨path, ← value⟩

/-- The rest of a table in braces that is not empty. -/
def assignments (value : Reader Value) : Nat → Reader (List Assignment)
  | 0 => throw .unexpectedEnd
  | n + 1 => do
    let first ← assignment value
    blanks
    if ← accept [','] then return first :: (← assignments value n)
    else
      expect ['\x7d']
      pure [first]

/-- A value, where `inner` reads the values in it. -/
def valueOver (inner : Reader Value) : Reader Value := do
  match ← peek? with
  | none => throw .unexpectedEnd
  | some '"' => return .string (← text '"')
  | some '\'' => return .string (← text '\'')
  | some '[' =>
    skip 1
    return .array (← items inner (← rounds))
  | some '\x7b' =>
    skip 1
    blanks
    if ← accept ['\x7d'] then pure (.table .inline [])
    else
      let inside ← assignments inner (← rounds)
      return .table .inline (← Entries.assignAll [] inside)
  | some _ => Scalar.value (← word)

/-- A value, with at most `depth` collections around its innermost parts. -/
def value : Nat → Reader Value
  | 0 => do
    match ← peek? with
    | some '[' | some '\x7b' => throw .tooDeep
    | _ => valueOver (throw .tooDeep)
  | depth + 1 => valueOver (value depth)

/-! ## Documents -/

/-- The keys with their values up to the next header. -/
def keys : Nat → Reader (List Assignment)
  | 0 => pure []
  | n + 1 => do
    gap (← rounds)
    match ← peek? with
    | none | some '[' => pure []
    | some _ =>
      let first ← assignment (value depthLimit)
      lineEnd
      return first :: (← keys n)

/-- The tables from the next header on, put into the document so far. -/
def tables : Nat → Entries → Reader Entries
  | 0, entries => pure entries
  | n + 1, entries => do
    if (← get).isEmpty then pure entries
    else
      let several ← accept ['[', '[']
      if !several then expect ['[']
      let path ← path
      expect (if several then [']', ']'] else [']'])
      lineEnd
      let assignments ← keys (← rounds)
      let entries ← if several then entries.addTable assignments path else entries.stateTable assignments path
      tables n entries

/-- A document. -/
def document : Reader Entries := do
  let top ← keys (← rounds)
  tables (← rounds) (← Entries.assignAll [] top)

end Reader

/-- The document that a text is. A byte order mark in front is skipped. -/
def Entries.ofText? (text : String) : Except Fault Entries := do
  let chars := text.toList
  let (entries, _) ← Reader.document.run (if chars.head? = some '\uFEFF' then chars.drop 1 else chars)
  pure entries

end SceneScript.Toml
