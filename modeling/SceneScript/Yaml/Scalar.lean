import SceneScript.Text.Digits
import SceneScript.Yaml.Token

/-!
# Reading scalars

A scalar on several lines is joined: a single line break counts as a space, and of several the first is dropped. Blocks keep their
breaks if they are literal, and are joined except around lines that start with a blank if they are folded.

Each reader has as many rounds as there are characters left, which is enough since every round takes one.
-/

namespace SceneScript.Yaml.Scalar

/-- The breaks between two parts of a joined scalar: the first, if there is one, and the others. -/
structure Gap where
  first : Option Char
  others : List Char
  deriving Repr

/-- What a gap comes to. -/
def Gap.joined (gap : Gap) : List Char :=
  match gap.first with
  | none => gap.others
  | some '\n' => if gap.others.isEmpty then [' '] else gap.others
  | some c => c :: gap.others

/-- Blanks and breaks from a place on: the blanks, if there is no break, and the gap, if there is one. After a break, a tab left
of `indent` is a fault. -/
def readGap (indent : Nat) (strict : Bool) : Nat → Cursor → List Char → Option Gap → Except Fault (List Char × Option Gap × Cursor)
  | 0, c, blanks, gap => .ok (blanks, gap, c)
  | rounds + 1, c, blanks, gap =>
    match c.rest with
    | a :: _ =>
      if isBlank a then
        match gap with
        | none => readGap indent strict rounds (c.skip 1) (blanks ++ [a]) none
        | some gap =>
          if strict && a = '\t' && c.column < indent then .error .misplacedTab
          else readGap indent strict rounds (c.skip 1) blanks (some gap)
      else
        match c.break? with
        | some b =>
          let gap := match gap with
            | none => ⟨some b, []⟩
            | some gap => { gap with others := gap.others ++ [b] }
          readGap indent strict rounds c.skipBreak [] (some gap)
        | none => .ok (blanks, gap, c)
    | [] => .ok (blanks, gap, c)

/-- What blanks and breaks between two parts come to. -/
def gapText (blanks : List Char) : Option Gap → List Char
  | none => blanks
  | some gap => gap.joined

/-! ## Unquoted scalars -/

/-- The characters of an unquoted scalar up to the next blank, break or end. -/
def plainWord (inFlow : Bool) : Nat → Cursor → List Char → Except Fault (List Char × Cursor)
  | 0, c, word => .ok (word, c)
  | rounds + 1, c, word =>
    match c.rest with
    | a :: rest =>
      if isBlank a || isBreak a then .ok (word, c)
      else if inFlow && a = ':' && rest.head?.any (· ∈ [',', '?', '[', ']', '\x7b', '\x7d']) then
        .error .unexpectedCharacter
      else if (a = ':' && c.isSpaceAt 1) || (inFlow && a ∈ [',', '[', ']', '\x7b', '\x7d']) then .ok (word, c)
      else plainWord inFlow rounds (c.skip 1) (word ++ [a])
    | [] => .ok (word, c)

/-- An unquoted scalar, and whether it ends on a line after its last word. The lines after the first must reach `indent`, outside
of flow collections. -/
def plain (inFlow : Bool) (indent : Nat) : Nat → Cursor → List Char → List Char → Bool →
    Except Fault (List Char × Bool × Cursor)
  | 0, c, text, _, broken => .ok (text, broken, c)
  | rounds + 1, c, text, between, broken =>
    if c.atDocumentMark || c.peek? = some '#' then .ok (text, broken, c)
    else do
      let (word, after) ← plainWord inFlow c.rest.length c []
      let text := if word.isEmpty then text else text ++ between ++ word
      let between := if word.isEmpty then between else []
      let broken := if word.isEmpty then broken else false
      if after.rest.isEmpty || !after.isSpaceAt 0 then .ok (text, broken, after)
      else
        let (blanks, gap, next) ← readGap indent true after.rest.length after [] none
        let broken := broken || gap.isSome
        if !inFlow && next.column < indent then .ok (text, broken, next)
        else plain inFlow indent rounds next text (between ++ gapText blanks gap) broken

/-! ## Quoted scalars -/

/-- The character that an escape stands for, and how many characters the escape takes after the backslash. -/
def escape? : List Char → Option (Char × Nat)
  | 'x' :: rest => (Digits.codePoint? 2 rest).map (·, 3)
  | 'u' :: rest => (Digits.codePoint? 4 rest).map (·, 5)
  | 'U' :: rest => (Digits.codePoint? 8 rest).map (·, 9)
  | c :: _ =>
    ([('0', '\x00'), ('a', '\x07'), ('b', '\x08'), ('t', '\t'), ('\t', '\t'), ('n', '\n'), ('v', '\x0b'), ('f', '\x0c'), ('r', '\r'),
      ('e', '\x1b'), (' ', ' '), ('"', '"'), ('/', '/'), ('\\', '\\'), ('N', '\u0085'), ('_', '\u00a0'), ('L', '\u2028'),
      ('P', '\u2029')].lookup c).map (·, 1)
  | [] => none

/-- The characters of a quoted scalar up to the next blank, break or closing quote, and whether a backslash has taken away the
break after them. -/
def quotedWord (quote : Char) : Nat → Cursor → List Char → Except Fault (List Char × Bool × Cursor)
  | 0, c, word => .ok (word, false, c)
  | rounds + 1, c, word =>
    match c.rest with
    | a :: rest =>
      if isBlank a || isBreak a then .ok (word, false, c)
      else if quote = '\'' && a = '\'' && rest.head? = some '\'' then quotedWord quote rounds (c.skip 2) (word ++ ['\''])
      else if a = quote then .ok (word, false, c)
      else if quote = '"' && a = '\\' then
        if rest.head?.any isBreak then .ok (word, true, (c.skip 1).skipBreak)
        else
          match escape? rest with
          | some (e, length) => quotedWord quote rounds (c.skip (1 + length)) (word ++ [e])
          | none => .error .unknownEscape
      else quotedWord quote rounds (c.skip 1) (word ++ [a])
    | [] => .ok (word, false, c)

/-- A quoted scalar, from behind its opening quote to behind its closing one. -/
def quoted (quote : Char) : Nat → Cursor → List Char → Except Fault (List Char × Cursor)
  | 0, _, _ => .error .unclosedQuote
  | rounds + 1, c, text => do
    if c.atDocumentMark || c.rest.isEmpty then throw .unclosedQuote
    let (word, continued, after) ← quotedWord quote c.rest.length c []
    let text := text ++ word
    if after.peek? = some quote && !continued then pure (text, after.skip 1)
    else
      let (blanks, gap, next) ← readGap 0 false after.rest.length after [] (if continued then some ⟨none, []⟩ else none)
      quoted quote rounds next (text ++ gapText blanks gap)

/-! ## Blocks -/

/-- What is done with the breaks at the end of a block. -/
inductive Chomping where
  | strip
  | clip
  | keep
  deriving DecidableEq, Repr

/-- The header of a block: how its end is treated, and its indentation if that is given. -/
def blockHeader (c : Cursor) : Except Fault (Chomping × Nat × Cursor) := do
  let chomping? (c : Cursor) : Option Chomping :=
    match c.peek? with
    | some '+' => some .keep
    | some '-' => some .strip
    | _ => none
  let digit? (c : Cursor) : Option Nat := (c.peek?.filter Char.isDigit).map fun d => d.toNat - '0'.toNat
  let (chomping, increment, c) := match chomping? c with
    | some chomping =>
      match digit? (c.skip 1) with
      | some d => (chomping, some d, c.skip 2)
      | none => (chomping, none, c.skip 1)
    | none =>
      match digit? c with
      | some d =>
        match chomping? (c.skip 1) with
        | some chomping => (chomping, some d, c.skip 2)
        | none => (.clip, some d, c.skip 1)
      | none => (.clip, none, c)
  if increment = some 0 then throw .invalidBlockHeader
  let c := c.skipWhile isBlank
  let c := if c.peek? = some '#' then c.skipWhile (!isBreak ·) else c
  if c.rest.isEmpty then pure (chomping, increment.getD 0, c)
  else if c.break?.isSome then pure (chomping, increment.getD 0, c.skipBreak)
  else throw .invalidBlockHeader

/-- Empty lines, up to the first character of a line that has one. Where no indentation is known, spaces are skipped, and the
deepest column is told. -/
def blockBreaks (indent : Nat) : Nat → Cursor → List Char → Nat → Except Fault (List Char × Nat × Cursor)
  | 0, c, breaks, deepest => .ok (breaks, deepest, c)
  | rounds + 1, c, breaks, deepest =>
    let free (column : Nat) : Bool := indent = 0 || column < indent
    match c.rest with
    | a :: _ =>
      if a = ' ' && free c.column then blockBreaks indent rounds (c.skip 1) breaks deepest
      else
        let deepest := max deepest c.column
        if a = '\t' && free c.column then .error .misplacedTab
        else
          match c.break? with
          | some b => blockBreaks indent rounds c.skipBreak (breaks ++ [b]) deepest
          | none => .ok (breaks, deepest, c)
    | [] => .ok (breaks, max deepest c.column, c)

/-- The lines of a block with a known indentation. `lead` is the break at the end of the line before, `breaks` are those of the
empty lines since, and `blank` says whether that line started with a blank. -/
def blockLines (folded : Bool) (indent : Nat) : Nat → Cursor → List Char → Option Char → List Char → Bool →
    Except Fault (List Char × Option Char × List Char × Cursor)
  | 0, c, text, lead, breaks, _ => .ok (text, lead, breaks, c)
  | rounds + 1, c, text, lead, breaks, blank =>
    if c.column = indent && !c.rest.isEmpty then do
      let startsBlank := c.peek?.any isBlank
      let joint :=
        if folded && lead = some '\n' && !blank && !startsBlank then (if breaks.isEmpty then [' '] else [])
        else lead.toList
      let (line, c) := c.takeWhile (!isBreak ·)
      let lead := c.break?
      let c := if lead.isSome then c.skipBreak else c
      let text := text ++ joint ++ breaks ++ line
      let (breaks, _, c) ← blockBreaks indent c.rest.length c [] 0
      blockLines folded indent rounds c text lead breaks startsBlank
    else .ok (text, lead, breaks, c)

/-- A block, from behind its bar or arrow, inside a collection with the given indentation. -/
def block (folded : Bool) (outer : Int) (c : Cursor) : Except Fault (List Char × Cursor) := do
  let (chomping, increment, c) ← blockHeader c
  let given : Nat := if increment = 0 then 0 else (max outer 0).toNat + increment
  let (breaks, deepest, c) ← blockBreaks given (c.rest.length + 1) c [] 0
  let indent := if given = 0 then max (max deepest (outer + 1).toNat) 1 else given
  let (text, lead, breaks, c) ← blockLines folded indent (c.rest.length + 1) c [] none breaks false
  let text := if chomping = .strip then text else text ++ lead.toList
  let text := if chomping = .keep then text ++ breaks else text
  pure (text, c)

end SceneScript.Yaml.Scalar
