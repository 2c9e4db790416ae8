import SceneScript.Text.Hex

/-!
# Writing TOML

A text is written in the first of these forms that needs no escape: in double quotes, in single quotes, in three double quotes, in
three single quotes. Where all of them do, it is in double quotes with escapes, three if it has line breaks.
-/

namespace SceneScript.Toml

/-- The ways to write a text. -/
inductive Quoting where
  | basic
  | literal
  | multilineBasic
  | multilineLiteral
  deriving DecidableEq, Repr

namespace Quoting

/-- How many times a character comes in a row at most, where it has come `run` times just now. -/
def longestRun (c : Char) (run : Nat) : List Char → Nat
  | [] => run
  | a :: rest => if a = c then longestRun c (run + 1) rest else max run (longestRun c 0 rest)

/-- The characters that only an escape can stand for: the control characters but tabs and line feeds. -/
def needsEscape (c : Char) : Bool :=
  (c < ' ' && c ≠ '\t' && c ≠ '\n') || c = '\x7f'

/-- The form of a text. -/
def ofText (text : List Char) : Quoting :=
  let coded := text.any needsEscape
  let escaped := coded || '\\' ∈ text
  let broken := '\n' ∈ text
  if !escaped && !broken && longestRun '"' 0 text = 0 then .basic
  else if !coded && !broken && longestRun '\'' 0 text = 0 then .literal
  else if !escaped && longestRun '"' 0 text ≤ 2 then .multilineBasic
  else if !coded && longestRun '\'' 0 text ≤ 2 then .multilineLiteral
  else if broken then .multilineBasic
  else .basic

/-- The quotes around a text. -/
def quotes : Quoting → List Char
  | .basic => ['"']
  | .literal => ['\'']
  | .multilineBasic => ['"', '"', '"']
  | .multilineLiteral => ['\'', '\'', '\'']

/-- How many double quotes may stand together without an escape. -/
def freeQuotes : Quoting → Nat
  | .multilineBasic => 2
  | _ => 0

/-- A character other than a double quote between double quotes. -/
def escapedChar (quoting : Quoting) (c : Char) : List Char :=
  if c = '\n' && quoting = .multilineBasic then ['\n']
  else
    match [('\x08', 'b'), ('\t', 't'), ('\n', 'n'), ('\x0c', 'f'), ('\r', 'r'), ('\\', '\\')].lookup c with
    | some letter => ['\\', letter]
    | none => if needsEscape c then '\\' :: 'u' :: Hex.fixedDigits 4 c.toNat else [c]

/-- A text between double quotes, where `run` of them have come just now. -/
def escapedText (quoting : Quoting) (run : Nat) : List Char → List Char
  | [] => []
  | '"' :: rest =>
    if run < quoting.freeQuotes then '"' :: escapedText quoting (run + 1) rest
    else '\\' :: '"' :: escapedText quoting 0 rest
  | c :: rest => escapedChar quoting c ++ escapedText quoting 0 rest

/-- A text in a form. A line break follows three quotes if the text has one. -/
def write (quoting : Quoting) (text : List Char) : List Char :=
  let multiline := quoting = .multilineBasic ∨ quoting = .multilineLiteral
  let inside := if quoting = .basic ∨ quoting = .multilineBasic then escapedText quoting 0 text else text
  quoting.quotes ++ (if multiline ∧ '\n' ∈ text then ['\n'] else []) ++ inside ++ quoting.quotes

end Quoting

/-- A text in quotes. -/
def quote (text : String) : String :=
  String.ofList ((Quoting.ofText text.toList).write text.toList)

/-- A line that gives a text to a name. -/
def assignmentLine (name text : String) : String :=
  s!"{name} = {quote text}\n"

end SceneScript.Toml
