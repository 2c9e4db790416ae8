import SceneScript.Edit
import SceneScript.Rendering

/-!
# Command lines

A command line is a list of words. An option is a word that starts with a dash: `--name`, or `-n`, or several of one letter each
in a word. Its value is the rest of the word, or the next word. Options may come in any order, each once at most.

The words are read from left to right. A value in a word of its own is looked at when the next option has been recognized, or at
the end; so a word that is no option counts before a value that is no good.
-/

namespace SceneScript.CommandLine

/-- Why a command line is not run. -/
inductive Refusal where
  | missingOption (name : String)
  | repeatedOption (name : String)
  | missingValue (name : String)
  | invalidValue (name value : String)
  | unexpectedValue (name : String)
  | unknownArgument (word : String)
  /-- Help is wanted. -/
  | help
  /-- The version is wanted. -/
  | version
  deriving DecidableEq, Repr

/-- What follows an option, or what it does. -/
inductive OptionKind where
  /-- A path, which is not empty. -/
  | path
  /-- A value that passes a check. -/
  | value (check : String → Bool)
  | flag
  | help
  | version

/-- An option. -/
structure OptionRule where
  long : String
  short : Option Char
  kind : OptionKind

/-- Has the option a value? -/
def OptionRule.takesValue (rule : OptionRule) : Bool :=
  match rule.kind with
  | .path | .value _ => true
  | .flag | .help | .version => false

/-- How far a command line has been read. -/
structure Progress where
  /-- The options so far with their values. A flag has an empty one. -/
  given : List (String × String)
  /-- The last option, if its value has a word of its own: before the value, or with it. -/
  pending : Option (OptionRule × Option String)

namespace Progress

/-- Nothing has been read. -/
def start : Progress := ⟨[], none⟩

/-- Takes an option with its value. -/
def take (p : Progress) (rule : OptionRule) (value : String) : Except Refusal Progress :=
  let taken : Except Refusal Progress :=
    if (p.given.lookup rule.long).isSome then .error (.repeatedOption rule.long)
    else .ok { p with given := (rule.long, value) :: p.given }
  match rule.kind with
  | .help => .error .help
  | .version => .error .version
  | .flag => taken
  | .path => do
    let p ← taken
    if value.isEmpty then throw (.missingValue rule.long)
    pure p
  | .value check => do
    let p ← taken
    if !check value then throw (.invalidValue rule.long value)
    pure p

/-- Takes the option whose value has a word of its own. -/
def settle (p : Progress) : Except Refusal Progress :=
  match p.pending with
  | none => .ok p
  | some (rule, none) => .error (.missingValue rule.long)
  | some (rule, some value) => { p with pending := none }.take rule value

/-- Reads an option with what is attached to it. -/
def option (p : Progress) (rule : OptionRule) (attached : Option String) : Except Refusal Progress := do
  let p ← p.settle
  if rule.takesValue then
    match attached with
    | some value => p.take rule value
    | none => pure { p with pending := some (rule, none) }
  else p.take rule ""

/-- Reads a word behind two dashes. -/
def long (rules : List OptionRule) (p : Progress) (word : List Char) : Except Refusal Progress :=
  let (name, rest) := word.span (· ≠ '=')
  let attached := if rest.isEmpty then none else some (String.ofList (rest.drop 1))
  match rules.find? fun rule => rule.long = String.ofList name with
  | none => .error (.unknownArgument (String.ofList word))
  | some rule =>
    if !rule.takesValue && attached.isSome then .error (.unexpectedValue rule.long)
    else p.option rule attached

/-- Reads a word behind one dash: letters of flags, and the letter of an option with what is attached to it. -/
def short (rules : List OptionRule) (p : Progress) : List Char → Except Refusal Progress
  | [] => .ok p
  | c :: rest =>
    match rules.find? fun rule => rule.short = some c with
    | none => .error (.unknownArgument (String.ofList (c :: rest)))
    | some rule =>
      if rule.takesValue then
        match rest with
        | [] => p.option rule none
        | '=' :: value => p.option rule (some (String.ofList value))
        | value => p.option rule (some (String.ofList value))
      else do
        let p ← p.option rule none
        short rules p rest

/-- Reads all words. Behind two lone dashes no word is an option. -/
def words (rules : List OptionRule) (p : Progress) : List String → Except Refusal Progress
  | [] => p.settle
  | word :: rest =>
    match word.toList with
    | ['-', '-'] =>
      match rest with
      | [] => p.settle
      | word :: _ => .error (.unknownArgument word)
    | '-' :: '-' :: name => do words rules (← p.long rules name) rest
    | '-' :: c :: letters => do words rules (← p.short rules (c :: letters)) rest
    | _ =>
      match p.pending with
      | some (rule, none) => words rules { p with pending := some (rule, some word) } rest
      | _ => .error (.unknownArgument word)

end Progress

/-- The options of a command line with their values. Every command has options for help and for its version. -/
def parse (rules : List OptionRule) (words : List String) : Except Refusal (List (String × String)) := do
  let standard : List OptionRule := [⟨"help", some 'h', .help⟩, ⟨"version", some 'V', .version⟩]
  return (← Progress.start.words (rules ++ standard) words).given

/-- The value of an option that cannot be left out. -/
def required (given : List (String × String)) (name : String) : Except Refusal String :=
  match given.lookup name with
  | some value => .ok value
  | none => .error (.missingOption name)

/-! ## Values -/

/-- The number of bytes that a text of decimal digits, with a plus sign or without, stands for. It has 64 bits. -/
def byteCount? (text : String) : Option Nat :=
  let digits := match text.toList with
    | '+' :: rest => rest
    | rest => rest
  if digits.isEmpty || !digits.all Char.isDigit then none
  else
    let n := digits.foldl (fun n d => 10 * n + (d.toNat - '0'.toNat)) 0
    if n < UInt64.size then some n else none

/-- The option for the encoding of the script. -/
def encodingRule : OptionRule := ⟨"lang", some 'l', .value fun text => (Encoding.parse? text).isSome⟩

/-- The encoding that is given, or Shift JIS. -/
def encodingOf (given : List (String × String)) : Encoding :=
  ((given.lookup "lang").bind Encoding.parse?).getD .shiftJis

/-! ## Commands -/

/-- Assembling a project. -/
structure AssembleCommand where
  projectFolder : String
  output : String
  byteCap : Nat
  deriving DecidableEq, Repr

/-- Exporting a script as a project. -/
structure DisassembleCommand where
  input : String
  catalog : String
  output : String
  encoding : Encoding
  deriving DecidableEq, Repr

/-- Decompiling a script. -/
structure DecompileCommand where
  input : String
  catalog : String
  output : String
  mode : RenderMode
  encoding : Encoding
  deriving DecidableEq, Repr

/-- The options for a script, its catalog and the output. -/
def scriptRules : List OptionRule :=
  [⟨"input", some 'i', .path⟩, ⟨"catalog", some 'c', .path⟩, ⟨"output", some 'o', .path⟩, encodingRule]

def AssembleCommand.parse (words : List String) : Except Refusal AssembleCommand := do
  let given ← CommandLine.parse [⟨"project-dir", some 'p', .path⟩, ⟨"output", some 'o', .path⟩,
    ⟨"cap", none, .value fun text => (byteCount? text).isSome⟩] words
  let byteCap := ((given.lookup "cap").bind byteCount?).getD defaultByteCap
  return ⟨← required given "project-dir", ← required given "output", byteCap⟩

def DisassembleCommand.parse (words : List String) : Except Refusal DisassembleCommand := do
  let given ← CommandLine.parse scriptRules words
  return ⟨← required given "input", ← required given "catalog", ← required given "output", encodingOf given⟩

def DecompileCommand.parse (words : List String) : Except Refusal DecompileCommand := do
  let given ← CommandLine.parse (scriptRules ++ [⟨"raw", none, .flag⟩]) words
  let mode := if (given.lookup "raw").isSome then RenderMode.raw else .semantic
  return ⟨← required given "input", ← required given "catalog", ← required given "output", mode, encodingOf given⟩

/-- The wording of a refusal. -/
def Refusal.message : Refusal → String
  | .missingOption name => s!"the option --{name} is missing"
  | .repeatedOption name => s!"the option --{name} is given twice"
  | .missingValue name => s!"the option --{name} needs a value"
  | .invalidValue name value => s!"{value} is no value for --{name}"
  | .unexpectedValue name => s!"the option --{name} takes no value"
  | .unknownArgument word => s!"unknown argument: {word}"
  | .help => "usage: assemble -p PROJECT -o FILE [--cap BYTES] | disassemble -i FILE -c CATALOG -o PROJECT [-l ENCODING] | " ++
      "decompile -i FILE -c CATALOG -o FILE [-l ENCODING] [--raw]"
  | .version => "0.1.0"

end SceneScript.CommandLine
