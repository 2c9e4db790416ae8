/-!
# TOML values

A document is a table: names in order, each with a value. A table remembers how it came to be, since that decides what may still
be added to it.
-/

namespace SceneScript.Toml

/-- How a table came to be. -/
inductive Origin where
  /-- The header of a table inside it goes through it. -/
  | implied
  /-- A dotted key goes through it. -/
  | dotted
  /-- It has a header of its own, or is the whole document. -/
  | stated
  /-- It is written between braces, and complete. -/
  | inline
  deriving DecidableEq, Repr

/-- A value. -/
inductive Value where
  | string (text : String)
  | integer (n : Int)
  /-- A number with a fraction or an exponent, as it is written. -/
  | float (text : String)
  | boolean (b : Bool)
  /-- A date, a time or both, as it is written. -/
  | moment (text : String)
  | array (items : List Value)
  | table (origin : Origin) (entries : List (String × Value))
  /-- The tables that have a header in double brackets. -/
  | tables (items : List (List (String × Value)))
  deriving Repr

/-- The entries of a table. -/
abbrev Entries := List (String × Value)

/-- What makes a text no TOML document, or not the wanted one. -/
inductive Fault where
  | unexpectedCharacter
  | unexpectedEnd
  | invalidEscape
  | invalidNumber
  | tooDeep
  | duplicateKey
  | notATable
  | missingKey (key : String)
  | wrongType (key : String)
  deriving DecidableEq, Repr

end SceneScript.Toml
