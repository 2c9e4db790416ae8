import SceneScript.Error

/-!
# The symbol table

The texts of a script, in the order in which its instructions refer to them.
-/

namespace SceneScript

/-- A text of the table, and the position of its length. -/
structure Symbol where
  offset : Nat
  text : String
  deriving DecidableEq, Repr

/-- The texts of a script in order. -/
structure SymbolTable where
  symbols : List Symbol
  deriving DecidableEq, Repr

namespace SymbolTable

/-- How many symbols there are. -/
def size (table : SymbolTable) : Nat :=
  table.symbols.length

/-- The text with an index taken from a script, which may be anything. -/
def get (table : SymbolTable) (index : Int) : Except ScriptError String :=
  if index < 0 then .error (.symbolOutOfRange index table.size)
  else match table.symbols[index.toNat]? with
    | some symbol => .ok symbol.text
    | none => .error (.symbolOutOfRange index table.size)

end SymbolTable

end SceneScript
