import SceneScript.Toml.Value

/-!
# Filling tables

Values are put into a table under a path of names, which makes the tables in between. A name has one value, and a table takes no
entries but where the document states it: not from the outside once it is complete, and not by dotted keys once it has a header.
-/

namespace SceneScript.Toml

/-- A key with its value. -/
structure Assignment where
  path : List String
  value : Value
  deriving Repr

namespace Entries

/-- The value of a name. -/
def get? (entries : Entries) (name : String) : Option Value :=
  entries.lookup name

/-- Gives a name the value that `f` makes of the one it has. The place of a name that is there already stays. -/
def update (f : Option Value → Except Fault Value) (name : String) : Entries → Except Fault Entries
  | [] => return [(name, ← f none)]
  | (other, value) :: rest => do
    if other = name then return (name, ← f (some value)) :: rest
    else return (other, value) :: (← update f name rest)

/-- Changes the last of a list. -/
def updateLast (f : Entries → Except Fault Entries) : List Entries → Except Fault (List Entries)
  | [] => .ok []
  | [last] => return [← f last]
  | first :: rest => return first :: (← updateLast f rest)

/-! ## Keys with values -/

/-- Puts a value under a path of dotted names. The tables on the way must come from dotted keys, the last one always, the others
unless a header goes through them. -/
def assign (value : Value) : List String → Entries → Except Fault Entries
  | [], _ => .error .notATable
  | [name], entries => entries.update (fun old => if old.isSome then .error .duplicateKey else .ok value) name
  | name :: next :: path, entries => entries.update (fun
    | none => return .table .dotted (← assign value (next :: path) [])
    | some (.table .dotted inner) => return .table .dotted (← assign value (next :: path) inner)
    | some (.table .implied inner) =>
      if path.isEmpty then .error .duplicateKey else return .table .implied (← assign value (next :: path) inner)
    | some (.tables items) =>
      if path.isEmpty then .error .duplicateKey else return .tables (← updateLast (assign value (next :: path)) items)
    | some (.table _ _) => .error .duplicateKey
    | some _ => .error .notATable) name

/-- Puts keys with their values into a table, one after another. -/
def assignAll (entries : Entries) (assignments : List Assignment) : Except Fault Entries :=
  assignments.foldlM (fun entries a => entries.assign a.value a.path) entries

/-! ## Tables with headers -/

/-- Changes the value of the last name of a path of headers. The tables on the way are made where they are missing, and a name for
several tables means the last one. -/
def underHeader (f : Option Value → Except Fault Value) : List String → Entries → Except Fault Entries
  | [], _ => .error .notATable
  | [name], entries => entries.update f name
  | name :: next :: path, entries => entries.update (fun
    | none => return .table .implied (← underHeader f (next :: path) [])
    | some (.table .inline _) => .error .notATable
    | some (.table origin inner) => return .table origin (← underHeader f (next :: path) inner)
    | some (.tables items) => return .tables (← updateLast (underHeader f (next :: path)) items)
    | some _ => .error .notATable) name

/-- States a table with its entries. It may be there already if headers go through it. -/
def stateTable (assignments : List Assignment) : List String → Entries → Except Fault Entries :=
  underHeader fun
    | none => return .table .stated (← assignAll [] assignments)
    | some (.table .implied inner) => return .table .stated (← assignAll inner assignments)
    | some _ => .error .duplicateKey

/-- Adds a table to those of one name. -/
def addTable (assignments : List Assignment) : List String → Entries → Except Fault Entries :=
  underHeader fun
    | none => return .tables [← assignAll [] assignments]
    | some (.tables items) => return .tables (items ++ [← assignAll [] assignments])
    | some _ => .error .duplicateKey

end Entries

end SceneScript.Toml
