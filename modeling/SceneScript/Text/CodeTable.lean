import SceneScript.Text.ByteDecoder

/-!
# Tables of two-byte codes

A table has a row for each lead byte and a column for each trail byte. A cell with no character holds the replacement character,
which is therefore never read from a table nor looked for in one.
-/

namespace SceneScript

/-- Rows and columns of characters. -/
abbrev CodeTable := Array (Array Char)

namespace CodeTable

/-- The table whose rows are the given texts. -/
def ofRows (rows : Array String) : CodeTable :=
  rows.map fun row => row.toList.toArray

/-- The character in a cell. -/
def char? (table : CodeTable) (row column : Nat) : Option Char := do
  let cells ← table[row]?
  let c ← cells[column]?
  if c = replacement then none else some c

/-- The first cell, row by row, that holds a character, among the rows that `admits` allows. -/
def position? (table : CodeTable) (admits : Nat → Bool) (c : Char) : Option (Nat × Nat) :=
  if c = replacement then none
  else (List.range table.size).findSome? fun row =>
    if admits row then do
      let cells ← table[row]?
      let column ← cells.findIdx? (· = c)
      some (row, column)
    else none

/-- A character is where it was found. -/
theorem char?_of_position? {table : CodeTable} {admits : Nat → Bool} {c : Char} {row column : Nat}
    (h : table.position? admits c = some (row, column)) : table.char? row column = some c ∧ admits row = true := by
  unfold position? at h
  split at h
  · simp at h
  next hc =>
    obtain ⟨r, -, hr⟩ := List.exists_of_findSome?_eq_some h
    split at hr
    next ha =>
      simp only [Option.bind_eq_bind, Option.bind_eq_some_iff, Option.some.injEq, Prod.mk.injEq] at hr
      obtain ⟨cells, hcells, k, hk, rfl, rfl⟩ := hr
      obtain ⟨hlt, hck, -⟩ := Array.findIdx?_eq_some_iff_getElem.1 hk
      have hcell : cells[k]? = some c := by
        rw [Array.getElem?_eq_getElem hlt]
        simpa using hck
      exact ⟨by simp [char?, hcells, hcell, hc], ha⟩
    · simp at hr

end CodeTable

end SceneScript
