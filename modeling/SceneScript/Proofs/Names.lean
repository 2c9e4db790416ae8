import SceneScript.Proofs.DecodedLengths
import SceneScript.Proofs.Texts

/-!
# Names in Shift_JIS

A name is told from other bytes by its size alone, before its characters are counted. In Shift_JIS that rejects no text that has
been written with few enough characters: two bytes give at least one character (`Encoding.length_le_mul_decodeChars`), as what is
written never starts with a byte order mark (`ShiftJis.marked?_encodeChars`).
-/

namespace SceneScript

namespace ShiftJis

/-- A byte that no byte order mark starts with. -/
def IsUnmarked (b : UInt8) : Prop :=
  b ≠ 0xEF ∧ b ≠ 0xFE ∧ b ≠ 0xFF

theorem isUnmarked_ofNat {n : Nat} (hlt : n < 0xFE) (hne : n ≠ 0xEF) : IsUnmarked (UInt8.ofNat n) := by
  have hnat : (UInt8.ofNat n).toNat = n := by
    rw [UInt8.toNat_ofNat']
    omega
  refine ⟨?_, ?_, ?_⟩ <;>
  · intro heq
    rw [heq] at hnat
    simp at hnat
    omega

/-- The lead byte of a code that is written starts no byte order mark. -/
theorem isUnmarked_lead {row : Nat} (hrow : row < 60) (hwritten : isWritten row = true) :
    IsUnmarked (UInt8.ofNat (if row < 31 then 0x81 + row else 0xC1 + row)) := by
  simp only [isWritten, Bool.or_eq_true, decide_eq_true_eq] at hwritten
  split
  · exact isUnmarked_ofNat (by omega) (by omega)
  · exact isUnmarked_ofNat (by omega) (by omega)

/-- A code that is written stands in one of the rows of the table. -/
theorem row_lt_of_position? {c : Char} {row column : Nat} (h : table.position? isWritten c = some (row, column)) :
    row < 60 ∧ isWritten row = true := by
  obtain ⟨hcell, hwritten⟩ := CodeTable.char?_of_position? h
  simp only [CodeTable.char?, Option.bind_eq_bind, Option.bind_eq_some_iff] at hcell
  obtain ⟨cells, hcells, -⟩ := hcell
  obtain ⟨hlt, -⟩ := Array.getElem?_eq_some_iff.1 hcells
  have hsize : table.size = 60 := Array.size_map ..
  exact ⟨by omega, hwritten⟩

/-- A character reference starts with an ampersand. -/
theorem exists_reference_eq_cons (c : Char) : ∃ rest, Encoding.reference c = 0x26 :: rest := by
  have happend : (s!"&#{c.toNat};").toList = '&' :: ('#' :: (toString c.toNat).toList ++ [';']) := by
    simp only [String.toList_append]
    rfl
  rw [Encoding.reference, happend, List.map_cons]
  exact ⟨_, rfl⟩

/-- What a character is written as does not start a byte order mark. -/
theorem exists_encodeChar_eq_cons (c : Char) :
    ∃ b rest, Encoding.shiftJis.encodeChar c = b :: rest ∧ IsUnmarked b := by
  unfold Encoding.encodeChar Encoding.encodeChar? encodeChar?
  dsimp only
  split
  next hascii => exact ⟨_, _, rfl, isUnmarked_ofNat (by omega) (by omega)⟩
  split
  next => exact ⟨_, _, rfl, @isUnmarked_ofNat 0x5C (by decide) (by decide)⟩
  split
  next => exact ⟨_, _, rfl, @isUnmarked_ofNat 0x7E (by decide) (by decide)⟩
  split
  next hkana => exact ⟨_, _, rfl, isUnmarked_ofNat (by omega) (by omega)⟩
  next =>
    generalize (if c.toNat = 0x2212 then '\uFF0D' else c) = form
    cases hposition : table.position? isWritten form with
    | none =>
      obtain ⟨rest, hrest⟩ := exists_reference_eq_cons c
      exact ⟨_, rest, hrest, @isUnmarked_ofNat 0x26 (by decide) (by decide)⟩
    | some cell =>
      obtain ⟨hrow, hwritten⟩ := row_lt_of_position? hposition
      exact ⟨_, _, rfl, isUnmarked_lead hrow hwritten⟩

/-- What a text is written as has no byte order mark. -/
theorem marked?_encodeChars (text : List Char) : Encoding.marked? (Encoding.shiftJis.encodeChars text) = none := by
  cases text with
  | nil => rfl
  | cons c text =>
    obtain ⟨b, rest, hchar, hef, hfe, hff⟩ := exists_encodeChar_eq_cons c
    rw [Encoding.encodeChars, List.flatMap_cons, hchar, List.cons_append]
    unfold Encoding.marked?
    split
    next heq => exact absurd (List.cons.inj heq).1 hef
    next heq => exact absurd (List.cons.inj heq).1 hfe
    next heq => exact absurd (List.cons.inj heq).1 hff
    next => rfl

end ShiftJis

namespace Encoding

/-- A text is written in Shift_JIS with at most two bytes for each character that is read back. -/
theorem length_encode_le (text : String) :
    (shiftJis.encode text).length ≤ 2 * (shiftJis.decode (shiftJis.encode text)).length := by
  have hmarked : ¬shiftJis.Marked (shiftJis.encode text) := by
    rintro ⟨-, hsome⟩
    rw [encode, ShiftJis.marked?_encodeChars] at hsome
    cases hsome
  rw [decode, String.length_ofList]
  exact length_le_mul_decodeChars hmarked

/-- A text that is read back as a name of a few characters passes for one. -/
theorem isName_encode {text : String} (h : (shiftJis.decode (shiftJis.encode text)).length ≤ Header.maxNameLength) :
    IsName shiftJis ((shiftJis.encode text).toArray.push 0) := by
  have hlength := length_encode_le text
  simp only [Header.maxNameLength] at h
  refine ⟨?_, ?_, ?_⟩
  · simp
  · simp only [Array.size_push, List.size_toArray, Header.maxNameLength, maxCharLength]
    omega
  · simpa [Header.maxNameLength] using h

end Encoding

end SceneScript
