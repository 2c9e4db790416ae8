import SceneScript.Proofs.DecodedLengths
import SceneScript.Proofs.Texts

/-!
# Names told by their size

A file whose first text has more than twenty characters is no script. Before the characters are counted, a text is turned away that has
more bytes than twenty characters take (`Header.readName?_eq_none_iff`). Where no byte order mark decides about the text, that test alone
never turns away a name, whatever its bytes are. It does where one decides: the mark is no character, and the characters behind it may
take more bytes than those of the encoding do. `Header.read?_eq_none_iff` says which files are turned away.
-/

namespace SceneScript

namespace Header

variable {buf text : Bytes} {declared : Int32} {next : Nat}

/-- The length in front of a text that is not an empty one without a terminator counts the terminator. -/
theorem size_of_readBytes (hdeclared : buf.readInt32 0 = .ok declared) (hone : 1 ≤ declared)
    (htext : StoredText.readBytes buf 0 = .ok (text, next)) : declared.toInt.toNat = text.size + 1 := by
  rw [Int32.le_iff_toInt_le, show (1 : Int32).toInt = 1 from rfl] at hone
  have hnonneg : ¬declared < 0 := by
    rw [Int32.lt_iff_toInt_lt, Int32.toInt_zero]
    omega
  simp only [StoredText.readBytes, hdeclared, bind_eq_ok_iff, pure_eq_ok_iff, if_neg hnonneg, Bytes.slice_eq_ok_iff, Prod.mk.injEq,
    Except.ok.injEq, exists_eq_left'] at htext
  obtain ⟨stored, ⟨hsize, -⟩, rfl, -⟩ := htext
  rw [Array.size_pop]
  omega

/-- A text is turned away for its bytes or for its characters. -/
theorem readName?_eq_none_iff (encoding : Encoding) (hdeclared : buf.readInt32 0 = .ok declared) (hone : 1 ≤ declared)
    (htext : StoredText.readBytes buf 0 = .ok (text, next)) :
    readName? buf encoding = .ok none ↔
      maxNameLength * encoding.maxCharLength < text.size ∨ maxNameLength < (encoding.decode text.toList).length := by
  have hsize := size_of_readBytes hdeclared hone htext
  have hread : StoredText.read buf 0 encoding = .ok (encoding.decode text.toList, next) := by
    rw [StoredText.read, htext]
    rfl
  simp only [readName?, hdeclared, hread, bind, Except.bind, pure, Except.pure, hsize]
  by_cases hbytes : maxNameLength * encoding.maxCharLength < text.size
  · rw [if_pos (.inr (by omega))]
    exact iff_of_true rfl (.inl hbytes)
  · rw [if_neg (by rw [not_or, Int32.not_lt]; exact ⟨hone, by omega⟩)]
    split
    next hlength => exact iff_of_true rfl (.inr hlength)
    next hlength => exact iff_of_false (by simp) (not_or.2 ⟨hbytes, hlength⟩)

/-- A file is turned away for its name alone. -/
theorem read?_eq_none_iff_readName? {buf : Bytes} {encoding : Encoding} :
    read? buf encoding = .ok none ↔ readName? buf encoding = .ok none := by
  rw [read?, bind_eq_ok_iff]
  constructor
  · rintro ⟨_ | ⟨name, roomAt⟩, hname, h⟩
    · exact hname
    · simp [bind_eq_ok_iff] at h
  · intro hname
    exact ⟨none, hname, rfl⟩

/-- A text that no byte order mark decides about has no more bytes than its characters could take, so its bytes turn it away only if its
characters do. -/
theorem lt_length_of_lt_size {encoding : Encoding} {text : Bytes} (hmarked : ¬encoding.Marked text.toList)
    (h : maxNameLength * encoding.maxCharLength < text.size) : maxNameLength < (encoding.decode text.toList).length := by
  have hlength := Encoding.length_le_mul_decodeChars hmarked
  rw [Encoding.decode, String.length_ofList]
  rw [Array.length_toList] at hlength
  refine Nat.lt_of_mul_lt_mul_left (a := encoding.maxCharLength) ?_
  rw [Nat.mul_comm]
  omega

/-- A file that starts with a text is turned away if that has more than twenty characters, and besides if a byte order mark decides about
it and it has more bytes than twenty characters of the encoding take. -/
theorem read?_eq_none_iff (encoding : Encoding) (hdeclared : buf.readInt32 0 = .ok declared) (hone : 1 ≤ declared)
    (htext : StoredText.readBytes buf 0 = .ok (text, next)) :
    read? buf encoding = .ok none ↔
      maxNameLength < (encoding.decode text.toList).length ∨
        encoding.Marked text.toList ∧ maxNameLength * encoding.maxCharLength < text.size := by
  rw [read?_eq_none_iff_readName?, readName?_eq_none_iff encoding hdeclared hone htext]
  constructor
  · rintro (hbytes | hlength)
    · by_cases hmarked : encoding.Marked text.toList
      · exact .inr ⟨hmarked, hbytes⟩
      · exact .inl (lt_length_of_lt_size hmarked hbytes)
    · exact .inl hlength
  · rintro (hlength | ⟨-, hbytes⟩)
    · exact .inr hlength
    · exact .inl hbytes

/-! ## A marked name -/

/-- Twenty letters in UTF-16, behind a byte order mark. -/
def sampleMarked : Bytes :=
  #[0xFE, 0xFF] ++ Bytes.concat (List.replicate 20 #[0x00, 0x41])

/-- A script of that name, with no symbols and no blocks. -/
def sampleMarkedHead : Bytes :=
  Texts.headBytes ⟨sampleMarked.push 0, #[0x52, 0], #[0x54, 0], []⟩ 0 71 71

theorem readInt32_sampleMarkedHead : sampleMarkedHead.readInt32 0 = .ok 43 := by decide +kernel

theorem readBytes_sampleMarkedHead : StoredText.readBytes sampleMarkedHead 0 = .ok (sampleMarked, 47) := by decide +kernel

theorem length_decode_sampleMarked (encoding : Encoding) (h : encoding ≠ .utf8) :
    (encoding.decode sampleMarked.toList).length = 20 := by
  rw [Encoding.decode, String.length_ofList]
  cases encoding with
  | utf8 => exact absurd rfl h
  | shiftJis => decide +kernel
  | gbk => decide +kernel

/-- The name has twenty characters in both double-byte encodings. In Shift_JIS it is turned away, and in GBK it is not. -/
theorem read?_sampleMarkedHead : (Encoding.shiftJis.decode sampleMarked.toList).length = maxNameLength ∧
    read? sampleMarkedHead .shiftJis = .ok none ∧ read? sampleMarkedHead .gbk ≠ .ok none := by
  have hiff (encoding : Encoding) :=
    read?_eq_none_iff encoding readInt32_sampleMarkedHead (by decide) readBytes_sampleMarkedHead
  have hbytes : Encoding.shiftJis.Marked sampleMarked.toList ∧
      maxNameLength * Encoding.shiftJis.maxCharLength < sampleMarked.size := by decide +kernel
  refine ⟨length_decode_sampleMarked .shiftJis (by decide), (hiff .shiftJis).2 (.inr hbytes), fun hnone => ?_⟩
  rcases (hiff .gbk).1 hnone with hlength | ⟨-, hsize⟩
  · rw [length_decode_sampleMarked .gbk (by decide)] at hlength
    exact absurd hlength (by decide)
  · exact absurd hsize (by decide +kernel)

/-- That characters alone turn a file away is false. -/
theorem read?_eq_none_iff_false :
    ¬∀ (encoding : Encoding) (buf text : Bytes) (declared : Int32) (next : Nat), buf.readInt32 0 = .ok declared → 1 ≤ declared →
      StoredText.readBytes buf 0 = .ok (text, next) →
      (read? buf encoding = .ok none ↔ maxNameLength < (encoding.decode text.toList).length) := by
  intro h
  have hlength := (h .shiftJis _ _ _ _ readInt32_sampleMarkedHead (by decide) readBytes_sampleMarkedHead).1 (by decide +kernel)
  rw [length_decode_sampleMarked .shiftJis (by decide)] at hlength
  exact absurd hlength (by decide)

end Header

end SceneScript
