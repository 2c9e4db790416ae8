import SceneScript.Proofs.Reload

/-!
# What reading looks at

Reading an instruction looks at its header and its parameters, and at the words that the lengths of payloads are read from, which may
be longer than the payloads (`Invocation.Reads`). Reading a script looks besides at the entries of the block table, and finds the same
in every file of the same size that agrees on these bytes: the same instructions in a region (`Decodes.of_agree`), and in the blocks of
a table (`Block.exists_readAll_of_agree`). Of the symbols, reading the table needs only how many there are.

The header and the symbols are read again when a text has given way to another one of the same size (`Texts.holds_headBytes_setStored`).
-/

namespace SceneScript

open Bytes

section

variable {buf other : Bytes} {catalog : Catalog}

/-- What stands in a file stands in every file of the same size that agrees with it there. -/
theorem Bytes.Holds.of_agree {part : Bytes} {pos : Nat} (h : buf.Holds pos part) (hsize : other.size = buf.size)
    (hsame : ∀ i, pos ≤ i → i < pos + part.size → other[i]? = buf[i]?) : other.Holds pos part := by
  have hle := h.le_size
  refine ⟨by omega, ?_⟩
  have hcut : other.extract pos (pos + part.size) = buf.extract pos (pos + part.size) := by
    refine Array.ext_getElem? fun i => ?_
    rw [Array.getElem?_extract, Array.getElem?_extract, hsize]
    by_cases hi : i < min (pos + part.size) buf.size - pos
    · rw [if_pos hi, if_pos hi, hsame (pos + i) (Nat.le_add_right ..) (by omega)]
    · rw [if_neg hi, if_neg hi]
  rw [hcut, h.2]

/-- Something stands in every part of a file. -/
theorem Bytes.exists_holds_of_le_size {pos count : Nat} (h : pos + count ≤ buf.size) :
    ∃ part : Bytes, part.size = count ∧ buf.Holds pos part := by
  have hslice : buf.slice pos count = .ok (buf.extract pos (pos + count)) := by
    rw [slice, bind_eq_ok_iff]
    exact ⟨(), ensure_eq_ok_iff.2 h, rfl⟩
  exact ⟨_, slice_eq_ok_iff.1 hslice⟩

/-! ## Instructions -/

/-- How many bytes at the start of a payload its length is read from. -/
def LengthRule.wordSize : LengthRule → Nat
  | .fixed _ => 0
  | .halfWord => 2
  | .word | .counted => 4

/-- How many bytes at the start of the payload its length is read from. -/
def Parameter.wordSize (parameter : Parameter) : Nat :=
  ((LengthRule.ofTag? parameter.tag).map LengthRule.wordSize).getD 0

/-- Reading the parameter looks at the byte: it belongs to the tag, to the payload or to the word that the length of the payload is
read from. -/
def Parameter.Reads (parameter : Parameter) (pos : Nat) : Prop :=
  parameter.offset ≤ pos + 2 ∧ pos < parameter.offset + max parameter.payload.size parameter.wordSize

/-- Reading the instruction looks at the byte: it belongs to the header, or reading a parameter looks at it. -/
def Invocation.Reads (invocation : Invocation) (pos : Nat) : Prop :=
  (invocation.address ≤ pos ∧ pos < invocation.address + headerSize) ∨ ∃ parameter ∈ invocation.parameters, parameter.Reads pos

theorem LengthRule.length_of_agree {rule : LengthRule} {pos : Nat} {length : Int} (h : rule.length buf pos = .ok length)
    (hsize : other.size = buf.size) (hsame : ∀ i, pos ≤ i → i < pos + rule.wordSize → other[i]? = buf[i]?) :
    rule.length other pos = .ok length := by
  cases rule with
  | fixed _ => exact h
  | halfWord =>
    simp only [LengthRule.length, bind_eq_ok_iff, readInt16_eq_ok_iff] at h ⊢
    obtain ⟨word, hword, hlength⟩ := h
    exact ⟨word, hword.of_agree hsize hsame, hlength⟩
  | word =>
    simp only [LengthRule.length, bind_eq_ok_iff, readInt32_eq_ok_iff] at h ⊢
    obtain ⟨word, hword, hlength⟩ := h
    exact ⟨word, hword.of_agree hsize hsame, hlength⟩
  | counted =>
    simp only [LengthRule.length, bind_eq_ok_iff, readInt32_eq_ok_iff] at h ⊢
    obtain ⟨word, hword, hlength⟩ := h
    exact ⟨word, hword.of_agree hsize hsame, hlength⟩

theorem readParameters_of_agree {count pos : Nat} {parameters : List Parameter} (h : readParameters buf count pos = .ok parameters)
    (hsize : other.size = buf.size) (hsame : ∀ parameter ∈ parameters, ∀ i, parameter.Reads i → other[i]? = buf[i]?) :
    readParameters other count pos = .ok parameters := by
  induction count generalizing pos parameters with
  | zero => exact h
  | succ count ih =>
    simp only [readParameters, bind_eq_ok_iff, pure_eq_ok_iff, readInt16_eq_ok_iff, slice_eq_ok_iff, parameterLength_eq_ok_iff] at h ⊢
    obtain ⟨tag, htag, length, ⟨rule, hrule, hlength⟩, payload, ⟨hpayloadSize, hpayload⟩, rest, hrest, rfl⟩ := h
    have hfirst := hsame _ (List.mem_cons_self ..)
    have hreads : ∀ i, pos ≤ i → i < pos + 2 + max payload.size rule.wordSize → (Parameter.mk tag (pos + 2) payload).Reads i := by
      intro i hle hlt
      simp only [Parameter.Reads, Parameter.wordSize, hrule, Option.map_some, Option.getD_some]
      omega
    refine ⟨tag, htag.of_agree hsize fun i hle hlt => ?_, length, ⟨rule, hrule, ?_⟩, payload, ⟨hpayloadSize, ?_⟩, rest, ?_, rfl⟩
    · have htwo : (ofInt16 tag).size = 2 := rfl
      exact hfirst i (hreads i hle (by omega))
    · exact LengthRule.length_of_agree hlength hsize fun i hle hlt => hfirst i (hreads i (by omega) (by omega))
    · exact hpayload.of_agree hsize fun i hle hlt => hfirst i (hreads i (by omega) (by omega))
    · exact ih hrest fun parameter hparameter => hsame parameter (List.mem_cons_of_mem _ hparameter)

theorem Invocation.read_of_agree {pos : Nat} {invocation : Invocation} (h : read buf catalog pos = .ok invocation)
    (hsize : other.size = buf.size) (hsame : ∀ i, invocation.Reads i → other[i]? = buf[i]?) :
    read other catalog pos = .ok invocation := by
  simp only [read, bind_eq_ok_iff, pure_eq_ok_iff, readInt16_eq_ok_iff, ensure_eq_ok_iff] at h ⊢
  obtain ⟨line, hline, unknown, hunknown, opcode, hopcode, count, hcount, _, hroom, command, hcommand, parameters, hparameters, rfl⟩ := h
  have hheader : ∀ i, pos ≤ i → i < pos + headerSize → other[i]? = buf[i]? := fun i hle hlt => hsame i (.inl ⟨hle, hlt⟩)
  have hword : ∀ (offset : Nat) {word : Int16}, offset + 2 ≤ headerSize → buf.Holds (pos + offset) (ofInt16 word) →
      other.Holds (pos + offset) (ofInt16 word) := by
    intro offset word hoffset hholds
    refine hholds.of_agree hsize fun i hle hlt => hheader i (by omega) ?_
    rw [size_ofInt16] at hlt
    omega
  exact ⟨line, hword 0 (by decide) hline, unknown, hword 2 (by decide) hunknown, opcode, hword 4 (by decide) hopcode, count,
    hword 6 (by decide) hcount, (), hsize ▸ hroom, command, hcommand, parameters,
    readParameters_of_agree hparameters hsize fun parameter hparameter i hreads => hsame i (.inr ⟨parameter, hparameter, hreads⟩), rfl⟩

/-- The instructions of a region are found again. -/
theorem Decodes.of_agree {stop pos : Nat} {invocations : List Invocation} (h : Decodes buf catalog stop pos invocations)
    (hsize : other.size = buf.size) (hsame : ∀ invocation ∈ invocations, ∀ i, invocation.Reads i → other[i]? = buf[i]?) :
    Decodes other catalog stop pos invocations := by
  induction h with
  | trailer hstop => exact .trailer hstop
  | next hroom hread hfit _ ih =>
    exact .next hroom (Invocation.read_of_agree hread hsize (hsame _ (List.mem_cons_self ..))) hfit
      (ih fun invocation hinvocation => hsame invocation (List.mem_cons_of_mem _ hinvocation))

/-! ## Blocks -/

namespace Block

/-- The byte belongs to the table entry of the block. -/
def ReadsEntry (block : Block) (pos : Nat) : Prop :=
  block.address ≤ pos ∧ pos < block.address + Header.blockEntrySize

variable {symbols symbols' : SymbolTable} {tableEnd tableEnd' count entry first : Nat} {blocks : List Block}
  {invocations : List Invocation}

/-- Each block has its entry in the table, and its start stands there. -/
theorem holds_start_of_readAll (h : readAll buf catalog symbols tableEnd count entry first = .ok (blocks, invocations)) :
    ∀ block ∈ blocks, buf.Holds (block.address + 4) (ofUInt32 block.start) ∧
      block.address < entry + Header.blockEntrySize * count := by
  intro block hblock
  obtain ⟨number, hlt, _, _, hread⟩ := exists_read_of_mem h block hblock
  obtain ⟨_, _, _, _, _, hholds, -, -, -, rfl⟩ := read_eq_ok_iff.1 hread
  rw [holds_append, holds_append] at hholds
  exact ⟨hholds.2.2, Nat.add_lt_add_left (Nat.mul_lt_mul_of_pos_left hlt (by decide)) _⟩

/-- The first entry of a table is that of a block. -/
theorem exists_address_eq_of_readAll (hpos : 0 < count)
    (h : readAll buf catalog symbols tableEnd count entry first = .ok (blocks, invocations)) : ∃ block ∈ blocks, block.address = entry := by
  obtain ⟨count, rfl⟩ := Nat.exists_eq_add_one_of_ne_zero (Nat.ne_of_gt hpos)
  obtain ⟨block, own, others, _, hread, -, rfl, -⟩ := readAll_succ_eq_ok_iff.1 h
  obtain ⟨_, _, _, _, _, -, -, -, -, hblock⟩ := read_eq_ok_iff.1 hread
  exact ⟨block, List.mem_cons_self .., by rw [hblock]⟩

/-- The region of a block ends where it did, if the next entry of the table is the same. Only the last entry has none. -/
theorem regionEnd_of_agree {stop : Nat} (h : regionEnd buf tableEnd entry = .ok stop) (hsize : other.size = buf.size)
    (hlast : tableEnd ≤ entry + Header.blockEntrySize ↔ tableEnd' ≤ entry + Header.blockEntrySize)
    (hsame : ¬ tableEnd ≤ entry + Header.blockEntrySize →
      ∀ i, entry + 8 ≤ i → i < entry + 16 → other[i]? = buf[i]?) : regionEnd other tableEnd' entry = .ok stop := by
  unfold regionEnd at h ⊢
  by_cases hend : tableEnd ≤ entry + Header.blockEntrySize
  · rw [if_pos hend] at h
    rw [if_pos (hlast.1 hend), hsize]
    exact h
  · rw [if_neg hend] at h
    rw [if_neg (mt hlast.2 hend)]
    simp only [bind_eq_ok_iff, readUInt32_eq_ok_iff, Header.blockEntrySize] at h ⊢
    obtain ⟨word, hword, hstop⟩ := h
    refine ⟨word, hword.of_agree hsize fun i hle hlt => hsame hend i (by omega) ?_, hstop⟩
    rw [size_ofUInt32] at hlt
    omega

/-- The blocks of a table are found again, with the same instructions, by the names that the symbols have now. The two ends of the
table may differ as long as it has the same number of entries. -/
theorem exists_readAll_of_agree (h : readAll buf catalog symbols tableEnd count entry first = .ok (blocks, invocations))
    (hcount : (tableEnd - entry + (Header.blockEntrySize - 1)) / Header.blockEntrySize = count)
    (hcount' : (tableEnd' - entry + (Header.blockEntrySize - 1)) / Header.blockEntrySize = count)
    (hlength : symbols'.symbols.length = symbols.symbols.length) (hsize : other.size = buf.size)
    (hentry : ∀ block ∈ blocks, ∀ i, block.ReadsEntry i → other[i]? = buf[i]?)
    (hsame : ∀ invocation ∈ invocations, ∀ i, invocation.Reads i → other[i]? = buf[i]?) :
    ∃ renamed, readAll other catalog symbols' tableEnd' count entry first = .ok (renamed, invocations) ∧
      renamed.map unnamed = blocks.map unnamed := by
  induction count generalizing entry first blocks invocations with
  | zero =>
    obtain ⟨rfl, rfl⟩ := readAll_zero_eq_ok_iff.1 h
    exact ⟨[], readAll_zero_eq_ok_iff.2 ⟨rfl, rfl⟩, rfl⟩
  | succ count ih =>
    obtain ⟨_, own, rest, others, hread, hrest, rfl, rfl⟩ := readAll_succ_eq_ok_iff.1 h
    obtain ⟨nameIndex, recordedCount, start, name, stop, hholds, hname, hstop, hown, rfl⟩ := read_eq_ok_iff.1 hread
    simp only [Header.blockEntrySize] at hcount hcount' ih hrest
    obtain ⟨renamed, hrenamed, hunnamed⟩ := ih hrest (by omega) (by omega)
      (fun block hblock => hentry block (List.mem_cons_of_mem _ hblock))
      (fun invocation hinvocation => hsame invocation (List.mem_append_right _ hinvocation))
    obtain ⟨symbol, hsymbol, -⟩ := SymbolTable.get_natCast_eq_ok_iff.1 hname
    obtain ⟨hlt, -⟩ := List.getElem?_eq_some_iff.1 hsymbol
    have hname' : symbols'.get nameIndex.toNat = .ok symbols'.symbols[nameIndex.toNat].text :=
      SymbolTable.get_natCast_eq_ok_iff.2 ⟨_, List.getElem?_eq_getElem (by omega), rfl⟩
    have hfirst := hentry _ (List.mem_cons_self ..)
    have hstop' : regionEnd other tableEnd' entry = .ok stop := by
      refine regionEnd_of_agree hstop hsize (by simp only [Header.blockEntrySize]; omega) fun hmore i hle hlt => ?_
      -- The next entry is that of the next block.
      obtain ⟨next, hnext, haddress⟩ := exists_address_eq_of_readAll (by simp only [Header.blockEntrySize] at hmore; omega) hrest
      exact hentry next (List.mem_cons_of_mem _ hnext) i ⟨by omega, by simp only [Header.blockEntrySize]; omega⟩
    have hholds' : other.Holds entry (ofUInt16 nameIndex ++ (ofUInt16 recordedCount ++ ofUInt32 start)) :=
      hholds.of_agree hsize fun i hle hlt => hfirst i ⟨hle, by simpa [Header.blockEntrySize] using hlt⟩
    have hown' : Decodes other catalog stop start.toNat own :=
      hown.of_agree hsize fun invocation hinvocation => hsame invocation (List.mem_append_left _ hinvocation)
    have hread' := (@read_eq_ok_iff other catalog symbols' tableEnd' entry first _ own).2
      ⟨nameIndex, recordedCount, start, _, stop, hholds', hname', hstop', hown', rfl⟩
    refine ⟨_, readAll_succ_eq_ok_iff.2 ⟨_, own, renamed, others, hread', hrenamed, rfl, rfl⟩, ?_⟩
    rw [List.map_cons, List.map_cons, hunnamed]
    rfl

end Block

/-! ## Headers -/

variable {texts : Texts} {number : Nat} {blockCount : UInt16} {symbolTableEnd blockTableEnd blockTableEnd' : UInt32} {stored : Bytes}

/-- The head of a file holds another symbol and another end of the block table once these stand in their places, if the symbol is as
long as before and the rest of the file is the same. -/
theorem Texts.holds_headBytes_setStored (h : buf.Holds 0 (texts.headBytes blockCount symbolTableEnd blockTableEnd))
    (hnumber : number < texts.symbols.length) (hsize : other.size = buf.size) (hstored : stored.size = (texts.stored number).size)
    (htext : other.Holds (texts.symbolOffset number + 4) stored)
    (hword : other.Holds (texts.identityBytes.size + 8) (ofUInt32 blockTableEnd'))
    (hsame : ∀ i, (i < texts.symbolOffset number + 4 ∨ texts.symbolOffset number + 4 + stored.size ≤ i) →
      OutsideWord (texts.identityBytes.size + 8) i → other[i]? = buf[i]?) :
    other.Holds 0 ((texts.setStored number stored).headBytes blockCount symbolTableEnd blockTableEnd') := by
  have hnumber' : number < (texts.setStored number stored).symbols.length := by simpa [setStored] using hnumber
  have hself : (texts.setStored number stored).stored number = stored := by simp [setStored, Texts.stored, hnumber]
  have hidentity : (texts.setStored number stored).identityBytes = texts.identityBytes := rfl
  have hstart : texts.symbolOffset number =
      texts.identityBytes.size + 12 + (concat ((texts.symbols.take number).map StoredText.written)).size := rfl
  rw [headBytes, symbolBytes_eq_append hnumber] at h
  rw [headBytes, symbolBytes_eq_append hnumber', hself, hidentity]
  simp only [StoredText.written, holds_append, size_ofUInt16, size_ofUInt32, Array.size_append, Nat.zero_add, Nat.add_assoc, setStored,
    List.length_set, List.take_set_of_le (Nat.le_refl _), List.drop_set_of_lt (Nat.lt_succ_self _), hstored] at h hsame hword htext hstart ⊢
  obtain ⟨hidentity, hsymbolCount, hblockCount, hsymbolTableEnd, -, hfront, ⟨hlength, -⟩, hrest⟩ := h
  have hbefore : ∀ {part : Bytes} {pos : Nat}, pos + part.size ≤ texts.identityBytes.size + 8 → buf.Holds pos part → other.Holds pos part :=
    fun hle hholds => hholds.of_agree hsize fun i _ hlt => hsame i (.inl (by omega)) (.inl (by omega))
  refine ⟨hbefore (by omega) hidentity, hbefore (by simp) hsymbolCount, hbefore (by simp) hblockCount,
    hbefore (by simp) hsymbolTableEnd, hword, ?_, ⟨?_, ?_⟩, ?_⟩
  · exact hfront.of_agree hsize fun i hle hlt => hsame i (.inl (by omega)) (.inr (by omega))
  · exact hlength.of_agree hsize fun i hle hlt => hsame i (.inl (by simp only [size_ofUInt32] at hlt; omega)) (.inr (by omega))
  · exact htext.cast (by omega)
  · exact hrest.of_agree hsize fun i hle hlt => hsame i (.inr (by omega)) (.inr (by omega))

/-- Texts can be read with another symbol of the same size. -/
theorem Texts.Readable.setStored {encoding : Encoding} (h : texts.Readable encoding) (hnumber : number < texts.symbols.length)
    (hstored : stored.size = (texts.stored number).size) : (texts.setStored number stored).Readable encoding := by
  have hlt := h.size_stored_lt hnumber
  refine ⟨h.name, h.room_size, h.time_size, fun other hother => ?_, ?_⟩
  · rcases List.mem_or_eq_of_mem_set hother with hother | rfl
    · exact h.symbol_size other hother
    · rw [hstored]
      exact hlt
  · simpa [Texts.setStored] using h.symbols_length

end

end SceneScript
