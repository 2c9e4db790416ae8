import SceneScript.Proofs.EditFrame
import SceneScript.Proofs.Locality

/-!
# Texts of the same length

An edit writes the ends of both tables and the starts of all blocks, even if nothing moves. The words that are moved are then written
as they were. The end of the block table is not moved but counted from the end of the symbol table, so it changes in a header that is
out of step with its count of blocks (`Header.recounted`). A text that is stored with as many bytes as the old one replaces the bytes
of the text, and those of this word in such a header, and nothing else (`Script.sameLength_edit`).

The edited file has the same blocks and instructions as long as neither the count changes how many entries the block table has, nor the
replaced bytes are looked at when the blocks are read. A file that is read at all need not be of this kind (`Script.sameLength_edit_false`).
-/

namespace SceneScript

open Bytes

/-! ## Writes that change nothing -/

theorem Bytes.holds_replaceRange {buf content : Bytes} {start stop : Nat} (hstart : start ≤ buf.size) :
    (buf.replaceRange start stop content).Holds start content := by
  have hfront : (buf.extract 0 start).size = start := by
    rw [Array.size_extract]
    omega
  have hmiddle := holds_middle (buf.extract 0 start) content (buf.extract stop buf.size)
  rwa [hfront] at hmiddle

/-- The change is a write that leaves the byte at a position, or puts back the word that stands in a file. -/
def Change.Keeps (file : Bytes) (pos : Nat) : Change → Prop
  | splice _ _ _ => False
  | word offset value => OutsideWord offset pos ∨ file.Holds offset (ofUInt32 value)

/-- Writes that leave a byte, or put back what stands in a file, keep a byte of that file. -/
theorem getElem?_foldlM_perform_of_keeps {changes : List Change} {file buf out : Bytes} {pos : Nat}
    (h : ∀ change ∈ changes, change.Keeps file pos) (hsame : buf[pos]? = file[pos]?)
    (hout : changes.foldlM Change.perform buf = .ok out) : out[pos]? = file[pos]? := by
  induction changes generalizing buf with
  | nil =>
    cases hout
    exact hsame
  | cons change rest ih =>
    obtain ⟨next, hnext, hrest⟩ := foldlM_perform_cons.1 hout
    refine ih (fun other hother => h other (List.mem_cons_of_mem _ hother)) ?_ hrest
    have hkeeps := h change (List.mem_cons_self ..)
    cases change with
    | splice start stop content => exact hkeeps.elim
    | word offset value =>
      by_cases houtside : OutsideWord offset pos
      · rw [← hsame]
        exact @Change.getElem?_perform (.word offset value) _ _ _ houtside hnext
      · have hfile := hkeeps.resolve_left houtside
        obtain ⟨hfits, rfl⟩ := writeUInt32_eq_ok_iff.1 hnext
        rw [OutsideWord, not_or, Nat.not_lt, Nat.not_le] at houtside
        exact (holds_replaceRange (by omega)).getElem?_eq hfile houtside.1 houtside.2

/-- Without a difference in length nothing moves. -/
theorem Patch.moved_of_lengthDelta_eq_zero {patch : Patch} (h : patch.lengthDelta = 0) {pos : Nat} (hlt : pos < UInt64.size) :
    patch.moved pos = pos := by
  by_cases hbehind : patch.offset < pos
  · exact Patch.moved_of_lt hbehind (by omega) hlt
  · exact Patch.moved_of_le (Nat.not_lt.1 hbehind)

/-! ## The end of the block table -/

/-- The header with the end of the block table counted from that of the symbol table. -/
def Header.recounted (header : Header) : Header :=
  { header with blockTableEnd := header.symbolTableEnd + UInt32.ofNat (blockEntrySize * header.blockCount.toNat) }

namespace Script

/-- The repairs if nothing moves. -/
def recounts (script : Script) : List Change :=
  .word script.header.symbolTableEndOffset script.header.symbolTableEnd ::
    .word script.header.blockTableEndOffset script.header.recounted.blockTableEnd ::
    script.blocks.map fun block => .word (block.address + 4) block.start

/-- An edit that stores a text of the same length may change the byte: it belongs to the `size` bytes of the text that is stored at
`offset`, or to the end of the block table, if that is not where the header puts it. -/
def Rewrites (script : Script) (offset size pos : Nat) : Prop :=
  (offset + 4 ≤ pos ∧ pos < offset + 4 + size) ∨
    (script.header.recounted ≠ script.header ∧ ¬ OutsideWord script.header.blockTableEndOffset pos)

/-- Reading the blocks looks at the byte: it belongs to an entry of the block table, or reading an instruction looks at it. -/
def Reads (script : Script) (pos : Nat) : Prop :=
  (∃ block ∈ script.blocks, block.ReadsEntry pos) ∨ ∃ invocation ∈ script.invocations, invocation.Reads pos

theorem repairs_of_lengthDelta_eq_zero {script : Script} {patch : Patch} (h : patch.lengthDelta = 0)
    (hends : script.header.symbolTableEndOffset ≤ patch.offset ∧ script.header.blockTableEndOffset ≤ patch.offset)
    (haddress : ∀ block ∈ script.blocks, block.address + 4 < UInt64.size) : script.repairs patch = script.recounts := by
  have hword : ∀ word : UInt32, patch.moved word.toNat = word.toNat := fun word =>
    Patch.moved_of_lengthDelta_eq_zero h (Nat.lt_trans word.toNat_lt (by decide))
  have hblocks : ∀ block ∈ script.blocks, Change.word ((patch.moved block.address + 4) % UInt64.size)
      (UInt32.ofNat (patch.moved block.start.toNat)) = .word (block.address + 4) block.start := by
    intro block hblock
    have hlt := haddress block hblock
    rw [Patch.moved_of_lengthDelta_eq_zero h (by omega), hword, Nat.mod_eq_of_lt hlt, UInt32.ofNat_toNat]
  rw [repairs, List.map_congr_left hblocks]
  simp only [hword, Patch.moved_of_le hends.1, Patch.moved_of_le hends.2, UInt32.ofNat_add, UInt32.ofNat_toNat]
  rfl

theorem rebaseHeader_of_lengthDelta_eq_zero {patch : Patch} (h : patch.lengthDelta = 0) (header : Header) :
    rebaseHeader patch header = header.recounted := by
  rw [rebaseHeader, Patch.moved_of_lengthDelta_eq_zero h (Nat.lt_trans header.symbolTableEnd.toNat_lt (by decide)), UInt32.ofNat_toNat]
  rfl

end Script

/-! ## The file after the edit -/

/-- Text of the same length leaves every byte outside of the text, also those of the length in front of it. -/
theorem TextEdit.getElem?_splice_of_size_eq {edit : TextEdit} {buf out : Bytes} {pos : Nat} (hsize : edit.new.size = edit.old.size)
    (hold : buf.Holds edit.offset (StoredText.unterminated edit.old))
    (h : (Change.splice edit.offset edit.stop (StoredText.unterminated edit.new)).perform buf = .ok out)
    (hpos : pos < edit.offset + 4 ∨ edit.stop ≤ pos) : out[pos]? = buf[pos]? := by
  by_cases houtside : pos < edit.offset ∨ edit.stop ≤ pos
  · have hmoved : edit.moved pos = pos := by
      rw [stop] at houtside
      rw [moved, stop]
      split <;> omega
    rw [← getElem?_splice h houtside, hmoved]
  · obtain ⟨⟨hstart, hstop⟩, hout⟩ := Change.perform_splice_eq_ok_iff.1 h
    have hnew : out.Holds edit.offset (StoredText.unterminated edit.new) := by
      rw [hout]
      exact holds_replaceRange (Nat.le_trans hstart hstop)
    rw [StoredText.unterminated, hsize, holds_append] at hnew
    rw [StoredText.unterminated, holds_append] at hold
    have hinside : edit.offset ≤ pos ∧ pos < edit.offset + 4 := by omega
    exact hnew.1.getElem?_eq hold.1 hinside.1 hinside.2

namespace Script

variable {script edited : Script} {catalog : Catalog} {index cap next : Nat} {text : String} {line : DialogueLine} {old : Bytes}
  {outcome : EditOutcome}

/-- What a file that has been read starts with, and where a line stands in it. -/
theorem exists_texts_of_line (hparse : parse? script.bytes catalog script.encoding = .ok (some script))
    (hline : script.line index = .ok line) :
    ∃ (texts : Texts) (blockCount : UInt16) (symbolTableEnd blockTableEnd : UInt32), texts.Readable script.encoding ∧
      script.bytes.Holds 0 (texts.headBytes blockCount symbolTableEnd blockTableEnd) ∧
      script.header = texts.header script.encoding blockCount symbolTableEnd blockTableEnd ∧
      script.symbols = texts.symbolTable script.encoding ∧ line.symbolIndex < texts.symbols.length ∧
      line.offset = texts.symbolOffset line.symbolIndex ∧
      Block.readTable script.bytes catalog script.header script.symbols = .ok (script.blocks, script.invocations) := by
  obtain ⟨header, symbols, blocks, invocations, hheader, htable, hscript⟩ := parse?_eq_ok_some_iff.1 hparse
  obtain ⟨texts, blockCount, symbolTableEnd, blockTableEnd, hreadable, hholds, rfl, rfl⟩ := Header.read?_eq_ok_some_iff.1 hheader
  have hmem := mem_of_line hline
  rw [hscript] at hmem
  have hsymbol := Dialogue.isSymbol_of_mem_extract hmem
  have hlt := hsymbol.symbolIndex_lt
  obtain ⟨symbol, hfound, -, hoffset⟩ := hsymbol
  rw [Texts.symbolTable_getElem? _ hlt, Option.some.injEq] at hfound
  rw [← hfound] at hoffset
  have hheader := congrArg Script.header hscript
  have hsymbols := congrArg Script.symbols hscript
  have hblocks := congrArg Script.blocks hscript
  have hinvocations := congrArg Script.invocations hscript
  simp only at hheader hsymbols hblocks hinvocations
  rw [← hheader, ← hsymbols, ← hblocks, ← hinvocations] at htable
  exact ⟨texts, blockCount, symbolTableEnd, blockTableEnd, hreadable, hholds, hheader, hsymbols, hlt, hoffset, htable⟩

/-- The changes that an edit makes for a text of the same length. -/
theorem exists_splice_of_edit (hline : script.line index = .ok line) (hnew : line.text ≠ text)
    (hold : StoredText.readBytes script.bytes line.offset = .ok (old, next))
    (hlength : (script.encoding.capLine text cap).bytes.length = old.size)
    (hedit : script.edit index text cap = .ok (edited, outcome))
    (hends : script.header.symbolTableEndOffset ≤ line.offset ∧ script.header.blockTableEndOffset ≤ line.offset)
    (haddress : ∀ block ∈ script.blocks, block.address + 4 < UInt64.size) :
    ∃ edit : TextEdit, edit.offset = line.offset ∧ edit.old = old ∧ edit.new.size = old.size ∧
      script.bytes.Holds line.offset (StoredText.unterminated old) ∧ edited.header = script.header.recounted ∧
      (Change.splice edit.offset edit.stop (StoredText.unterminated edit.new) :: script.recounts).foldlM Change.perform script.bytes =
        .ok edited.bytes := by
  obtain ⟨patch, declared, old', next', hdeclared, hterminated, hread, hoffset, htext, hdelta, hchanges, hfile, hedited, -, -⟩ :=
    exists_patch_of_edit hline hnew hedit
  rw [hold, Except.ok.injEq, Prod.mk.injEq] at hread
  obtain ⟨rfl, -⟩ := hread
  have hsize : patch.newText.size = old.size := by
    rw [htext, List.size_toArray, hlength]
  have hnothing : patch.lengthDelta = 0 := by
    rw [hdelta, hsize, Int.sub_self]
  rw [hchanges, repairs_of_lengthDelta_eq_zero hnothing (hoffset ▸ hends) haddress] at hfile
  obtain ⟨stored, hlt, hstored, rfl, -⟩ := StoredText.readBytes_eq_ok_iff.1 hold
  have hpos : stored.size ≠ 0 := by
    have hword := (readInt32_eq_ok_iff.1 hdeclared).eq (holds_append.1 hstored).1 rfl
    rw [ofInt32] at hword
    rw [← Int32.toInt32_toUInt32 declared, ofUInt32_inj hword, toInt32_ofNat_lt_one_iff hlt] at hterminated
    exact hterminated
  obtain ⟨front, last, rfl⟩ := Array.eq_push_of_size_ne_zero hpos
  rw [StoredText.written_push, holds_append] at hstored
  rw [Array.pop_push] at hsize hfile ⊢
  refine ⟨⟨line.offset, front, patch.newText⟩, rfl, rfl, hsize, hstored.1, ?_, hfile⟩
  rw [hedited]
  exact rebaseHeader_of_lengthDelta_eq_zero hnothing script.header

end Script

/-! ## The words of the tables -/

/-- The words of the tables stand where the script says: the ends in front of a position, and the starts at positions that fit a
64-bit word. -/
structure Script.HoldsTables (script : Script) (offset : Nat) : Prop where
  ends_le : script.header.symbolTableEndOffset + 4 ≤ script.header.blockTableEndOffset ∧ script.header.blockTableEndOffset + 4 ≤ offset
  symbolTableEnd : script.bytes.Holds script.header.symbolTableEndOffset (ofUInt32 script.header.symbolTableEnd)
  blockTableEnd : script.bytes.Holds script.header.blockTableEndOffset (ofUInt32 script.header.blockTableEnd)
  start : ∀ block ∈ script.blocks, script.bytes.Holds (block.address + 4) (ofUInt32 block.start)
  address_lt : ∀ block ∈ script.blocks, block.address + 4 < UInt64.size

namespace Script

variable {script : Script} {catalog : Catalog} {index offset : Nat} {line : DialogueLine} {buf out : Bytes}

/-- The words of the tables stand in a file that has been read, and the ends in front of every line. -/
theorem holdsTables_of_parse? (hparse : parse? script.bytes catalog script.encoding = .ok (some script))
    (hline : script.line index = .ok line) : script.HoldsTables line.offset := by
  obtain ⟨texts, blockCount, symbolTableEnd, blockTableEnd, -, hholds, hheader, -, -, hoffset, htable⟩ :=
    exists_texts_of_line hparse hline
  have hstart : texts.symbolsStart ≤ texts.symbolOffset line.symbolIndex := Nat.le_add_right ..
  have hblocks := Block.holds_start_of_readAll htable
  simp only [Texts.headBytes, holds_append, size_ofUInt16, size_ofUInt32, Nat.zero_add, Nat.add_assoc] at hholds
  refine ⟨?_, ?_, ?_, fun block hblock => (hblocks block hblock).1, fun block hblock => ?_⟩
  · simp only [hheader, Texts.header, hoffset, Texts.symbolsStart] at hstart ⊢
    omega
  · rw [hheader]
    exact hholds.2.2.2.1
  · rw [hheader]
    exact hholds.2.2.2.2.1
  · have hlt := (hblocks block hblock).2
    have hends := script.header.symbolTableEnd.toNat_lt
    have hends' := script.header.blockTableEnd.toNat_lt
    simp only [Block.entryCount, Header.blockEntrySize, UInt64.size] at hlt ⊢
    omega

theorem exists_word_of_mem_recounts {change : Change} (h : change ∈ script.recounts) : ∃ offset value, change = .word offset value := by
  simp only [recounts, List.mem_cons, List.mem_map] at h
  rcases h with rfl | rfl | ⟨block, -, rfl⟩ <;> exact ⟨_, _, rfl⟩

/-- Repairs that move nothing keep the bytes of the file, but for the end of the block table in a header that is out of step. -/
theorem HoldsTables.getElem?_recounts (h : script.HoldsTables offset) {pos : Nat}
    (hpos : script.header.recounted ≠ script.header → OutsideWord script.header.blockTableEndOffset pos)
    (hsame : buf[pos]? = script.bytes[pos]?) (hout : script.recounts.foldlM Change.perform buf = .ok out) :
    out[pos]? = script.bytes[pos]? := by
  refine getElem?_foldlM_perform_of_keeps (fun change hchange => ?_) hsame hout
  simp only [recounts, List.mem_cons, List.mem_map] at hchange
  rcases hchange with rfl | rfl | ⟨block, hblock, rfl⟩
  · exact .inr h.symbolTableEnd
  · by_cases hstep : script.header.recounted = script.header
    · rw [hstep]
      exact .inr h.blockTableEnd
    · exact .inl (hpos hstep)
  · exact .inr (h.start block hblock)

/-- The end of the block table is counted again, if no start is written over it. -/
theorem holds_recounts
    (hbeside : ∀ block ∈ script.blocks, block.address + 8 ≤ script.header.blockTableEndOffset ∨
      script.header.blockTableEndOffset ≤ block.address)
    (hout : script.recounts.foldlM Change.perform buf = .ok out) :
    out.Holds script.header.blockTableEndOffset (ofUInt32 script.header.recounted.blockTableEnd) := by
  obtain ⟨first, -, hrest⟩ := foldlM_perform_cons.1 hout
  obtain ⟨second, hsecond, hstarts⟩ := foldlM_perform_cons.1 hrest
  obtain ⟨hfits, rfl⟩ := writeUInt32_eq_ok_iff.1 hsecond
  have hwritten : (first.replaceRange script.header.blockTableEndOffset (script.header.blockTableEndOffset + 4)
      (ofUInt32 script.header.recounted.blockTableEnd)).Holds script.header.blockTableEndOffset
        (ofUInt32 script.header.recounted.blockTableEnd) := holds_replaceRange (by omega)
  refine hwritten.of_agree (size_foldlM_perform (fun change hchange => ?_) hstarts) fun pos hle hlt =>
    getElem?_foldlM_perform (fun change hchange => ?_) hstarts
  · obtain ⟨block, -, rfl⟩ := List.mem_map.1 hchange
    exact ⟨_, _, rfl⟩
  · obtain ⟨block, hblock, rfl⟩ := List.mem_map.1 hchange
    have hblock := hbeside block hblock
    rw [size_ofUInt32] at hlt
    rw [Change.IsWriteBeside, OutsideWord]
    omega

end Script

/-! ## Edits -/

namespace Script

variable {script edited : Script} {catalog : Catalog} {index cap next : Nat} {text : String} {line : DialogueLine} {old : Bytes}
  {outcome : EditOutcome}

/-- What an edit that stores a text of the same length makes of the header and the bytes. -/
structure Rewritten (script : Script) (offset size : Nat) (edited : Script) : Prop where
  header : edited.header = script.header.recounted
  size_eq : edited.bytes.size = script.bytes.size
  kept : ∀ pos, ¬ script.Rewrites offset size pos → edited.bytes[pos]? = script.bytes[pos]?
  blockTableEnd : (∀ pos, script.Rewrites offset size pos → ¬ script.Reads pos) →
    edited.bytes.Holds script.header.blockTableEndOffset (ofUInt32 script.header.recounted.blockTableEnd)

theorem HoldsTables.rewritten (h : script.HoldsTables line.offset) (hline : script.line index = .ok line) (hnew : line.text ≠ text)
    (hold : StoredText.readBytes script.bytes line.offset = .ok (old, next))
    (hlength : (script.encoding.capLine text cap).bytes.length = old.size)
    (hedit : script.edit index text cap = .ok (edited, outcome)) : script.Rewritten line.offset old.size edited := by
  have hends := h.ends_le
  obtain ⟨edit, hoffset, rfl, hsize, htext, hheader, hfile⟩ :=
    exists_splice_of_edit hline hnew hold hlength hedit (by omega) h.address_lt
  obtain ⟨spliced, hsplice, hwrites⟩ := foldlM_perform_cons.1 hfile
  rw [← hoffset] at htext h hends ⊢
  have hspliced : spliced.size = script.bytes.size := by
    obtain ⟨⟨hstart, hstop⟩, rfl⟩ := Change.perform_splice_eq_ok_iff.1 hsplice
    rw [size_replaceRange hstart hstop, StoredText.size_unterminated]
    rw [TextEdit.stop] at hstop ⊢
    omega
  have hsame : edited.bytes.size = script.bytes.size :=
    (size_foldlM_perform (fun _ hchange => exists_word_of_mem_recounts hchange) hwrites).trans hspliced
  have hkept : ∀ pos, ¬ script.Rewrites edit.offset edit.old.size pos → edited.bytes[pos]? = script.bytes[pos]? := by
    intro pos hpos
    rw [Rewrites, not_or] at hpos
    have houtside : pos < edit.offset + 4 ∨ edit.stop ≤ pos := by
      rw [TextEdit.stop]
      omega
    exact h.getElem?_recounts (fun hstep => Classical.not_not.1 fun hword => hpos.2 ⟨hstep, hword⟩)
      (TextEdit.getElem?_splice_of_size_eq hsize htext hsplice houtside) hwrites
  refine ⟨hheader, hsame, hkept, fun hunread => ?_⟩
  by_cases hstep : script.header.recounted = script.header
  · -- The word is written as it was.
    rw [hstep]
    refine h.blockTableEnd.of_agree hsame fun pos hle hlt => hkept pos ?_
    rw [size_ofUInt32] at hlt
    rintro (htext | ⟨hchanged, -⟩)
    · omega
    · exact hchanged hstep
  · refine holds_recounts (fun block hblock => ?_) hwrites
    -- A byte of the word that belongs to the entry would be looked at.
    refine Classical.byContradiction fun hover => ?_
    refine hunread (max script.header.blockTableEndOffset block.address) (.inr ⟨hstep, ?_⟩) (.inl ⟨block, hblock, ?_⟩)
    · rw [OutsideWord]
      omega
    · simp only [Block.ReadsEntry, Header.blockEntrySize]
      omega

/-- The header of the edited file is that of the edited script, and there are as many symbols as before. -/
theorem Rewritten.exists_read? (h : script.Rewritten line.offset old.size edited)
    (hparse : parse? script.bytes catalog script.encoding = .ok (some script)) (hline : script.line index = .ok line)
    (hold : StoredText.readBytes script.bytes line.offset = .ok (old, next))
    (hunread : ∀ pos, script.Rewrites line.offset old.size pos → ¬ script.Reads pos) :
    ∃ symbols, Header.read? edited.bytes script.encoding = .ok (some (script.header.recounted, symbols)) ∧
      symbols.symbols.length = script.symbols.symbols.length := by
  obtain ⟨texts, blockCount, symbolTableEnd, blockTableEnd, hreadable, hholds, hheader, hsymbols, hnumber, hoffset, -⟩ :=
    exists_texts_of_line hparse hline
  have hsymbol := (hholds.trans (Texts.holds_stored hnumber blockCount symbolTableEnd blockTableEnd)).cast (Nat.zero_add _)
  have hlt := hreadable.size_stored_lt hnumber
  have hpop : old = (texts.stored line.symbolIndex).pop := by
    have hread := StoredText.readBytes_eq_ok_iff.2 ⟨_, hlt, hsymbol, rfl, rfl⟩
    rw [← hoffset, hold, Except.ok.injEq, Prod.mk.injEq] at hread
    exact hread.1
  have hfits := hsymbol.le_size
  rw [StoredText.size_written, ← Nat.add_assoc, ← h.size_eq] at hfits
  obtain ⟨stored, hsize, hstored⟩ := exists_holds_of_le_size hfits
  have hword : script.header.blockTableEndOffset = texts.identityBytes.size + 8 := congrArg Header.blockTableEndOffset hheader
  have hhead := Texts.holds_headBytes_setStored hholds hnumber h.size_eq hsize hstored (hword ▸ h.blockTableEnd hunread) (by
    intro i houtside hbeside
    refine h.kept i ?_
    rw [Rewrites, hoffset, hword, hpop, Array.size_pop]
    rintro (hinside | ⟨-, hover⟩)
    · omega
    · exact hover hbeside)
  have hrecounted : (texts.setStored line.symbolIndex stored).header script.encoding blockCount symbolTableEnd
      script.header.recounted.blockTableEnd = script.header.recounted := by
    rw [hheader]
    simp only [Texts.header, Texts.setStored, List.length_set]
    rfl
  have hread := Header.read?_of_holds (hreadable.setStored hnumber hsize) hhead
  rw [hrecounted] at hread
  refine ⟨_, hread, ?_⟩
  · rw [hsymbols]
    simp only [Texts.symbolTable, Texts.length_symbolsFrom, Texts.setStored, List.length_set]

/-- A file whose rewritten bytes nobody looks at has the blocks and instructions that it had, if its table has as many entries. -/
theorem Rewritten.exists_fresh (h : script.Rewritten line.offset old.size edited)
    (hparse : parse? script.bytes catalog script.encoding = .ok (some script)) (hline : script.line index = .ok line)
    (hold : StoredText.readBytes script.bytes line.offset = .ok (old, next))
    (hcount : Block.entryCount script.header.recounted = Block.entryCount script.header)
    (hunread : ∀ pos, script.Rewrites line.offset old.size pos → ¬ script.Reads pos) :
    ∃ fresh, parse? edited.bytes catalog script.encoding = .ok (some fresh) ∧ fresh.header = edited.header ∧
      fresh.blocks.map Block.unnamed = script.blocks.map Block.unnamed ∧ fresh.invocations = script.invocations := by
  obtain ⟨symbols, hheader, hlength⟩ := h.exists_read? hparse hline hold hunread
  obtain ⟨texts, blockCount, symbolTableEnd, blockTableEnd, -, -, -, -, -, -, htable⟩ := exists_texts_of_line hparse hline
  have hread : ∀ pos, script.Reads pos → edited.bytes[pos]? = script.bytes[pos]? := fun pos hpos =>
    h.kept pos fun hrewritten => hunread pos hrewritten hpos
  obtain ⟨renamed, hrenamed, hunnamed⟩ := Block.exists_readAll_of_agree htable rfl hcount hlength h.size_eq
    (fun block hblock pos hpos => hread pos (.inl ⟨block, hblock, hpos⟩))
    (fun invocation hinvocation pos hpos => hread pos (.inr ⟨invocation, hinvocation, hpos⟩))
  rw [← hcount] at hrenamed
  exact ⟨_, parse?_eq_ok_some_iff.2 ⟨_, _, _, _, hheader, hrenamed, rfl⟩, h.header.symm, hunnamed, rfl⟩

/-- Blocks that differ in their names only have the same instructions. -/
theorem map_blockInvocations_eq {other : Script} (hblocks : other.blocks.map Block.unnamed = script.blocks.map Block.unnamed)
    (hinvocations : other.invocations = script.invocations) :
    other.blocks.map other.blockInvocations = script.blocks.map script.blockInvocations := by
  have hunnamed : ∀ blocks : List Block, blocks.map (Block.slice · script.invocations) =
      (blocks.map Block.unnamed).map (Block.slice · script.invocations) := by
    intro blocks
    rw [List.map_map]
    rfl
  have hslice : ∀ state : Script, state.blockInvocations = (Block.slice · state.invocations) := fun _ => rfl
  rw [hslice, hslice, hinvocations, hunnamed, hblocks, ← hunnamed]

/-- An edit that stores a text of the same length, in any file that is read as a script, changes no byte outside of the text, but for
the end of the block table in a header that is out of step with its count of blocks. If the block table keeps its number of entries
and the blocks are read without the bytes that may change, the edited file is read with the same blocks, but for their names, and the
same instructions in each. -/
theorem sameLength_edit {bytes : Bytes} {encoding : Encoding} (hparse : parse? bytes catalog encoding = .ok (some script))
    (hline : script.line index = .ok line) (hold : StoredText.readBytes bytes line.offset = .ok (old, next))
    (hlength : (encoding.capLine text cap).bytes.length = old.size) (hedit : script.edit index text cap = .ok (edited, outcome)) :
    edited.bytes.size = bytes.size ∧
      (∀ pos, ¬ script.Rewrites line.offset old.size pos → edited.bytes[pos]? = bytes[pos]?) ∧
      (line.text ≠ text → edited.header = script.header.recounted) ∧
      (Block.entryCount script.header.recounted = Block.entryCount script.header →
        (∀ pos, script.Rewrites line.offset old.size pos → ¬ script.Reads pos) →
        ∃ fresh, parse? edited.bytes catalog encoding = .ok (some fresh) ∧ fresh.header = edited.header ∧
          fresh.blocks.map Block.unnamed = script.blocks.map Block.unnamed ∧
          fresh.blocks.map fresh.blockInvocations = script.blocks.map script.blockInvocations) := by
  obtain ⟨rfl, rfl⟩ : bytes = script.bytes ∧ encoding = script.encoding := by
    obtain ⟨header, symbols, blocks, invocations, -, -, rfl⟩ := parse?_eq_ok_some_iff.1 hparse
    exact ⟨rfl, rfl⟩
  obtain ⟨line', hline', hcases⟩ := exists_line_of_edit hedit
  rw [hline, Except.ok.injEq] at hline'
  subst hline'
  rcases hcases with ⟨htext, rfl, -⟩ | hnew
  · exact ⟨rfl, fun _ _ => rfl, fun hnew => absurd htext hnew, fun _ _ => ⟨edited, hparse, rfl, rfl, rfl⟩⟩
  · have hrewritten := (holdsTables_of_parse? hparse hline).rewritten hline hnew hold hlength hedit
    refine ⟨hrewritten.size_eq, hrewritten.kept, fun _ => hrewritten.header, fun hcount hunread => ?_⟩
    obtain ⟨fresh, hfresh, hheader, hblocks, hinvocations⟩ := hrewritten.exists_fresh hparse hline hold hcount hunread
    exact ⟨fresh, hfresh, hheader, hblocks, map_blockInvocations_eq hblocks hinvocations⟩

/-- An edit of the first line of the sample for a text of the same length. -/
theorem sameLength_edit_sample :
    parse? sample.bytes Catalog.sample .shiftJis = .ok (some sample) ∧
      ∃ line old next edited outcome, sample.line 0 = .ok line ∧ StoredText.readBytes sample.bytes line.offset = .ok (old, next) ∧
        (Encoding.shiftJis.capLine "Ho." 256).bytes.length = old.size ∧ sample.edit 0 "Ho." 256 = .ok (edited, outcome) ∧
        edited.bytes.size = sample.bytes.size ∧
        (∀ pos, ¬ sample.Rewrites line.offset old.size pos → edited.bytes[pos]? = sample.bytes[pos]?) ∧
        (line.text ≠ "Ho." → edited.header = sample.header.recounted) ∧
        ∃ fresh, parse? edited.bytes Catalog.sample .shiftJis = .ok (some fresh) ∧ fresh.header = edited.header ∧
          fresh.blocks.map Block.unnamed = sample.blocks.map Block.unnamed ∧
          fresh.blocks.map fresh.blockInvocations = sample.blocks.map sample.blockInvocations := by
  obtain ⟨line, hline, hoffset⟩ : ∃ line, sample.line 0 = .ok line ∧ line.offset = Image.sample.texts.symbolOffset 1 :=
    ⟨_, Image.line_script, rfl⟩
  obtain ⟨old, next, hold, hsize⟩ : ∃ old next, StoredText.readBytes sample.bytes line.offset = .ok (old, next) ∧ old.size = 3 := by
    obtain ⟨next, hold⟩ := @Image.exists_readBytes_stored Image.sample View.sample ⟨.ofCode "KYN", 1, "V01_KYN0001"⟩
      Image.valid_sample (by decide)
    rw [hoffset]
    exact ⟨_, next, hold, rfl⟩
  have hlength : (Encoding.shiftJis.capLine "Ho." 256).bytes.length = old.size := by
    rw [hsize]
    decide +kernel
  have hserved : Image.sample.edit? View.sample 0 "Ho." 256 = some (Image.sample.retext 1 #[72, 111, 46], ⟨0, 0, none⟩) := by
    rfl
  obtain ⟨edited, hedit, -⟩ := Image.exists_edit_script Image.valid_sample Image.fits_sample hserved
  have hstep : sample.header.recounted = sample.header := by decide +kernel
  have hplace : Image.sample.texts.symbolOffset 1 = 42 := rfl
  have hunread : ∀ pos, sample.Rewrites line.offset old.size pos → ¬ sample.Reads pos := by
    intro pos hrewritten hread
    have hbefore : pos < 49 := by
      rcases hrewritten with ⟨-, hlt⟩ | ⟨hchanged, -⟩
      · omega
      · exact absurd hstep hchanged
    rcases hread with ⟨block, hblock, hle, -⟩ | ⟨invocation, hinvocation, ⟨hle, -⟩ | ⟨parameter, hparameter, hle, -⟩⟩
    · have hbehind : ∀ block ∈ sample.blocks, 49 ≤ block.address := by decide +kernel
      have hblock := hbehind block hblock
      omega
    · have hbehind : ∀ invocation ∈ sample.invocations, 49 ≤ invocation.address := by decide +kernel
      have hinvocation := hbehind invocation hinvocation
      omega
    · have hbehind : ∀ invocation ∈ sample.invocations, ∀ parameter ∈ invocation.parameters, 51 ≤ parameter.offset := by
        decide +kernel
      have hparameter := hbehind invocation hinvocation parameter hparameter
      omega
  have hparse := consistent_sample.parsed
  obtain ⟨hsame, hkept, hheader, hfresh⟩ := sameLength_edit hparse hline hold hlength hedit
  exact ⟨hparse, line, old, next, edited, _, hline, hold, hlength, hedit, hsame, hkept, hheader,
    hfresh (by rw [hstep]) hunread⟩

/-! ## Files that are not read alike -/

/-- The texts of a script with one line. -/
def uncountedTexts : Texts :=
  { Image.sample.texts with symbols := [#[72, 105, 46, 0], #[86, 48, 49, 95, 75, 89, 78, 48, 48, 48, 49, 0]] }

/-- The file of such a script with one block, whose header counts no blocks, with a letter of the line and the end of the block table. -/
def uncountedFile (letter tableEnd : UInt8) : Bytes :=
  #[0, 0, 0, 5, 83, 48, 49, 65, 0, 0, 0, 0, 2, 82, 0, 0, 0, 0, 2, 84, 0, 0, 2, 0, 0, 0, 0, 0, 57, 0, 0, 0, tableEnd, 0, 0, 0, 4,
    72, letter, 46, 0, 0, 0, 0, 12, 86, 48, 49, 95, 75, 89, 78, 48, 48, 48, 49, 0, 0, 1, 0, 0, 0, 0, 0, 65]

/-- It as a script, when the block table ends behind its block. -/
def uncounted : Script where
  bytes := uncountedFile 105 65
  encoding := .shiftJis
  header := uncountedTexts.header .shiftJis 0 57 65
  symbols := uncountedTexts.symbolTable .shiftJis
  blocks := [⟨57, 1, "V01_KYN0001", 0, 65, 0, 0⟩]
  invocations := []
  dialogue := Dialogue.extract (uncountedTexts.symbolTable .shiftJis)

/-- The texts of a script with one line that is an instruction as well, with a parameter that reaches beyond the text. The line number
of the instruction has a letter in it. -/
def overlaidTexts (letter : UInt8) : Texts :=
  { Image.sample.texts with
    symbols := [#[72, letter, 0, 0, 0, 0, 0, 1, 0, 0, 0, 0, 0, 29, 0, 0, 0, 29, 0], #[86, 48, 49, 95, 75, 89, 78, 48, 48, 48, 49, 0]] }

/-- The same text as it is given to an edit, with another letter. -/
def overlaidText : String :=
  "Ho\x00\x00\x00\x00\x00\x01\x00\x00\x00\x00\x00\x1d\x00\x00\x00\x1d"

/-- What the parameter takes up: its length, the terminator of the text, the voice id and the block table. -/
def overlaidPayload : Bytes :=
  #[0, 0, 0, 29, 0, 0, 0, 0, 12, 86, 48, 49, 95, 75, 89, 78, 48, 48, 48, 49, 0, 0, 1, 0, 0, 0, 0, 0, 37]

/-- The file of a script with such a line, whose block starts at the text. Its header is in step. -/
def overlaidFile (letter : UInt8) : Bytes :=
  #[0, 0, 0, 5, 83, 48, 49, 65, 0, 0, 0, 0, 2, 82, 0, 0, 0, 0, 2, 84, 0, 0, 2, 0, 1, 0, 0, 0, 72, 0, 0, 0, 80, 0, 0, 0, 19,
    72, letter, 0, 0, 0, 0, 0, 1, 0, 0, 0, 0, 0, 29, 0, 0, 0, 29, 0, 0, 0, 0, 12, 86, 48, 49, 95, 75, 89, 78, 48, 48, 48, 49, 0,
    0, 1, 0, 0, 0, 0, 0, 37]

/-- It as a script. -/
def overlaid (letter : UInt8) : Script where
  bytes := overlaidFile letter
  encoding := .shiftJis
  header := (overlaidTexts letter).header .shiftJis 1 72 80
  symbols := (overlaidTexts letter).symbolTable .shiftJis
  blocks := [⟨72, 1, "V01_KYN0001", 0, 37, 0, 1⟩]
  invocations := [⟨37, 37, Int16.ofNat (18432 + letter.toNat), 0, 0, ⟨0, "NOP", []⟩, [⟨29, 51, overlaidPayload⟩]⟩]
  dialogue := Dialogue.extract ((overlaidTexts letter).symbolTable .shiftJis)

/-- The file is read as the script with the letters of two texts. -/
theorem parse?_overlaidFile {letter : UInt8} (h : letter ∈ [105, 111]) :
    parse? (overlaidFile letter) Catalog.sample .shiftJis = .ok (some (overlaid letter)) := by
  have hheader : ∀ letter ∈ [105, 111], Header.read? (overlaidFile letter) .shiftJis =
      .ok (some ((overlaid letter).header, (overlaid letter).symbols)) := by
    decide +kernel
  have hcount : ∀ letter ∈ [105, 111], Block.entryCount (overlaid letter).header = 1 := by
    decide +kernel
  have hentry : ∀ letter ∈ [105, 111], (overlaidFile letter).slice 72 8 = .ok ((BlockEntry.mk 1 0 0).bytesWith 37) := by
    decide +kernel
  have hname : ∀ letter ∈ [105, 111], (overlaid letter).symbols.get ((1 : UInt16).toNat : Nat) = .ok "V01_KYN0001" := by
    decide +kernel
  have hread : ∀ letter ∈ [105, 111], ∀ invocation ∈ (overlaid letter).invocations, invocation.size = 43 ∧
      Invocation.read (overlaidFile letter) Catalog.sample 37 = .ok invocation := by
    decide +kernel
  have hstop : ∀ letter ∈ [105, 111], Block.regionEnd (overlaidFile letter) 80 72 = .ok 80 := by
    decide +kernel
  obtain ⟨hlength, hread⟩ := hread letter h _ (List.mem_singleton_self _)
  have hdecodes : Decodes (overlaidFile letter) Catalog.sample 80 37 (overlaid letter).invocations :=
    .next (by decide) hread (Nat.le_of_eq (congrArg (37 + ·) hlength)) (.trailer (by rw [hlength]; decide))
  have hblock : Block.read (overlaidFile letter) Catalog.sample (overlaid letter).symbols 80 72 0 =
      .ok (⟨72, 1, "V01_KYN0001", 0, 37, 0, 1⟩, (overlaid letter).invocations) :=
    Block.read_eq_ok_iff.2 ⟨1, 0, 37, "V01_KYN0001", 80, (slice_eq_ok_iff.1 (hentry letter h)).2, hname letter h, hstop letter h,
      hdecodes, rfl⟩
  have htable : Block.readTable (overlaidFile letter) Catalog.sample (overlaid letter).header (overlaid letter).symbols =
      .ok ((overlaid letter).blocks, (overlaid letter).invocations) := by
    rw [Block.readTable, hcount letter h]
    exact Block.readAll_succ_eq_ok_iff.2 ⟨_, _, [], [], hblock, Block.readAll_zero_eq_ok_iff.2 ⟨rfl, rfl⟩, rfl, rfl⟩
  exact parse?_eq_ok_some_iff.2 ⟨_, _, _, _, hheader letter h, htable, rfl⟩

/-- An edit that stores a text of the same length may do more than replace the text. If the header counts no blocks, it changes a byte
in front of the line, and the block is not found again. If a block starts at the text, its instruction is another one afterwards. -/
theorem sameLength_edit_false :
    (∃ line old next edited outcome fresh, parse? (uncountedFile 105 65) Catalog.sample .shiftJis = .ok (some uncounted) ∧
      uncounted.line 0 = .ok line ∧ StoredText.readBytes (uncountedFile 105 65) line.offset = .ok (old, next) ∧
      (Encoding.shiftJis.capLine "Ho." 256).bytes.length = old.size ∧ uncounted.edit 0 "Ho." 256 = .ok (edited, outcome) ∧
      32 < line.offset ∧ edited.bytes[32]? ≠ (uncountedFile 105 65)[32]? ∧
      parse? edited.bytes Catalog.sample .shiftJis = .ok (some fresh) ∧ fresh.blocks.length ≠ uncounted.blocks.length) ∧
    ∃ line old next edited outcome, parse? (overlaidFile 105) Catalog.sample .shiftJis = .ok (some (overlaid 105)) ∧
      (overlaid 105).line 0 = .ok line ∧ StoredText.readBytes (overlaidFile 105) line.offset = .ok (old, next) ∧
      (Encoding.shiftJis.capLine overlaidText 256).bytes.length = old.size ∧
      (overlaid 105).edit 0 overlaidText 256 = .ok (edited, outcome) ∧
      parse? edited.bytes Catalog.sample .shiftJis = .ok (some (overlaid 111)) ∧
      (overlaid 111).blocks.map (overlaid 111).blockInvocations ≠ (overlaid 105).blocks.map (overlaid 105).blockInvocations := by
  constructor
  · have hparse : parse? (uncountedFile 105 65) Catalog.sample .shiftJis = .ok (some uncounted) := by
      decide +kernel
    have hline : uncounted.line 0 = .ok ⟨"Hi.", .ofCode "KYN", 33, 0, "V01_KYN0001"⟩ := by
      decide +kernel
    have hold : StoredText.readBytes (uncountedFile 105 65) 33 = .ok (#[72, 105, 46], 41) := by
      decide +kernel
    have hlength : (Encoding.shiftJis.capLine "Ho." 256).bytes.length = 3 := by
      decide +kernel
    have hserved : (uncounted.edit 0 "Ho." 256).map (fun served => served.1.bytes) = .ok (uncountedFile 111 57) := by
      decide +kernel
    have hfound : (parse? (uncountedFile 111 57) Catalog.sample .shiftJis).map (fun found => found.map fun fresh => fresh.blocks) =
        .ok (some []) := by
      decide +kernel
    obtain ⟨⟨edited, outcome⟩, hedit, hbytes⟩ := map_eq_ok_iff.1 hserved
    obtain ⟨found, hfresh, hfound⟩ := map_eq_ok_iff.1 hfound
    obtain ⟨fresh, rfl, hblocks⟩ := Option.map_eq_some_iff.1 hfound
    refine ⟨_, _, _, edited, outcome, fresh, hparse, hline, hold, hlength, hedit, by decide, ?_, ?_, ?_⟩
    · rw [hbytes]
      decide
    · rw [hbytes]
      exact hfresh
    · rw [hblocks]
      decide
  · have hplace : ((overlaid 105).line 0).map (fun line => line.offset) = .ok 33 := by
      decide +kernel
    have hold : StoredText.readBytes (overlaidFile 105) 33 = .ok (((overlaidTexts 105).stored 0).pop, 56) := by
      decide +kernel
    have hlength : (Encoding.shiftJis.capLine overlaidText 256).bytes.length = ((overlaidTexts 105).stored 0).pop.size := by
      decide +kernel
    have hserved : ((overlaid 105).edit 0 overlaidText 256).map (fun served => served.1.bytes) = .ok (overlaidFile 111) := by
      decide +kernel
    obtain ⟨line, hline, hoffset⟩ := map_eq_ok_iff.1 hplace
    obtain ⟨⟨edited, outcome⟩, hedit, hbytes⟩ := map_eq_ok_iff.1 hserved
    rw [← hoffset] at hold
    refine ⟨line, _, _, edited, outcome, parse?_overlaidFile (by decide), hline, hold, hlength, hedit, ?_, by decide +kernel⟩
    rw [hbytes]
    exact parse?_overlaidFile (by decide)

end Script

end SceneScript
