import SceneScript.Proofs.Layout

/-!
# What an edit leaves alone

An edit replaces the length and the text of one symbol, rewrites the two table ends in the header and the start in every entry of the
block table, and touches no other byte: `Script.EditedTo` says so of two files, position by position, and determines the second one
(`Script.EditedTo.unique`). Every edit of a script that edits have led to is of this kind (`Script.ExactTables.editedTo_of_edit`).

A start grows with the text, as a 32-bit word, if it lies behind the text. While the file stays small, all starts do if those of the
script that was read are signed positions. A larger one may be carried past the largest word to a place in front of the text, and then
the next edit leaves it alone (`Script.start_edit_false`).
-/

namespace SceneScript

open Bytes

/-! ## Texts that are replaced -/

/-- A stored text in front of its terminator: the length, which counts the terminator, and the text. -/
def StoredText.unterminated (text : Bytes) : Bytes :=
  ofUInt32 (declaredLength text.size) ++ text

@[simp] theorem StoredText.size_unterminated (text : Bytes) : (unterminated text).size = 4 + text.size := by
  simp [unterminated]

theorem StoredText.written_push (text : Bytes) (last : UInt8) : written (text.push last) = unterminated text ++ #[last] := by
  rw [written, Array.size_push, Array.push_eq_append, unterminated, declaredLength, Array.append_assoc]

/-- The replacement of a stored text. -/
structure TextEdit where
  /-- The position of the length. -/
  offset : Nat
  old : Bytes
  new : Bytes

namespace TextEdit

/-- How much longer the text becomes. -/
def delta (edit : TextEdit) : Int :=
  edit.new.size - edit.old.size

/-- Where the old text ends and its terminator stands. -/
def stop (edit : TextEdit) : Nat :=
  edit.offset + 4 + edit.old.size

/-- Where a byte in front of the text or behind it is found afterwards. -/
def moved (edit : TextEdit) (pos : Nat) : Nat :=
  if pos < edit.stop then pos else pos - edit.old.size + edit.new.size

theorem moved_of_lt {edit : TextEdit} {pos : Nat} (h : pos < edit.stop) : edit.moved pos = pos :=
  if_pos h

theorem moved_of_le {edit : TextEdit} {pos : Nat} (h : edit.stop ≤ pos) : edit.moved pos = pos - edit.old.size + edit.new.size :=
  if_neg (Nat.not_lt.2 h)

/-- A byte that belongs to no word in front of the text still belongs to none. -/
theorem outsideWord_moved_of_le {edit : TextEdit} {offset pos : Nat} (hword : offset + 4 ≤ edit.offset) (h : OutsideWord offset pos) :
    OutsideWord offset (edit.moved pos) := by
  rw [OutsideWord, moved, stop] at *
  split <;> omega

/-- A byte outside of the text that belongs to no word behind it still belongs to none. -/
theorem outsideWord_moved_moved {edit : TextEdit} {offset pos : Nat} (hword : edit.stop ≤ offset)
    (hpos : pos < edit.offset ∨ edit.stop ≤ pos) (h : OutsideWord offset pos) : OutsideWord (edit.moved offset) (edit.moved pos) := by
  rw [moved_of_le hword]
  rw [stop] at hword hpos
  rw [OutsideWord, moved, stop] at *
  split <;> omega

/-- The splice that replaces the text moves the bytes outside of it. -/
theorem getElem?_splice {edit : TextEdit} {buf out : Bytes} {pos : Nat}
    (h : (Change.splice edit.offset edit.stop (StoredText.unterminated edit.new)).perform buf = .ok out)
    (hpos : pos < edit.offset ∨ edit.stop ≤ pos) : out[edit.moved pos]? = buf[pos]? := by
  obtain ⟨⟨hstart, hstop⟩, rfl⟩ := Change.perform_splice_eq_ok_iff.1 h
  rcases hpos with hfront | hbehind
  · rw [moved_of_lt (by omega), getElem?_replaceRange_of_lt hfront (by omega)]
  · rw [← getElem?_replaceRange_of_le hbehind hstart hstop, moved_of_le hbehind, StoredText.size_unterminated]
    rw [stop] at hbehind ⊢
    congr 1
    omega

end TextEdit

/-! ## Files that differ by an edit -/

namespace Script

/-- An edit spares the byte: it belongs neither to the old length and text nor to a table end in the header nor to a start in the
block table. -/
structure Spares (script : Script) (edit : TextEdit) (pos : Nat) : Prop where
  text : pos < edit.offset ∨ edit.stop ≤ pos
  symbolTableEnd : OutsideWord script.header.symbolTableEndOffset pos
  blockTableEnd : OutsideWord script.header.blockTableEndOffset pos
  start : ∀ block ∈ script.blocks, OutsideWord (block.address + 4) pos

/-- The start word of a block after an edit. It grows with the text if it lies behind it. -/
def grownStart (edit : TextEdit) (block : Block) : UInt32 :=
  if edit.offset < block.start.toNat then block.start + UInt32.ofInt edit.delta else block.start

/-- The file is that of the script, edited: it is longer by the difference in length, has the new length and text in the place of the
old ones, the table ends and the starts of the blocks grown in theirs, and every other byte where it belongs. The table ends stand in
front of the text, and the block table behind its terminator. -/
structure EditedTo (script : Script) (edit : TextEdit) (file : Bytes) : Prop where
  size_eq : (file.size : Int) = script.bytes.size + edit.delta
  ends_le : script.header.symbolTableEndOffset + 4 ≤ script.header.blockTableEndOffset ∧
    script.header.blockTableEndOffset + 4 ≤ edit.offset
  lt_address : ∀ block ∈ script.blocks, edit.stop < block.address
  old : script.bytes.Holds edit.offset (StoredText.unterminated edit.old)
  new : file.Holds edit.offset (StoredText.unterminated edit.new)
  symbolTableEnd : script.bytes.Holds script.header.symbolTableEndOffset (ofUInt32 script.header.symbolTableEnd) ∧
    file.Holds script.header.symbolTableEndOffset (ofUInt32 (script.header.symbolTableEnd + UInt32.ofInt edit.delta))
  blockTableEnd : script.bytes.Holds script.header.blockTableEndOffset (ofUInt32 script.header.blockTableEnd) ∧
    file.Holds script.header.blockTableEndOffset (ofUInt32 (script.header.blockTableEnd + UInt32.ofInt edit.delta))
  start : ∀ block ∈ script.blocks, script.bytes.Holds (block.address + 4) (ofUInt32 block.start) ∧
    file.Holds (edit.moved (block.address + 4)) (ofUInt32 (grownStart edit block))
  spared : ∀ pos, script.Spares edit pos → file[edit.moved pos]? = script.bytes[pos]?

/-- There is only one such file. -/
theorem EditedTo.unique {script : Script} {edit : TextEdit} {file other : Bytes} (h : script.EditedTo edit file)
    (h' : script.EditedTo edit other) : file = other := by
  refine Array.ext_getElem? fun pos => ?_
  by_cases htext : edit.offset ≤ pos ∧ pos < edit.offset + (4 + edit.new.size)
  · exact h.new.getElem?_eq h'.new htext.1 (by simpa using htext.2)
  -- The byte was in front of the old text or behind it.
  have hfound : ∃ was, edit.moved was = pos ∧ (was < edit.offset ∨ edit.stop ≤ was) := by
    by_cases hfront : pos < edit.offset
    · exact ⟨pos, TextEdit.moved_of_lt (by rw [TextEdit.stop]; omega), .inl hfront⟩
    · have hstop : edit.stop ≤ pos - edit.new.size + edit.old.size := by
        rw [TextEdit.stop]
        omega
      refine ⟨_, ?_, .inr hstop⟩
      rw [TextEdit.moved_of_le hstop]
      omega
  obtain ⟨was, rfl, houtside⟩ := hfound
  have hstop : edit.offset + 4 ≤ edit.stop := Nat.le_add_right ..
  have hends := h.ends_le
  by_cases hspared : script.Spares edit was
  · rw [h.spared was hspared, h'.spared was hspared]
  by_cases hsymbols : OutsideWord script.header.symbolTableEndOffset was
  · by_cases htable : OutsideWord script.header.blockTableEndOffset was
    · have hstart : ¬ ∀ block ∈ script.blocks, OutsideWord (block.address + 4) was :=
        fun hstart => hspared ⟨houtside, hsymbols, htable, hstart⟩
      simp only [Classical.not_forall, exists_prop] at hstart
      obtain ⟨block, hblock, hinside⟩ := hstart
      have hbehind := h.lt_address block hblock
      rw [OutsideWord, not_or, Nat.not_lt, Nat.not_le] at hinside
      refine (h.start block hblock).2.getElem?_eq (h'.start block hblock).2 ?_ ?_
      · rw [TextEdit.moved_of_le (by omega), TextEdit.moved_of_le (by omega)]
        omega
      · rw [TextEdit.moved_of_le (by omega), TextEdit.moved_of_le (by omega), size_ofUInt32]
        rw [TextEdit.stop] at hbehind
        omega
    · rw [OutsideWord, not_or, Nat.not_lt, Nat.not_le] at htable
      rw [TextEdit.moved_of_lt (by omega)]
      exact h.blockTableEnd.2.getElem?_eq h'.blockTableEnd.2 htable.1 htable.2
  · rw [OutsideWord, not_or, Nat.not_lt, Nat.not_le] at hsymbols
    rw [TextEdit.moved_of_lt (by omega)]
    exact h.symbolTableEnd.2.getElem?_eq h'.symbolTableEnd.2 hsymbols.1 hsymbols.2

end Script

/-! ## Words that grow -/

/-- A word grows by a difference, whatever becomes of the number. -/
theorem ofNat_eq_add_ofInt {old new : Nat} {delta : Int} (h : (new : Int) % 4294967296 = (old + delta) % 4294967296) :
    UInt32.ofNat new = UInt32.ofNat old + UInt32.ofInt delta := by
  have hcast : ∀ n : Nat, UInt32.ofNat n = UInt32.ofInt n := by
    intro n
    refine UInt32.toNat_inj.1 ?_
    rw [UInt32.ofInt, UInt32.toNat_ofNat', UInt32.toNat_ofNat']
    omega
  have hmod : UInt32.ofInt new = UInt32.ofInt (old + delta) := congrArg (fun x : Int => UInt32.ofNat x.toNat) h
  rw [hcast, hcast, hmod, UInt32.ofInt_add]

/-- The start word of a block after the patch. -/
theorem Patch.ofNat_moved_start (patch : Patch) (edit : TextEdit) (hoffset : patch.offset = edit.offset)
    (hdelta : patch.lengthDelta = edit.delta) (block : Block) :
    UInt32.ofNat (patch.moved block.start.toNat) = Script.grownStart edit block := by
  rw [moved, Script.grownStart, hoffset, hdelta]
  by_cases hbehind : edit.offset < block.start.toNat
  · rw [if_pos hbehind, if_pos hbehind]
    refine (ofNat_eq_add_ofInt ?_).trans (by rw [UInt32.ofNat_toNat])
    have hnonneg := Int.emod_nonneg (block.start.toNat + edit.delta) (show (UInt64.size : Int) ≠ 0 by decide)
    rw [Int.toNat_of_nonneg hnonneg]
    exact Int.emod_emod_of_dvd _ (by decide)
  · rw [if_neg hbehind, if_neg hbehind, UInt32.ofNat_toNat]

/-! ## Edits of laid out scripts -/

/-- A symbol ends in front of the end of the symbols. -/
theorem Texts.symbolOffset_add_le_symbolsEnd {texts : Texts} {index : Nat} (h : index < texts.symbols.length) :
    texts.symbolOffset index + 4 + (texts.stored index).size ≤ texts.symbolsEnd := by
  have hsucc := symbolOffset_succ h
  rcases Nat.lt_or_eq_of_le (show index + 1 ≤ texts.symbols.length from h) with hlt | heq
  · have hend := symbolOffset_lt hlt (Nat.le_refl _)
    rw [symbolOffset_length] at hend
    omega
  · have hend := texts.symbolOffset_length
    rw [← heq] at hend
    omega

/-- The replacement of the text of a symbol. -/
def Image.textEdit (image : Image) (number : Nat) (text : Bytes) : TextEdit where
  offset := image.texts.symbolOffset number
  old := (image.texts.stored number).pop
  new := text

namespace Script.LaidOut

variable {script : Script} {image : Image} {start : BlockEntry → UInt32} {patch : Patch} {number : Nat} {bytes : Bytes}

/-- Entries stand behind the terminator of the text, and move with its length. -/
theorem moved_address (h : script.LaidOut image start) (hstores : patch.Stores image number bytes)
    (hlt : (image.retext number bytes).base < UInt64.size) {block : Block} (hblock : block ∈ script.blocks) :
    (image.textEdit number bytes).stop < block.address ∧
      (patch.moved block.address + 4) % UInt64.size = (image.textEdit number bytes).moved (block.address + 4) ∧
      patch.moved block.address + 4 = (image.textEdit number bytes).moved (block.address + 4) := by
  have hbase : (image.retext number bytes).base =
      (image.retext number bytes).texts.symbolsEnd + Header.blockEntrySize * image.entries.length := rfl
  obtain ⟨distance, entry, -, hplace, hdistance⟩ := exists_of_mem_entryPlaces (h.place_mem hblock)
  have haddress : block.address = image.texts.symbolsEnd + distance := congrArg Prod.fst hplace
  have hend := Texts.symbolOffset_add_le_symbolsEnd hstores.index_lt
  have hpos := hstores.size_pos
  have hends := Texts.symbolsEnd_retext bytes hstores.index_lt hstores.size_pos
  simp only [Header.blockEntrySize, Image.texts_retext] at hbase hdistance
  have hmoved := hstores.moved_symbolsEnd_add distance (by rw [Image.texts_retext]; omega)
  have hstop : (image.textEdit number bytes).stop < block.address := by
    simp only [TextEdit.stop, Image.textEdit, Array.size_pop]
    omega
  have heq : patch.moved block.address + 4 = (image.textEdit number bytes).moved (block.address + 4) := by
    rw [TextEdit.moved_of_le (by omega), haddress, hmoved]
    simp only [Image.textEdit, Image.texts_retext, Array.size_pop] at hends ⊢
    omega
  refine ⟨hstop, ?_, heq⟩
  rw [← heq, haddress, hmoved, Nat.mod_eq_of_lt (by rw [Image.texts_retext]; omega)]

/-- The table ends stand in front of the symbols. -/
theorem ends_le (h : script.LaidOut image start) (number : Nat) (bytes : Bytes) :
    script.header.symbolTableEndOffset + 4 ≤ script.header.blockTableEndOffset ∧
      script.header.blockTableEndOffset + 4 ≤ (image.textEdit number bytes).offset := by
  have hstart : image.texts.symbolsStart ≤ image.texts.symbolOffset number := Nat.le_add_right ..
  rw [h.header]
  simp only [Image.header, Texts.header, Image.textEdit, Texts.symbolsStart] at hstart ⊢
  omega

/-- Writes for the table ends and the starts are beside a byte that the edit spares. -/
theorem isWriteBeside_of_spares (h : script.LaidOut image start) (hstores : patch.Stores image number bytes)
    (hlt : (image.retext number bytes).base < UInt64.size) {pos : Nat} (hpos : script.Spares (image.textEdit number bytes) pos) :
    ∀ change ∈ script.repairs patch, change.IsWriteBeside ((image.textEdit number bytes).moved pos) := by
  have hends := h.ends_le number bytes
  have hoffset : patch.offset = (image.textEdit number bytes).offset := hstores.offset
  intro change hchange
  simp only [repairs, List.mem_cons, List.mem_map] at hchange
  rcases hchange with rfl | rfl | ⟨block, hblock, rfl⟩
  · rw [Patch.moved_of_le (by omega)]
    exact TextEdit.outsideWord_moved_of_le (by omega) hpos.symbolTableEnd
  · rw [Patch.moved_of_le (by omega)]
    exact TextEdit.outsideWord_moved_of_le hends.2 hpos.blockTableEnd
  · obtain ⟨hstop, hmoved, -⟩ := h.moved_address hstores hlt hblock
    rw [hmoved]
    exact TextEdit.outsideWord_moved_moved (by omega) hpos.text (hpos.start block hblock)

/-! What stands in the file before the edit. -/

theorem holds_text (h : script.LaidOut image start) (hstores : patch.Stores image number bytes) :
    script.bytes.Holds (image.textEdit number bytes).offset (StoredText.unterminated (image.textEdit number bytes).old) := by
  have hsymbol := image.holds_symbol (UInt32.ofNat image.texts.symbolsEnd) (UInt32.ofNat image.base) start hstores.index_lt
  rw [← h.bytes, Texts.stored_eq_push hstores.size_pos, StoredText.written_push, holds_append] at hsymbol
  exact hsymbol.1

theorem holds_tableEnds (h : script.LaidOut image start) :
    script.bytes.Holds script.header.symbolTableEndOffset
      (ofUInt32 script.header.symbolTableEnd ++ ofUInt32 script.header.blockTableEnd) := by
  rw [h.bytes, h.header]
  exact image.holds_tableEnds _ _ start

theorem holds_start (h : script.LaidOut image start) {block : Block} (hblock : block ∈ script.blocks) :
    script.bytes.Holds (block.address + 4) (ofUInt32 block.start) := by
  rw [h.bytes]
  exact image.holds_start _ _ start (h.place_mem hblock)

section

variable (h : script.LaidOut image start) (hstores : patch.Stores image number bytes) (hbase : image.base < sizeLimit)
  (hlt : (image.retext number bytes).base < UInt64.size) {edited : Script}
  (hfile : (image.storing number bytes :: script.repairs patch).foldlM Change.perform script.bytes = .ok edited.bytes)

include h hstores hbase hlt hfile

/-! What stands in the file after the edit. -/

theorem holds_text_edited :
    edited.bytes.Holds (image.textEdit number bytes).offset (StoredText.unterminated (image.textEdit number bytes).new) := by
  have hnumber : number < (image.retext number bytes).texts.symbols.length := by simpa using hstores.index_lt
  have hsame : (image.retext number bytes).texts.symbolOffset number = image.texts.symbolOffset number := by
    have hoffset := Texts.symbolOffset_retext bytes hstores.size_pos (Nat.le_of_lt hstores.index_lt)
    rw [if_neg (Nat.lt_irrefl _)] at hoffset
    rw [Image.texts_retext]
    omega
  have hsymbol := (image.retext number bytes).holds_symbol (UInt32.ofNat (image.retext number bytes).texts.symbolsEnd)
    (UInt32.ofNat (image.retext number bytes).base) (patch.movedStart start) hnumber
  rw [← h.bytes_edited hstores hbase hlt hfile, hsame, Image.texts_retext, Texts.stored_retext_self hstores.index_lt,
    StoredText.written_push, holds_append] at hsymbol
  exact hsymbol.1

/-- The ends of the tables grow with the text. -/
theorem holds_tableEnds_edited :
    edited.bytes.Holds script.header.symbolTableEndOffset
      (ofUInt32 (script.header.symbolTableEnd + UInt32.ofInt (image.textEdit number bytes).delta) ++
        ofUInt32 (script.header.blockTableEnd + UInt32.ofInt (image.textEdit number bytes).delta)) := by
  have hends : UInt32.ofNat (image.retext number bytes).texts.symbolsEnd =
      UInt32.ofNat image.texts.symbolsEnd + UInt32.ofInt (image.textEdit number bytes).delta :=
    ofNat_eq_add_ofInt (congrArg (· % 4294967296) (Texts.symbolsEnd_retext bytes hstores.index_lt hstores.size_pos))
  have hbases : UInt32.ofNat (image.retext number bytes).base =
      UInt32.ofNat image.base + UInt32.ofInt (image.textEdit number bytes).delta :=
    ofNat_eq_add_ofInt (congrArg (· % 4294967296) (Image.base_retext bytes hstores.index_lt hstores.size_pos))
  have hholds := (image.retext number bytes).holds_tableEnds (UInt32.ofNat (image.retext number bytes).texts.symbolsEnd)
    (UInt32.ofNat (image.retext number bytes).base) (patch.movedStart start)
  rw [← h.bytes_edited hstores hbase hlt hfile, hends, hbases] at hholds
  rw [h.header]
  exact hholds

/-- The starts stand in the entries that have moved, grown where they are behind the text. -/
theorem holds_start_edited {block : Block} (hblock : block ∈ script.blocks) :
    edited.bytes.Holds ((image.textEdit number bytes).moved (block.address + 4))
      (ofUInt32 (grownStart (image.textEdit number bytes) block)) := by
  have hplaces := hstores.map_entryPlaces start image.entries 0 (by omega) hlt
  have hmem := List.mem_map_of_mem (f := patch.movedPlace) (h.place_mem hblock)
  rw [Nat.add_zero, Nat.add_zero] at hplaces
  rw [hplaces] at hmem
  have hholds := (image.retext number bytes).holds_start (UInt32.ofNat (image.retext number bytes).texts.symbolsEnd)
    (UInt32.ofNat (image.retext number bytes).base) (patch.movedStart start) hmem
  obtain ⟨-, -, hmoved⟩ := h.moved_address hstores hlt hblock
  rwa [← h.bytes_edited hstores hbase hlt hfile, Patch.movedPlace, Block.place, hmoved,
    patch.ofNat_moved_start (image.textEdit number bytes) hstores.offset hstores.lengthDelta] at hholds

/-- Replacing the text of a symbol and repairing what points behind it edits the file and nothing else. -/
theorem editedTo : script.EditedTo (image.textEdit number bytes) edited.bytes := by
  have hwas := h.holds_tableEnds
  have hnow := h.holds_tableEnds_edited hstores hbase hlt hfile
  have hbehind : script.header.symbolTableEndOffset + 4 = script.header.blockTableEndOffset := by
    rw [h.header]
    rfl
  rw [holds_append, size_ofUInt32, hbehind] at hwas hnow
  refine ⟨?_, h.ends_le number bytes, fun block hblock => (h.moved_address hstores hlt hblock).1, h.holds_text hstores,
    h.holds_text_edited hstores hbase hlt hfile, ⟨hwas.1, hnow.1⟩, ⟨hwas.2, hnow.2⟩,
    fun block hblock => ⟨h.holds_start hblock, h.holds_start_edited hstores hbase hlt hfile hblock⟩, ?_⟩
  · rw [h.size_edited hstores hfile, h.size_eq, Image.size_toBytes_retext bytes hstores.index_lt hstores.size_pos]
    rfl
  · intro pos hpos
    obtain ⟨spliced, hsplice, hrepairs⟩ := foldlM_perform_cons.1 hfile
    rw [getElem?_foldlM_perform (h.isWriteBeside_of_spares hstores hlt hpos) hrepairs]
    exact TextEdit.getElem?_splice hsplice hpos.text

end

end Script.LaidOut

/-! ## Edits of scripts that edits have led to -/

/-- The script comes from another one by edits during which the file stays small. -/
def Script.Reaches (script state : Script) : Prop :=
  ∃ requests, script.StaysSmall requests ∧ script.runEdits requests = state

/-- The blocks of a small image start behind its symbols. -/
theorem Image.offset_lt_start {image : Image} {view : View} (hvalid : image.Valid view.encoding) (hfits : view.Fits image)
    {line : DialogueLine} (hline : line ∈ (image.script view).dialogue) {block : Block} (hblock : block ∈ (image.script view).blocks) :
    line.offset < block.start.toNat := by
  have hlaid := laidOut_script hvalid.entries_length hfits
  obtain ⟨hlt, hoffset⟩ := hlaid.lines line hline
  obtain ⟨distance, entry, hentry, hplace, -⟩ := exists_of_mem_entryPlaces (hlaid.place_mem hblock)
  have hstart : block.start = entry.startWord image.base := congrArg Prod.snd hplace
  rw [hstart, BlockEntry.toNat_startWord (hvalid.start_lt' entry hentry), hoffset]
  have hend := Texts.symbolOffset_lt hlt (Nat.le_refl _)
  have hle := image.symbolsEnd_le_base
  rw [Texts.symbolOffset_length] at hend
  omega

/-- While the file stays small, blocks that started at signed positions start behind every line. -/
theorem Script.ExactTables.offset_lt_start {catalog : Catalog} {script : Script} (h : script.ExactTables catalog)
    (hstart : ∀ block ∈ script.blocks, block.start.toNat < sizeLimit) {requests : List EditRequest} (hsmall : script.StaysSmall requests)
    {line : DialogueLine} (hline : line ∈ (script.runEdits requests).dialogue) :
    ∀ block ∈ (script.runEdits requests).blocks, line.offset < block.start.toNat := by
  obtain ⟨image, units, -, hruns, hnamed, -, hvalid, hrun⟩ := h.exists_runEdits hstart hsmall
  have hretexted := Image.retexted_runEdits (image.freshView script.encoding units) image requests
  have hfits := (Image.fits_freshView hruns hnamed).of_retexted hretexted
  rw [hrun] at hline ⊢
  intro block hblock
  exact Image.offset_lt_start hvalid hfits hline hblock

/-- The sample after its requests. -/
def Image.sampleGreeting : Image :=
  sample.retext 1 #[72, 101, 108, 108, 111, 32, 116, 104, 101, 114, 101, 46]

theorem Image.runEdits_sample : sample.runEdits View.sample Script.sampleRequests = sampleGreeting := by
  rfl

theorem Image.edit?_sampleGreeting : sampleGreeting.edit? View.sample 1 "See you." 256 =
    some (sampleGreeting.retext 3 #[83, 101, 101, 32, 121, 111, 117, 46], ⟨1, 4, none⟩) := by
  rfl

/-- The sample after its requests has an edit of its second line. -/
theorem Script.exists_edit_sample : sample.Reaches (sample.runEdits sampleRequests) ∧
    ∃ line edited, (sample.runEdits sampleRequests).line 1 = .ok line ∧ line.text ≠ "See you." ∧
      (sample.runEdits sampleRequests).edit 1 "See you." 256 = .ok (edited, ⟨1, 4, none⟩) ∧ edited.bytes.size < UInt64.size := by
  obtain ⟨hrun, hvalid⟩ := Image.runEdits_script Image.valid_sample Image.fits_sample staysSmall_sample
  rw [Image.runEdits_sample] at hrun hvalid
  have hfits : View.sample.Fits Image.sampleGreeting := Image.fits_sample.of_retexted (Image.retexted_retext ..)
  have hline : (sample.runEdits sampleRequests).line 1 =
      .ok (Image.sampleGreeting.texts.line .shiftJis ⟨.ofCode "HRH", 3, "V01_HRH0002"⟩) := by
    rw [sample, hrun]
    rfl
  obtain ⟨edited, hedit, hsize, -⟩ := Image.exists_edit_script hvalid hfits Image.edit?_sampleGreeting
  rw [← hrun] at hedit
  refine ⟨⟨sampleRequests, staysSmall_sample, rfl⟩, _, edited, hline, by decide +kernel, hedit, ?_⟩
  rw [hsize, Image.size_toBytes]
  decide +kernel

end SceneScript
