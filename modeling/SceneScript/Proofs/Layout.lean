import SceneScript.Proofs.EditRuns

/-!
# Layouts

An image counts the starts of its blocks from the end of the table, so it cannot say what becomes of a start that does not fit a
word any more. `Script.LaidOut` is what an edit goes by, with whatever start words the entries have: where the texts, the ends of the
tables and the entries stand. Every script with exact tables is laid out so (`Script.ExactTables.exists_laidOut`), an edit rewrites
the words (`Script.LaidOut.bytes_edited`), and edits keep the layout (`Script.LaidOut.exists_runEdits`).
-/

namespace SceneScript

open Bytes

/-! ## Where entries stand -/

/-- Where a block stands in the table, and where its instructions start. -/
def Block.place (block : Block) : Nat × UInt32 :=
  (block.address, block.start)

/-- The places of entries from `address` on, with their start words. -/
def entryPlaces (start : BlockEntry → UInt32) : Nat → List BlockEntry → List (Nat × UInt32)
  | _, [] => []
  | address, entry :: rest => (address, start entry) :: entryPlaces start (address + Header.blockEntrySize) rest

/-- Every place is that of an entry in the table. -/
theorem exists_of_mem_entryPlaces {start : BlockEntry → UInt32} {address : Nat} {entries : List BlockEntry} {place : Nat × UInt32}
    (h : place ∈ entryPlaces start address entries) :
    ∃ distance, ∃ entry ∈ entries, place = (address + distance, start entry) ∧
      distance + Header.blockEntrySize ≤ Header.blockEntrySize * entries.length := by
  induction entries generalizing address with
  | nil => nomatch h
  | cons entry entries ih =>
    rw [entryPlaces, List.mem_cons] at h
    simp only [List.length_cons, Header.blockEntrySize] at *
    rcases h with rfl | h
    · exact ⟨0, entry, List.mem_cons_self .., rfl, by omega⟩
    · obtain ⟨distance, other, hother, rfl, hle⟩ := ih h
      refine ⟨8 + distance, other, List.mem_cons_of_mem _ hother, ?_, by omega⟩
      rw [Nat.add_assoc]

/-- The blocks of entries stand where the entries do. -/
theorem map_place_placeBlocks (base address first : Nat) {entries : List BlockEntry} {units : List (String × List Invocation)}
    (hlength : units.length = entries.length) :
    (placeBlocks base address first entries units).map Block.place = entryPlaces (BlockEntry.startWord base) address entries := by
  induction entries generalizing address first units with
  | nil => cases units <;> rfl
  | cons entry entries ih =>
    match units, hlength with
    | (name, run) :: units, hlength =>
      rw [placeBlocks, List.map_cons, entryPlaces, ih _ _ (Nat.succ.inj hlength)]
      rfl

/-- The writes for a table are writes of the start words at the places of its entries. -/
theorem entryWrites_eq_map (start : BlockEntry → UInt32) (address : Nat) (entries : List BlockEntry) :
    entryWrites start address entries = (entryPlaces start address entries).map fun place => .word (place.1 + 4) place.2 := by
  induction entries generalizing address with
  | nil => rfl
  | cons entry entries ih => rw [entryWrites, entryPlaces, List.map_cons, ih]

/-- The start word of an entry after a patch. -/
def Patch.movedStart (patch : Patch) (start : BlockEntry → UInt32) (entry : BlockEntry) : UInt32 :=
  UInt32.ofNat (patch.moved (start entry).toNat)

/-- The place of an entry after a patch. -/
def Patch.movedPlace (patch : Patch) (place : Nat × UInt32) : Nat × UInt32 :=
  (patch.moved place.1, UInt32.ofNat (patch.moved place.2.toNat))

/-- Entries move with the table. -/
theorem Patch.Stores.map_entryPlaces {patch : Patch} {image : Image} {index : Nat} {text : Bytes}
    (h : patch.Stores image index text) (start : BlockEntry → UInt32) (entries : List BlockEntry) (distance : Nat)
    (hend : distance + Header.blockEntrySize * entries.length ≤ Header.blockEntrySize * image.entries.length)
    (hlt : (image.retext index text).base < UInt64.size) :
    (entryPlaces start (image.texts.symbolsEnd + distance) entries).map patch.movedPlace =
      entryPlaces (patch.movedStart start) ((image.retext index text).texts.symbolsEnd + distance) entries := by
  induction entries generalizing distance with
  | nil => rfl
  | cons entry entries ih =>
    have hbase : (image.retext index text).base =
        (image.retext index text).texts.symbolsEnd + Header.blockEntrySize * image.entries.length := rfl
    simp only [List.length_cons, Header.blockEntrySize] at *
    have haddress := h.moved_symbolsEnd_add distance (by omega)
    have hrest := ih (distance + 8) (by omega)
    simp only [entryPlaces, Header.blockEntrySize, List.map_cons, Nat.add_assoc, haddress, movedStart, movedPlace] at hrest ⊢
    rw [hrest]

/-! ## Where words stand -/

/-- The start words stand in a table at the places of its entries. -/
theorem holds_of_mem_entryPlaces {buf : Bytes} {start : BlockEntry → UInt32} {address : Nat} {entries : List BlockEntry}
    (h : buf.Holds address (tableBytesWith start entries)) {place : Nat × UInt32} (hplace : place ∈ entryPlaces start address entries) :
    buf.Holds (place.1 + 4) (ofUInt32 place.2) := by
  induction entries generalizing address with
  | nil => nomatch hplace
  | cons entry entries ih =>
    rw [tableBytesWith, List.map_cons, concat_cons, holds_append, BlockEntry.size_bytesWith, BlockEntry.bytesWith, holds_append,
      holds_append] at h
    obtain ⟨⟨-, -, hstart⟩, hrest⟩ := h
    rw [entryPlaces, List.mem_cons] at hplace
    rcases hplace with rfl | hplace
    · exact hstart
    · exact ih hrest hplace

namespace Image

variable (image : Image) (symbolTableEnd blockTableEnd : UInt32) (start : BlockEntry → UInt32)

theorem holds_headBytes : (image.bytesWith symbolTableEnd blockTableEnd start).Holds 0
    (image.texts.headBytes (UInt16.ofNat image.entries.length) symbolTableEnd blockTableEnd) :=
  (holds_self _).append_left _

/-- The ends of the two tables stand behind the counts. -/
theorem holds_tableEnds : (image.bytesWith symbolTableEnd blockTableEnd start).Holds (image.texts.identityBytes.size + 4)
    (ofUInt32 symbolTableEnd ++ ofUInt32 blockTableEnd) := by
  have hhead := image.holds_headBytes symbolTableEnd blockTableEnd start
  simp only [Texts.headBytes, holds_append, size_ofUInt16, size_ofUInt32, Nat.zero_add, Nat.add_assoc] at hhead ⊢
  exact ⟨hhead.2.2.2.1, hhead.2.2.2.2.1⟩

/-- The start words stand in the table. -/
theorem holds_start {place : Nat × UInt32} (h : place ∈ entryPlaces start image.texts.symbolsEnd image.entries) :
    (image.bytesWith symbolTableEnd blockTableEnd start).Holds (place.1 + 4) (ofUInt32 place.2) := by
  refine holds_of_mem_entryPlaces ?_ h
  have hmiddle := holds_middle (image.texts.headBytes (UInt16.ofNat image.entries.length) symbolTableEnd blockTableEnd)
    (tableBytesWith start image.entries) image.body
  rwa [Texts.size_headBytes, Array.append_assoc] at hmiddle

/-- A symbol stands at its position. -/
theorem holds_symbol {number : Nat} (h : number < image.texts.symbols.length) :
    (image.bytesWith symbolTableEnd blockTableEnd start).Holds (image.texts.symbolOffset number)
      (StoredText.written (image.texts.stored number)) :=
  (Texts.holds_stored h _ _ _).append_left _

end Image

/-! ## What edits go by -/

/-- The script is laid out like an image, with the true ends of the tables and the given start words in the table. -/
structure Script.LaidOut (script : Script) (image : Image) (start : BlockEntry → UInt32) : Prop where
  bytes : script.bytes = image.bytesWith (UInt32.ofNat image.texts.symbolsEnd) (UInt32.ofNat image.base) start
  header : script.header = image.header script.encoding
  entries_length : image.entries.length < UInt16.size
  places : script.blocks.map Block.place = entryPlaces start image.texts.symbolsEnd image.entries
  symbols : script.symbols = image.texts.symbolTable script.encoding
  lines : ∀ line ∈ script.dialogue, line.symbolIndex < image.texts.symbols.length ∧
    line.offset = image.texts.symbolOffset line.symbolIndex

/-- The script of an image is laid out like the image. -/
theorem Image.laidOut_script {image : Image} {view : View} (hcount : image.entries.length < UInt16.size) (hfits : view.Fits image) :
    (image.script view).LaidOut image (BlockEntry.startWord image.base) := by
  refine ⟨image.toBytes_eq_bytesWith, rfl, hcount, map_place_placeBlocks _ _ _ hfits.units_length, rfl, ?_⟩
  intro line hline
  obtain ⟨mark, hmark, rfl⟩ := List.mem_map.1 hline
  exact ⟨hfits.symbolIndex_lt mark hmark, rfl⟩

/-- A script with exact tables is laid out, wherever its blocks start. -/
theorem Script.ExactTables.exists_laidOut {catalog : Catalog} {script : Script} (h : script.ExactTables catalog)
    (hsize : script.bytes.size < sizeLimit) : ∃ image start, script.LaidOut image start := by
  obtain ⟨image, units, hreadable, hruns, hnamed, hscript⟩ := h.exists_readable hsize
  have hlaid := Image.laidOut_script hreadable.entries_length (Image.fits_freshView hruns hnamed)
  rw [← hscript] at hlaid
  exact ⟨image, _, hlaid⟩

/-! ## What an edit does -/

/-- What has to be repaired depends on what moves. -/
theorem Script.repairs_congr (script : Script) {patch other : Patch} (hoffset : patch.offset = other.offset)
    (hdelta : patch.lengthDelta = other.lengthDelta) : script.repairs patch = script.repairs other := by
  have hmoved : patch.moved = other.moved := by
    funext pos
    rw [Patch.moved, Patch.moved, hoffset, hdelta]
  rw [repairs, repairs, hmoved]

/-- The text that a line has already leaves the script as it is. -/
theorem Script.edit_of_text_eq {script : Script} {index : Nat} {text : String} {line : DialogueLine}
    (hline : script.line index = .ok line) (htext : line.text = text) (cap : Nat) :
    script.edit index text cap = .ok (script, ⟨index, 0, none⟩) := by
  rw [edit, hline]
  exact if_pos htext

/-- An edit that succeeds has a line. It leaves the script as it is, or gives the line another text. -/
theorem Script.exists_line_of_edit {script edited : Script} {index cap : Nat} {text : String} {outcome : EditOutcome}
    (hedit : script.edit index text cap = .ok (edited, outcome)) :
    ∃ line, script.line index = .ok line ∧
      (line.text = text ∧ edited = script ∧ outcome = ⟨index, 0, none⟩ ∨ line.text ≠ text) := by
  cases hline : script.line index with
  | error e =>
    rw [edit, hline] at hedit
    cases hedit
  | ok line =>
    refine ⟨line, rfl, ?_⟩
    by_cases hnew : line.text = text
    · rw [edit_of_text_eq hline hnew, Except.ok.injEq, Prod.mk.injEq] at hedit
      exact .inl ⟨hnew, hedit.1.symm, hedit.2.symm⟩
    · exact .inr hnew

/-- The patch of an edit that succeeds and is not for the text that the line has already. -/
theorem Script.exists_patch_of_edit {script edited : Script} {index cap : Nat} {text : String} {line : DialogueLine}
    {outcome : EditOutcome} (hline : script.line index = .ok line) (hnew : line.text ≠ text)
    (hedit : script.edit index text cap = .ok (edited, outcome)) :
    ∃ (patch : Patch) (declared : Int32) (old : Bytes) (next : Nat), script.bytes.readInt32 line.offset = .ok declared ∧
      ¬ declared < 1 ∧ StoredText.readBytes script.bytes line.offset = .ok (old, next) ∧ patch.offset = line.offset ∧
      patch.newText = (script.encoding.capLine text cap).bytes.toArray ∧
      patch.lengthDelta = (patch.newText.size - old.size : Int) ∧
      patch.changes = .splice line.offset (line.offset + 4 + old.size)
        (ofUInt32 (StoredText.declaredLength patch.newText.size) ++ patch.newText) :: script.repairs patch ∧
      patch.changes.foldlM Change.perform script.bytes = .ok edited.bytes ∧ edited = script.rebase patch edited.bytes ∧
      outcome.lengthDelta = patch.lengthDelta ∧ outcome.truncation = (script.encoding.capLine text cap).truncation? index cap := by
  simp only [edit, hline, bind_eq_ok_iff, Except.ok.injEq, exists_eq_left', if_neg hnew, pure_eq_ok_iff, Prod.mk.injEq] at hedit
  obtain ⟨patch, hplan, bytes, happly, rfl, rfl⟩ := hedit
  have hfile := Patch.apply_eq_ok_iff.1 happly
  simp only [planEdit, hline, bind_eq_ok_iff, Except.ok.injEq, exists_eq_left'] at hplan
  obtain ⟨declared, hdeclared, hplan⟩ := hplan
  split at hplan
  · obtain ⟨_, hthrow, -⟩ := bind_eq_ok_iff.1 hplan
    exact (throw_eq_ok_iff.1 hthrow).elim
  next hterminated =>
    obtain ⟨⟨old, next⟩, hread, hplan⟩ := bind_eq_ok_iff.1 hplan
    rw [pure_eq_ok_iff] at hplan
    rw [Encoding.capLine]
    generalize script.encoding.encodeCapped (LineBreak.escape text) cap = capped at hplan ⊢
    subst hplan
    refine ⟨_, declared, old, next, hdeclared, hterminated, hread, rfl, rfl, rfl, ?_, hfile, rfl, rfl, rfl⟩
    exact congrArg (_ :: ·) (script.repairs_congr rfl rfl)

theorem Script.mem_of_line {script : Script} {index : Nat} {line : DialogueLine} (h : script.line index = .ok line) :
    line ∈ script.dialogue := by
  unfold Script.line at h
  split at h
  next found hfound =>
    cases h
    exact List.mem_of_getElem? hfound
  next => nomatch h

/-- The repairs are writes. -/
theorem Script.exists_word_of_mem_repairs {script : Script} {patch : Patch} {change : Change} (h : change ∈ script.repairs patch) :
    ∃ offset value, change = .word offset value := by
  simp only [repairs, List.mem_cons, List.mem_map] at h
  rcases h with rfl | rfl | ⟨block, -, rfl⟩ <;> exact ⟨_, _, rfl⟩

namespace Script.LaidOut

variable {script edited : Script} {image : Image} {start : BlockEntry → UInt32} {index cap : Nat} {text : String}
  {line : DialogueLine} {outcome : EditOutcome}

theorem size_eq (h : script.LaidOut image start) : script.bytes.size = image.toBytes.size := by
  rw [h.bytes, Image.size_bytesWith]

theorem base_lt (h : script.LaidOut image start) (hsize : script.bytes.size < sizeLimit) : image.base < sizeLimit := by
  rw [h.size_eq, Image.size_toBytes] at hsize
  omega

theorem place_mem (h : script.LaidOut image start) {block : Block} (hblock : block ∈ script.blocks) :
    block.place ∈ entryPlaces start image.texts.symbolsEnd image.entries := by
  rw [← h.places]
  exact List.mem_map_of_mem hblock

/-- An edit stores a text for the symbol of the line. -/
theorem exists_stores (h : script.LaidOut image start) (hsize : script.bytes.size < sizeLimit) (hline : script.line index = .ok line)
    (hnew : line.text ≠ text) (hedit : script.edit index text cap = .ok (edited, outcome)) :
    ∃ patch : Patch, patch.Stores image line.symbolIndex (script.encoding.capLine text cap).bytes.toArray ∧
      (image.storing line.symbolIndex (script.encoding.capLine text cap).bytes.toArray :: script.repairs patch).foldlM Change.perform
        script.bytes = .ok edited.bytes ∧ edited = script.rebase patch edited.bytes ∧ outcome.lengthDelta = patch.lengthDelta := by
  obtain ⟨patch, declared, old, next, hdeclared, hterminated, hread, hoffset, htext, hdelta, hchanges, hfile, hedited, houtcome, -⟩ :=
    exists_patch_of_edit hline hnew hedit
  obtain ⟨hlt, hnumber⟩ := h.lines line (mem_of_line hline)
  have hsymbol := image.holds_symbol (UInt32.ofNat image.texts.symbolsEnd) (UInt32.ofNat image.base) start hlt
  rw [← h.bytes, ← hnumber] at hsymbol
  have hstored : (image.texts.stored line.symbolIndex).size < sizeLimit := by
    have hle := hsymbol.le_size
    rw [StoredText.size_written] at hle
    omega
  have hold : old = (image.texts.stored line.symbolIndex).pop := by
    have hread' := StoredText.readBytes_eq_ok_iff.2 ⟨_, hstored, hsymbol, rfl, rfl⟩
    rw [hread, Except.ok.injEq, Prod.mk.injEq] at hread'
    exact hread'.1
  have hpos : 0 < (image.texts.stored line.symbolIndex).size := by
    rw [StoredText.written, holds_append] at hsymbol
    have hword := (readInt32_eq_ok_iff.1 hdeclared).eq hsymbol.1 rfl
    rw [ofInt32] at hword
    rw [← Int32.toInt32_toUInt32 declared, ofUInt32_inj hword, toInt32_ofNat_lt_one_iff hstored] at hterminated
    omega
  rw [hold, hnumber, htext] at hchanges
  rw [hold, htext] at hdelta
  rw [hchanges] at hfile
  exact ⟨patch, ⟨hlt, hpos, hoffset.trans hnumber, htext, hdelta⟩, hfile, hedited, houtcome⟩

/-- The repairs give the true ends of the tables, and move the start words. -/
theorem repairs_eq (h : script.LaidOut image start) {patch : Patch} {number : Nat} {bytes : Bytes}
    (hstores : patch.Stores image number bytes) (hbase : image.base < sizeLimit) (hlt : (image.retext number bytes).base < UInt64.size) :
    script.repairs patch = .word (image.texts.identityBytes.size + 4) (UInt32.ofNat (image.retext number bytes).texts.symbolsEnd) ::
      .word (image.texts.identityBytes.size + 8) (UInt32.ofNat (image.retext number bytes).base) ::
      entryWrites (patch.movedStart start) (image.retext number bytes).texts.symbolsEnd image.entries := by
  have hbase' : (image.retext number bytes).base =
      (image.retext number bytes).texts.symbolsEnd + Header.blockEntrySize * image.entries.length := rfl
  have hle := image.symbolsEnd_le_base
  have hle' := (image.retext number bytes).symbolsEnd_le_base
  have hends := hstores.moved_symbolsEnd_add 0 (by omega)
  have hplaces := hstores.map_entryPlaces start image.entries 0 (by omega) hlt
  have hcount : (UInt16.ofNat image.entries.length).toNat = image.entries.length := by
    rw [UInt16.toNat_ofNat', Nat.mod_eq_of_lt h.entries_length]
  have hsymbolTableEnd : patch.moved (image.texts.identityBytes.size + 4) = image.texts.identityBytes.size + 4 :=
    hstores.moved_of_le (by simp only [Texts.symbolsStart]; omega)
  have hblockTableEnd : patch.moved (image.texts.identityBytes.size + 8) = image.texts.identityBytes.size + 8 :=
    hstores.moved_of_le (by simp only [Texts.symbolsStart]; omega)
  simp only [Nat.add_zero] at hends hplaces
  rw [← h.places, List.map_map] at hplaces
  have hwrites : script.blocks.map (fun block =>
      Change.word ((patch.moved block.address + 4) % UInt64.size) (UInt32.ofNat (patch.moved block.start.toNat))) =
        entryWrites (patch.movedStart start) (image.retext number bytes).texts.symbolsEnd image.entries := by
    rw [entryWrites_eq_map, ← hplaces, List.map_map]
    refine List.map_congr_left fun block hblock => ?_
    have hmem := List.mem_map_of_mem (f := patch.movedPlace ∘ Block.place) hblock
    rw [hplaces] at hmem
    obtain ⟨distance, entry, -, hplace, hdistance⟩ := exists_of_mem_entryPlaces hmem
    have haddress := congrArg Prod.fst hplace
    simp only [Function.comp_apply, Patch.movedPlace, Block.place, Header.blockEntrySize] at haddress hdistance hbase' ⊢
    rw [Nat.mod_eq_of_lt (by omega)]
  rw [repairs, hwrites, h.header]
  simp only [Image.header, Texts.header, toNat_ofNat_of_lt (Nat.lt_of_le_of_lt hle hbase), hends, hsymbolTableEnd, hblockTableEnd,
    hcount, ← hbase']

/-- The file grows by the difference in length. -/
theorem size_edited (h : script.LaidOut image start) {patch : Patch} {number : Nat} {bytes : Bytes}
    (hstores : patch.Stores image number bytes)
    (hfile : (image.storing number bytes :: script.repairs patch).foldlM Change.perform script.bytes =
      .ok edited.bytes) : edited.bytes.size = (image.retext number bytes).toBytes.size := by
  obtain ⟨spliced, hsplice, hrepairs⟩ := foldlM_perform_cons.1 hfile
  obtain ⟨⟨hstart, hstop⟩, rfl⟩ := Change.perform_splice_eq_ok_iff.1 hsplice
  have hsize := size_foldlM_perform (fun _ hchange => exists_word_of_mem_repairs hchange) hrepairs
  have hretext := Image.size_toBytes_retext bytes hstores.index_lt hstores.size_pos
  rw [size_replaceRange hstart hstop, Array.size_append, size_ofUInt32] at hsize
  rw [h.size_eq] at hsize hstop
  omega

/-- An edit makes the file of the image with the new text, with the true ends of the tables and the start words moved. -/
theorem bytes_edited (h : script.LaidOut image start) {patch : Patch} {number : Nat} {bytes : Bytes}
    (hstores : patch.Stores image number bytes) (hbase : image.base < sizeLimit) (hlt : (image.retext number bytes).base < UInt64.size)
    (hfile : (image.storing number bytes :: script.repairs patch).foldlM Change.perform script.bytes =
      .ok edited.bytes) :
    edited.bytes = (image.retext number bytes).bytesWith (UInt32.ofNat (image.retext number bytes).texts.symbolsEnd)
      (UInt32.ofNat (image.retext number bytes).base) (patch.movedStart start) := by
  rw [h.repairs_eq hstores hbase hlt, h.bytes, Image.perform_rewrites bytes hstores.index_lt hstores.size_pos, Except.ok.injEq] at hfile
  exact hfile.symm

/-- A script that is brought in line with the patch is laid out like the image with the new text. -/
theorem rebase (h : script.LaidOut image start) {patch : Patch} {number : Nat} {bytes : Bytes} (hstores : patch.Stores image number bytes)
    (hbase : image.base < sizeLimit) (hlt : (image.retext number bytes).base < sizeLimit) :
    (script.rebase patch ((image.retext number bytes).bytesWith (UInt32.ofNat (image.retext number bytes).texts.symbolsEnd)
      (UInt32.ofNat (image.retext number bytes).base) (patch.movedStart start))).LaidOut (image.retext number bytes)
        (patch.movedStart start) := by
  have hlt' : (image.retext number bytes).base < UInt64.size := by
    simp only [sizeLimit, UInt64.size] at *
    omega
  refine ⟨rfl, ?_, h.entries_length, ?_, ?_, ?_⟩
  · simp only [Script.rebase, h.header]
    exact hstores.rebaseHeader_eq _ h.entries_length hbase hlt
  · have hplaces := hstores.map_entryPlaces start image.entries 0 (by omega) hlt'
    rw [Nat.add_zero, Nat.add_zero, ← h.places, List.map_map] at hplaces
    rw [Script.rebase, List.map_map]
    exact hplaces
  · simp only [Script.rebase, h.symbols]
    rw [hstores.map_rebaseSymbol _ hlt']
  · intro line hline
    obtain ⟨other, hother, rfl⟩ := List.mem_map.1 hline
    obtain ⟨hnumber, hoffset⟩ := h.lines other hother
    rw [rebaseLine, Image.texts_retext, Texts.length_symbols_retext, hoffset, hstores.moved_symbolOffset hnumber hlt']
    exact ⟨hnumber, rfl⟩

/-- An edit for another text stores the text for the symbol of the line, and leaves the layout of the image with the text. -/
theorem laidOut_of_edit (h : script.LaidOut image start) (hsize : script.bytes.size < sizeLimit) (hline : script.line index = .ok line)
    (hnew : line.text ≠ text) (hedit : script.edit index text cap = .ok (edited, outcome)) (hsize' : edited.bytes.size < sizeLimit) :
    ∃ patch : Patch, patch.Stores image line.symbolIndex (script.encoding.capLine text cap).bytes.toArray ∧
      edited = script.rebase patch edited.bytes ∧
      (image.retext line.symbolIndex (script.encoding.capLine text cap).bytes.toArray).base < sizeLimit ∧
      edited.LaidOut (image.retext line.symbolIndex (script.encoding.capLine text cap).bytes.toArray) (patch.movedStart start) := by
  obtain ⟨patch, hstores, hfile, hedited, -⟩ := h.exists_stores hsize hline hnew hedit
  have hbase := h.base_lt hsize
  have hlt : (image.retext line.symbolIndex (script.encoding.capLine text cap).bytes.toArray).base < sizeLimit := by
    rw [h.size_edited hstores hfile, Image.size_toBytes] at hsize'
    omega
  have hbytes := h.bytes_edited hstores hbase (by simp only [sizeLimit, UInt64.size] at *; omega) hfile
  refine ⟨patch, hstores, hedited, hlt, ?_⟩
  rw [hedited, hbytes]
  exact h.rebase hstores hbase hlt

/-- An edit keeps the layout. -/
theorem exists_of_edit (h : script.LaidOut image start) (hsize : script.bytes.size < sizeLimit)
    (hedit : script.edit index text cap = .ok (edited, outcome)) (hsize' : edited.bytes.size < sizeLimit) :
    ∃ image' start', edited.LaidOut image' start' := by
  obtain ⟨line, hline, ⟨-, rfl, -⟩ | hnew⟩ := exists_line_of_edit hedit
  · exact ⟨image, start, h⟩
  · obtain ⟨patch, -, -, -, hlaid⟩ := h.laidOut_of_edit hsize hline hnew hedit hsize'
    exact ⟨_, _, hlaid⟩

/-- What every edit keeps is kept by requests, and so is the layout, while the file stays small. -/
theorem runEdits_induction {P : Script → Prop} {requests : List EditRequest} (h : script.LaidOut image start)
    (hsmall : script.StaysSmall requests) (hscript : P script)
    (hedit : ∀ {state edited : Script} {image : Image} {start : BlockEntry → UInt32} {index cap : Nat} {text : String}
      {outcome : EditOutcome}, state.LaidOut image start → state.bytes.size < sizeLimit → P state →
        state.edit index text cap = .ok (edited, outcome) → edited.bytes.size < sizeLimit → P edited) :
    P (script.runEdits requests) ∧ ∃ image' start', (script.runEdits requests).LaidOut image' start' := by
  induction requests generalizing script image start with
  | nil => exact ⟨hscript, image, start, h⟩
  | cons request rest ih =>
    have hstep : P (script.applyEdit request) ∧ ∃ image' start', (script.applyEdit request).LaidOut image' start' := by
      have hsize' := hsmall.tail.size_lt
      unfold applyEdit at hsize' ⊢
      split at hsize'
      next edited outcome hserved =>
        exact ⟨hedit h hsmall.size_lt hscript hserved hsize', h.exists_of_edit hsmall.size_lt hserved hsize'⟩
      next => exact ⟨hscript, image, start, h⟩
    obtain ⟨hnext, image', start', hlaid⟩ := hstep
    exact ih hlaid hsmall.tail hnext

/-- Edits keep the layout while the file stays small. -/
theorem exists_runEdits {requests : List EditRequest} (h : script.LaidOut image start) (hsmall : script.StaysSmall requests) :
    ∃ image' start', (script.runEdits requests).LaidOut image' start' :=
  (h.runEdits_induction (P := fun _ => True) hsmall trivial fun _ _ _ _ _ => trivial).2

end Script.LaidOut

end SceneScript
