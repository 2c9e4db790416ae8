import SceneScript.Edit
import SceneScript.Proofs.Capping
import SceneScript.Proofs.Retext

/-!
# Edits as new texts in images

`Image.edit?` is the edit of a spoken line with nothing to repair: one text of an image is replaced. An edit of the script of an
image does the same to the file and brings the script in line with it: it succeeds exactly when `Image.edit?` does
(`Image.edit_script_of_none`), and leaves the script of the new image (`Image.exists_edit_script`).
-/

namespace SceneScript

open Bytes

/-! ## The edit of an image -/

/-- The bytes of a line in an encoding, at most `cap` of them. -/
def Encoding.capLine (encoding : Encoding) (text : String) (cap : Nat) : Encoding.Capped :=
  encoding.encodeCapped (LineBreak.escape text) cap

/-- A line takes no more bytes than its cap. -/
theorem Encoding.length_bytes_capLine_le (encoding : Encoding) (text : String) (cap : Nat) :
    (encoding.capLine text cap).bytes.length ≤ cap :=
  encoding.length_bytes_encodeCapped_le _ cap

/-- The note that the text of a line has been cut, if it has. -/
def Encoding.Capped.truncation? (capped : Encoding.Capped) (index cap : Nat) : Option Truncation :=
  if capped.truncated then some ⟨index, cap, capped.fullLength⟩ else none

/-- A line is cut exactly if it would take more bytes than its cap. -/
theorem Encoding.truncation?_capLine_eq_none_iff {encoding : Encoding} {text : String} {index cap : Nat} :
    (encoding.capLine text cap).truncation? index cap = none ↔ (encoding.encode (LineBreak.escape text)).length ≤ cap := by
  have hcut := encoding.truncated_encodeCapped_iff (LineBreak.escape text) cap
  rw [Capped.truncation?, capLine, ite_eq_right_iff, hcut]
  simp only [reduceCtorEq, imp_false, Nat.not_lt]

/-- Replaces the text of a line in an image. A line without a terminator cannot be replaced. -/
def Image.edit? (image : Image) (view : View) (index : Nat) (text : String) (cap : Nat) : Option (Image × EditOutcome) :=
  match view.marks[index]? with
  | none => none
  | some mark =>
    if (image.texts.line view.encoding mark).text = text then some (image, ⟨index, 0, none⟩)
    else if (image.texts.stored mark.symbolIndex).size = 0 then none
    else
      let capped := view.encoding.capLine text cap
      let delta : Int := capped.bytes.toArray.size - (image.texts.stored mark.symbolIndex).pop.size
      some (image.retext mark.symbolIndex capped.bytes.toArray, ⟨index, delta, capped.truncation? index cap⟩)

/-- The view matches the image: it has a unit for every entry, its instructions stand in the body, and its lines are symbols. -/
structure View.Fits (view : View) (image : Image) : Prop where
  units_length : view.units.length = image.entries.length
  within : ∀ invocation ∈ view.units.flatMap (·.2), invocation.Within image.body.size
  symbolIndex_lt : ∀ mark ∈ view.marks, mark.symbolIndex < image.texts.symbols.length

/-- A view that has just been read matches the image. -/
theorem Image.fits_freshView {image : Image} {catalog : Catalog} {encoding : Encoding} {units : List (String × List Invocation)}
    (hruns : Runs image.body catalog image.entries (units.map (·.2)))
    (hnamed : Named (image.texts.symbolTable encoding) image.entries units) : (image.freshView encoding units).Fits image :=
  ⟨hnamed.length_eq, fun _ hmem => Invocation.within_of_read (hruns.read_of_mem hmem), fun _ => Texts.symbolIndex_lt_of_mem_marks⟩

/-! ## Where a patch moves things -/

/-- The patch stores a text for a symbol of an image. -/
structure Patch.Stores (patch : Patch) (image : Image) (index : Nat) (text : Bytes) : Prop where
  index_lt : index < image.texts.symbols.length
  size_pos : 0 < (image.texts.stored index).size
  offset : patch.offset = image.texts.symbolOffset index
  newText : patch.newText = text
  lengthDelta : patch.lengthDelta = (text.size - (image.texts.stored index).pop.size : Int)

section

variable {patch : Patch} {image : Image} {index : Nat} {text : Bytes}

theorem Image.symbolsEnd_le_base (image : Image) : image.texts.symbolsEnd ≤ image.base :=
  Nat.le_add_right ..

theorem Patch.Stores.offset_lt (h : patch.Stores image index text) : patch.offset < image.texts.symbolsEnd := by
  rw [h.offset, ← Texts.symbolOffset_length]
  exact Texts.symbolOffset_lt h.index_lt (Nat.le_refl _)

/-- What stands in front of the symbols stays. -/
theorem Patch.Stores.moved_of_le (h : patch.Stores image index text) {pos : Nat} (hpos : pos ≤ image.texts.symbolsStart) :
    patch.moved pos = pos := by
  have hstart : image.texts.symbolsStart ≤ image.texts.symbolOffset index := Nat.le_add_right ..
  exact Patch.moved_of_le (by rw [h.offset]; omega)

/-- What stands behind the symbols moves with their end. -/
theorem Patch.Stores.moved_symbolsEnd_add (h : patch.Stores image index text) (distance : Nat)
    (hlt : (image.retext index text).texts.symbolsEnd + distance < UInt64.size) :
    patch.moved (image.texts.symbolsEnd + distance) = (image.retext index text).texts.symbolsEnd + distance := by
  have hends := Texts.symbolsEnd_retext text h.index_lt h.size_pos
  have hoffset := h.offset_lt
  refine Patch.moved_of_lt (by omega) ?_ hlt
  rw [h.lengthDelta, Image.texts_retext]
  omega

/-- What stands behind the block table moves with its end. -/
theorem Patch.Stores.moved_base_add (h : patch.Stores image index text) (distance : Nat)
    (hlt : (image.retext index text).base + distance < UInt64.size) :
    patch.moved (image.base + distance) = (image.retext index text).base + distance := by
  have hbase : (image.retext index text).base =
      (image.retext index text).texts.symbolsEnd + Header.blockEntrySize * image.entries.length := rfl
  rw [Image.base, hbase, Nat.add_assoc, Nat.add_assoc]
  exact h.moved_symbolsEnd_add _ (by omega)

/-- The symbols move to where the new texts have them. -/
theorem Patch.Stores.moved_symbolOffset (h : patch.Stores image index text) {other : Nat}
    (hother : other < image.texts.symbols.length) (hlt : (image.retext index text).base < UInt64.size) :
    patch.moved (image.texts.symbolOffset other) = (image.retext index text).texts.symbolOffset other := by
  have hoffset := Texts.symbolOffset_retext text h.size_pos (Nat.le_of_lt hother)
  have hother' : other < (image.texts.retext index text).symbols.length := by simpa using hother
  have hend := Texts.symbolOffset_lt hother' (Nat.le_refl _)
  rw [Texts.symbolOffset_length] at hend
  have hle := (image.retext index text).symbolsEnd_le_base
  rw [Image.texts_retext] at hle ⊢
  by_cases hbehind : index < other
  · rw [if_pos hbehind] at hoffset
    refine Patch.moved_of_lt ?_ (by rw [h.lengthDelta]; exact hoffset) (by omega)
    rw [h.offset]
    exact Texts.symbolOffset_lt hbehind (Nat.le_of_lt hother)
  · rw [if_neg hbehind] at hoffset
    rw [Patch.moved_of_le]
    · omega
    · rw [h.offset]
      rcases Nat.lt_or_eq_of_le (Nat.not_lt.1 hbehind) with hlt' | rfl
      · exact Nat.le_of_lt (Texts.symbolOffset_lt hlt' (Nat.le_of_lt h.index_lt))
      · exact Nat.le_refl _

/-! ## Bringing the script of an image in line -/

theorem Patch.Stores.rebaseHeader_eq (h : patch.Stores image index text) (encoding : Encoding)
    (hcount : image.entries.length < UInt16.size) (hbase : image.base < sizeLimit)
    (hlt : (image.retext index text).base < sizeLimit) :
    Script.rebaseHeader patch (image.header encoding) = (image.retext index text).header encoding := by
  have hle := image.symbolsEnd_le_base
  have hle' := (image.retext index text).symbolsEnd_le_base
  have hmoved := h.moved_symbolsEnd_add 0 (by simp only [sizeLimit, UInt64.size] at *; omega)
  simp only [Nat.add_zero, Image.texts_retext] at hmoved
  have hcount' : (UInt16.ofNat image.entries.length).toNat = image.entries.length := by
    rw [UInt16.toNat_ofNat', Nat.mod_eq_of_lt hcount]
  simp only [Script.rebaseHeader, Image.header, Texts.header, Image.base, Image.texts_retext, Image.entries_retext,
    toNat_ofNat_of_lt (Nat.lt_of_le_of_lt hle hbase), hmoved, hcount', Texts.length_symbols_retext, UInt32.ofNat_add]
  rfl

/-- The text that the patch stores is that of the symbol at its position, and of no other. -/
theorem Patch.Stores.symbolText_eq (h : patch.Stores image index text) (encoding : Encoding) {other : Nat}
    (hother : other < image.texts.symbols.length) :
    (if image.texts.symbolOffset other = patch.offset then encoding.decode patch.newText.toList
      else image.texts.symbolText encoding other) = (image.retext index text).texts.symbolText encoding other := by
  rw [h.offset, h.newText, Image.texts_retext]
  by_cases hsame : index = other
  · subst hsame
    rw [if_pos rfl, Texts.symbolText_retext_self hother]
  · rw [if_neg (by rw [Texts.symbolOffset_inj hother h.index_lt]; exact Ne.symm hsame), Texts.symbolText_retext_of_ne hsame]

theorem Patch.Stores.map_rebaseSymbol (h : patch.Stores image index text) (encoding : Encoding)
    (hlt : (image.retext index text).base < UInt64.size) :
    (image.texts.symbolTable encoding).symbols.map (Script.rebaseSymbol patch (encoding.decode patch.newText.toList)) =
      ((image.retext index text).texts.symbolTable encoding).symbols := by
  refine List.ext_getElem? fun other => ?_
  rw [List.getElem?_map]
  by_cases hother : other < image.texts.symbols.length
  · rw [Texts.symbolTable_getElem? encoding hother, Texts.symbolTable_getElem? encoding (by simpa using hother), Option.map_some,
      Script.rebaseSymbol, h.moved_symbolOffset hother hlt, h.symbolText_eq encoding hother]
  · have hlength : ∀ texts : Texts, texts.symbols.length = image.texts.symbols.length →
        (texts.symbolTable encoding).symbols[other]? = none := by
      intro texts htexts
      rw [List.getElem?_eq_none_iff, Texts.symbolTable, Texts.length_symbolsFrom]
      omega
    rw [hlength _ rfl, hlength _ (by simp), Option.map_none]

theorem Patch.Stores.map_rebaseLine (h : patch.Stores image index text) {view : View} (hfits : view.Fits image)
    (hlt : (image.retext index text).base < UInt64.size) :
    (view.marks.map (image.texts.line view.encoding)).map
        (Script.rebaseLine patch (view.encoding.decode patch.newText.toList)) =
      view.marks.map ((image.retext index text).texts.line view.encoding) := by
  rw [List.map_map]
  refine List.map_congr_left fun mark hmark => ?_
  have hother := hfits.symbolIndex_lt mark hmark
  simp only [Function.comp_apply, Script.rebaseLine, Texts.line, h.moved_symbolOffset hother hlt, ← h.symbolText_eq _ hother,
    apply_ite LineBreak.unescape]
  rfl

/-- Blocks move with the table, and their starts with the body. -/
theorem Patch.Stores.map_rebaseBlock (h : patch.Stores image index text) {entries : List BlockEntry}
    (units : List (String × List Invocation)) (hstart : ∀ entry ∈ entries, image.base + entry.start < UInt32.size)
    (distance : Nat) (hlt : (image.retext index text).base < sizeLimit)
    (hend : distance + Header.blockEntrySize * entries.length ≤ Header.blockEntrySize * image.entries.length) (first : Nat) :
    (placeBlocks image.base (image.texts.symbolsEnd + distance) first entries units).map (Script.rebaseBlock patch) =
      placeBlocks (image.retext index text).base ((image.retext index text).texts.symbolsEnd + distance) first entries units := by
  induction entries generalizing distance first units with
  | nil => cases units <;> rfl
  | cons entry entries ih =>
    match units with
    | [] => rfl
    | (name, run) :: units =>
      have hbase : (image.retext index text).base =
          (image.retext index text).texts.symbolsEnd + Header.blockEntrySize * image.entries.length := rfl
      have hentry := hstart entry (List.mem_cons_self ..)
      simp only [List.length_cons, Header.blockEntrySize, sizeLimit, UInt32.size] at *
      have hword : (entry.startWord image.base).toNat = image.base + entry.start := BlockEntry.toNat_startWord hentry
      have haddress := h.moved_symbolsEnd_add distance (by simp only [UInt64.size]; omega)
      have hmoved := h.moved_base_add entry.start (by simp only [UInt64.size]; omega)
      have hrest := ih units (fun e he => hstart e (List.mem_cons_of_mem _ he)) (distance + 8) (by omega)
        (first + run.length)
      rw [placeBlocks, placeBlocks, List.map_cons, Script.rebaseBlock]
      simp only [Header.blockEntrySize, hword, haddress, hmoved, Nat.add_assoc] at hrest ⊢
      rw [hrest, BlockEntry.startWord]

theorem Patch.Stores.rebaseInvocation_place (h : patch.Stores image index text) {invocation : Invocation} {size origin : Nat}
    (hwithin : invocation.Within size) (hlt : (image.retext index text).base + size < UInt64.size) :
    Script.rebaseInvocation patch (invocation.place image.base origin) =
      invocation.place (image.retext index text).base origin := by
  have haddress := hwithin.address_le
  have hparameters : (invocation.parameters.map (Parameter.moveBy image.base)).map
      (fun parameter => { parameter with offset := patch.moved parameter.offset }) =
        invocation.parameters.map (Parameter.moveBy (image.retext index text).base) := by
    rw [List.map_map]
    refine List.map_congr_left fun parameter hparameter => ?_
    have hoffset := hwithin.offset_le parameter hparameter
    simp only [Function.comp_apply, Parameter.moveBy]
    rw [h.moved_base_add _ (by omega)]
  simp only [Script.rebaseInvocation, Invocation.place, hparameters]
  rw [h.moved_base_add _ (by omega)]

/-- The script of an image, brought in line with the patch, is that of the image with the new text. -/
theorem Patch.Stores.rebase_script (h : patch.Stores image index text) {view : View} (hvalid : image.Valid view.encoding)
    (hfits : view.Fits image) (hsize : (image.retext index text).toBytes.size < sizeLimit) :
    (image.script view).rebase patch (image.retext index text).toBytes = (image.retext index text).script view := by
  rw [Image.size_toBytes, Image.body_retext] at hsize
  have hlt : (image.retext index text).base < sizeLimit := by omega
  have hlt' : (image.retext index text).base + image.body.size < UInt64.size := by
    simp only [sizeLimit, UInt64.size] at *
    omega
  have hinvocations : ((view.units.flatMap (·.2)).map (Invocation.place image.base view.origin)).map
      (Script.rebaseInvocation patch) = (view.units.flatMap (·.2)).map (Invocation.place (image.retext index text).base view.origin) := by
    rw [List.map_map]
    exact List.map_congr_left fun invocation hmem => h.rebaseInvocation_place (hfits.within invocation hmem) hlt'
  have hblocks := h.map_rebaseBlock view.units hvalid.start_lt' 0 hlt (by omega) 0
  have hsymbols := h.map_rebaseSymbol view.encoding (by omega)
  have hlines := h.map_rebaseLine hfits (by omega)
  simp only [Nat.add_zero] at hblocks
  simp only [Script.rebase, Image.script, h.rebaseHeader_eq _ hvalid.entries_length hvalid.base_lt hlt, hsymbols, hblocks, hinvocations, hlines,
    Image.entries_retext]

end

/-! ## What the edit of a line does -/

/-- The patch for a line of an image, without the repairs. -/
def Image.textPatch (image : Image) (view : View) (mark : LineMark) (index : Nat) (text : String) (cap : Nat) : Patch where
  dialogueIndex := index
  offset := image.texts.symbolOffset mark.symbolIndex
  oldLength := (image.texts.stored mark.symbolIndex).pop.size
  newText := (view.encoding.capLine text cap).bytes.toArray
  lengthDelta := (view.encoding.capLine text cap).bytes.toArray.size - (image.texts.stored mark.symbolIndex).pop.size
  changes := [.splice (image.texts.symbolOffset mark.symbolIndex)
    (image.texts.symbolOffset mark.symbolIndex + 4 + (image.texts.stored mark.symbolIndex).pop.size)
    (ofUInt32 (StoredText.declaredLength (view.encoding.capLine text cap).bytes.toArray.size) ++
      (view.encoding.capLine text cap).bytes.toArray)]
  truncation := (view.encoding.capLine text cap).truncation? index cap

/-- The patch for a line of an image. -/
def Image.editPatch (image : Image) (view : View) (mark : LineMark) (index : Nat) (text : String) (cap : Nat) : Patch :=
  let patch := image.textPatch view mark index text cap
  { patch with changes := patch.changes ++ (image.script view).repairs patch }

section

variable {image : Image} {view : View} {mark : LineMark} {index cap : Nat} {text : String}

theorem Image.line_script : (image.script view).line index =
    match view.marks[index]? with
    | some mark => .ok (image.texts.line view.encoding mark)
    | none => .error (.dialogueOutOfRange index view.marks.length) := by
  simp only [Script.line, script, List.getElem?_map, List.length_map]
  cases view.marks[index]? <;> rfl

theorem Image.lengthDelta_editPatch : (image.editPatch view mark index text cap).lengthDelta =
    ((view.encoding.capLine text cap).bytes.toArray.size - (image.texts.stored mark.symbolIndex).pop.size : Int) := by
  simp only [editPatch, textPatch]

theorem Image.truncation_editPatch : (image.editPatch view mark index text cap).truncation =
    (view.encoding.capLine text cap).truncation? index cap := by
  simp only [editPatch, textPatch]

theorem Image.stores_editPatch (hindex : mark.symbolIndex < image.texts.symbols.length)
    (h : 0 < (image.texts.stored mark.symbolIndex).size) :
    (image.editPatch view mark index text cap).Stores image mark.symbolIndex (view.encoding.capLine text cap).bytes.toArray :=
  ⟨hindex, h, rfl, rfl, rfl⟩

theorem Image.holds_stored (hindex : mark.symbolIndex < image.texts.symbols.length) :
    image.toBytes.Holds (image.texts.symbolOffset mark.symbolIndex) (StoredText.written (image.texts.stored mark.symbolIndex)) :=
  ((Texts.holds_stored hindex _ _ _).append_left _).append_left _

/-- The length of a line is read where its symbol stands. -/
theorem Image.readInt32_stored (hindex : mark.symbolIndex < image.texts.symbols.length) :
    image.toBytes.readInt32 (image.texts.symbolOffset mark.symbolIndex) =
      .ok (UInt32.ofNat (image.texts.stored mark.symbolIndex).size).toInt32 := by
  have hholds := holds_stored hindex
  rw [StoredText.written, holds_append] at hholds
  rw [readInt32_eq_ok_iff, ofInt32, UInt32.toUInt32_toInt32]
  exact hholds.1

/-- The bytes of a line are read where its symbol stands. -/
theorem Image.exists_readBytes_stored (hvalid : image.Valid view.encoding)
    (hindex : mark.symbolIndex < image.texts.symbols.length) :
    ∃ next, StoredText.readBytes image.toBytes (image.texts.symbolOffset mark.symbolIndex) =
      .ok ((image.texts.stored mark.symbolIndex).pop, next) :=
  ⟨_, StoredText.readBytes_eq_ok_iff.2 ⟨_, hvalid.readable.size_stored_lt hindex, holds_stored hindex, rfl, rfl⟩⟩

/-- A length is at least one exactly if the text has a terminator. -/
theorem toInt32_ofNat_lt_one_iff {n : Nat} (h : n < sizeLimit) : (UInt32.ofNat n).toInt32 < 1 ↔ n = 0 := by
  have hone : (1 : Int32).toInt = 1 := rfl
  have hnat := toNat_ofNat_of_lt h
  rw [Int32.lt_iff_toInt_lt, toInt_toInt32, hnat, if_pos h, hone]
  omega

/-- A line with a terminator gets its patch. -/
theorem Image.planEdit_script (hvalid : image.Valid view.encoding) (hmark : view.marks[index]? = some mark)
    (hindex : mark.symbolIndex < image.texts.symbols.length) (h : 0 < (image.texts.stored mark.symbolIndex).size) :
    (image.script view).planEdit index text cap = .ok (image.editPatch view mark index text cap) := by
  obtain ⟨next, hread⟩ := exists_readBytes_stored hvalid hindex
  have hterminated : ¬ (UInt32.ofNat (image.texts.stored mark.symbolIndex).size).toInt32 < 1 := by
    rw [toInt32_ofNat_lt_one_iff (hvalid.readable.size_stored_lt hindex)]
    omega
  have hline : (image.script view).line index = .ok (image.texts.line view.encoding mark) := by rw [line_script, hmark]
  have hbytes : (image.script view).bytes = image.toBytes := rfl
  have hencoding : (image.script view).encoding = view.encoding := rfl
  have hoffset : (image.texts.line view.encoding mark).offset = image.texts.symbolOffset mark.symbolIndex := rfl
  rw [Script.planEdit, hline]
  simp only [bind, Except.bind, hbytes, hencoding, hoffset, readInt32_stored hindex, hterminated, if_false, hread, pure, Except.pure,
    editPatch, textPatch, Encoding.capLine, Encoding.Capped.truncation?, List.cons_append, List.nil_append]
  congr 2

/-- A line without a terminator cannot be replaced. -/
theorem Image.planEdit_script_of_size_eq_zero (hvalid : image.Valid view.encoding) (hmark : view.marks[index]? = some mark)
    (hindex : mark.symbolIndex < image.texts.symbols.length) (h : (image.texts.stored mark.symbolIndex).size = 0) :
    (image.script view).planEdit index text cap =
      .error (.malformedHeader (.noTerminator index (image.texts.symbolOffset mark.symbolIndex))) := by
  have hterminated : (UInt32.ofNat (image.texts.stored mark.symbolIndex).size).toInt32 < 1 :=
    (toInt32_ofNat_lt_one_iff (hvalid.readable.size_stored_lt hindex)).2 h
  have hline : (image.script view).line index = .ok (image.texts.line view.encoding mark) := by rw [line_script, hmark]
  have hbytes : (image.script view).bytes = image.toBytes := rfl
  have hoffset : (image.texts.line view.encoding mark).offset = image.texts.symbolOffset mark.symbolIndex := rfl
  rw [Script.planEdit, hline]
  simp only [bind, Except.bind, hbytes, hoffset, readInt32_stored hindex, hterminated, if_true, throw, throwThe,
    MonadExceptOf.throw]

/-- Writing the starts of blocks where their entries stand writes the block table. -/
theorem map_word_placeBlocks (base address first : Nat) {entries : List BlockEntry} {units : List (String × List Invocation)}
    (hlength : units.length = entries.length) (hlt : address + Header.blockEntrySize * entries.length < UInt64.size) :
    (placeBlocks base address first entries units).map (fun block => .word ((block.address + 4) % UInt64.size) block.start) =
      entryWrites (BlockEntry.startWord base) address entries := by
  induction entries generalizing address first units with
  | nil => cases units <;> rfl
  | cons entry entries ih =>
    match units, hlength with
    | (name, run) :: units, hlength =>
      simp only [List.length_cons, Header.blockEntrySize, Nat.add_right_cancel_iff] at *
      rw [placeBlocks, List.map_cons, entryWrites, ih _ _ hlength (by simp only [Header.blockEntrySize]; omega)]
      simp only [Nat.mod_eq_of_lt (show address + 4 < UInt64.size by omega)]

/-- The repairs write what the image with the new text has. -/
theorem Image.repairs_script {patch : Patch} {number : Nat} {bytes : Bytes} (h : patch.Stores image number bytes)
    (hvalid : image.Valid view.encoding) (hfits : view.Fits image) (hsize : (image.retext number bytes).toBytes.size < sizeLimit) :
    (image.script view).repairs patch = (image.retextChanges number bytes).tail := by
  rw [size_toBytes] at hsize
  have hlt : (image.retext number bytes).base < sizeLimit := by omega
  have hle := image.symbolsEnd_le_base
  have hle' := (image.retext number bytes).symbolsEnd_le_base
  have hends := h.moved_symbolsEnd_add 0 (by simp only [sizeLimit, UInt64.size] at *; omega)
  have hblocks := h.map_rebaseBlock view.units hvalid.start_lt' 0 hlt (by omega) 0
  have hwrites := map_word_placeBlocks (image.retext number bytes).base (image.retext number bytes).texts.symbolsEnd 0 hfits.units_length
    (by simp only [sizeLimit, UInt64.size, base, entries_retext] at *; omega)
  have hcount : (UInt16.ofNat image.entries.length).toNat = image.entries.length := by
    rw [UInt16.toNat_ofNat', Nat.mod_eq_of_lt hvalid.entries_length]
  have hsymbolTableEnd : patch.moved (image.texts.identityBytes.size + 4) = image.texts.identityBytes.size + 4 :=
    h.moved_of_le (by simp only [Texts.symbolsStart]; omega)
  have hblockTableEnd : patch.moved (image.texts.identityBytes.size + 8) = image.texts.identityBytes.size + 8 :=
    h.moved_of_le (by simp only [Texts.symbolsStart]; omega)
  simp only [Nat.add_zero] at hends hblocks
  rw [← hblocks, List.map_map] at hwrites
  simp only [Script.repairs, script, header, Texts.header, toNat_ofNat_of_lt (Nat.lt_of_le_of_lt hle hvalid.base_lt), hends,
    hsymbolTableEnd, hblockTableEnd, hcount, retextChanges, List.tail_cons, ← hwrites]
  rfl

/-- The patch for a line makes the file of the image with the new text. -/
theorem Image.perform_editPatch (hvalid : image.Valid view.encoding) (hfits : view.Fits image)
    (hindex : mark.symbolIndex < image.texts.symbols.length) (h : 0 < (image.texts.stored mark.symbolIndex).size)
    (hsize : (image.retext mark.symbolIndex (view.encoding.capLine text cap).bytes.toArray).toBytes.size < sizeLimit) :
    (image.editPatch view mark index text cap).apply image.toBytes =
      .ok (image.retext mark.symbolIndex (view.encoding.capLine text cap).bytes.toArray).toBytes := by
  have hstores : (image.textPatch view mark index text cap).Stores image mark.symbolIndex
      (view.encoding.capLine text cap).bytes.toArray := ⟨hindex, h, rfl, rfl, rfl⟩
  have hchanges : (image.editPatch view mark index text cap).changes =
      image.retextChanges mark.symbolIndex (view.encoding.capLine text cap).bytes.toArray := by
    rw [editPatch, repairs_script hstores hvalid hfits hsize]
    rfl
  rw [Patch.apply_eq_ok_iff, hchanges]
  exact perform_retextChanges _ hindex h

/-- The repairs fit the file, however long the new text is. -/
theorem Image.isWriteWithin_repairs (view : View) {patch : Patch} {number : Nat} {bytes : Bytes}
    (h : patch.Stores image number bytes) :
    ∀ change ∈ (image.script view).repairs patch, change.IsWriteWithin (image.retext number bytes).toBytes.size := by
  have hsize := size_toBytes (image.retext number bytes)
  have hbase : (image.retext number bytes).base = (image.texts.retext number bytes).symbolsEnd + 8 * image.entries.length := rfl
  have hstart : image.texts.identityBytes.size + 12 ≤ (image.texts.retext number bytes).symbolsEnd := Nat.le_add_right ..
  have hends := Texts.symbolsEnd_retext bytes h.index_lt h.size_pos
  have hoffset := h.offset_lt
  intro change hchange
  simp only [Script.repairs, script, header, Texts.header, List.mem_cons, List.mem_map] at hchange
  rcases hchange with rfl | rfl | ⟨block, hblock, rfl⟩
  · rw [Change.IsWriteWithin, h.moved_of_le (by simp only [Texts.symbolsStart]; omega)]
    omega
  · rw [Change.IsWriteWithin, h.moved_of_le (by simp only [Texts.symbolsStart]; omega)]
    omega
  · obtain ⟨distance, haddress, hle⟩ := address_of_mem_placeBlocks hblock
    have hmoved : patch.moved block.address ≤ (image.texts.retext number bytes).symbolsEnd + distance := by
      refine Patch.moved_le (by omega) ?_
      rw [h.lengthDelta, haddress]
      omega
    have hmod := Nat.mod_le (patch.moved block.address + 4) UInt64.size
    rw [Change.IsWriteWithin]
    simp only [Header.blockEntrySize] at hle
    omega

/-- The patch for a line can be made, however long the new text is. -/
theorem Image.exists_apply_editPatch (view : View) (index : Nat) (text : String) (cap : Nat)
    (hindex : mark.symbolIndex < image.texts.symbols.length) (h : 0 < (image.texts.stored mark.symbolIndex).size) :
    ∃ bytes, (image.editPatch view mark index text cap).apply image.toBytes = .ok bytes ∧
      bytes.size = (image.retext mark.symbolIndex (view.encoding.capLine text cap).bytes.toArray).toBytes.size := by
  have hstores : (image.textPatch view mark index text cap).Stores image mark.symbolIndex
      (view.encoding.capLine text cap).bytes.toArray := ⟨hindex, h, rfl, rfl, rfl⟩
  have hwrites := isWriteWithin_repairs view hstores
  rw [← size_bytesWith _ (UInt32.ofNat image.texts.symbolsEnd) (UInt32.ofNat image.base) (BlockEntry.startWord image.base)]
    at hwrites ⊢
  obtain ⟨out, hout, hsize⟩ := exists_foldlM_perform hwrites
  refine ⟨out, Patch.apply_eq_ok_iff.2 ?_, hsize⟩
  rw [editPatch, textPatch, toBytes_eq_bytesWith]
  exact foldlM_perform_cons.2 ⟨_, perform_storing _ hindex h _ _ _, hout⟩

/-! ## Edits -/

/-- Where the edit of an image is refused, so is that of its script. -/
theorem Image.edit_script_of_none (hvalid : image.Valid view.encoding) (hfits : view.Fits image)
    (h : image.edit? view index text cap = none) : ∃ e, (image.script view).edit index text cap = .error e := by
  unfold edit? at h
  split at h
  next hmark =>
    refine ⟨.dialogueOutOfRange index view.marks.length, ?_⟩
    rw [Script.edit, line_script, hmark]
    rfl
  next mark hmark =>
    have hindex := hfits.symbolIndex_lt mark (List.mem_of_getElem? hmark)
    split at h
    · nomatch h
    next htext =>
      split at h
      next hempty =>
        refine ⟨.malformedHeader (.noTerminator index (image.texts.symbolOffset mark.symbolIndex)), ?_⟩
        rw [Script.edit, line_script, hmark]
        simp only [bind, Except.bind, htext, if_false, planEdit_script_of_size_eq_zero hvalid hmark hindex hempty]
      · nomatch h

/-- Where the edit of an image succeeds, so does that of its script, with the same outcome and size. While the file stays small
enough, it leaves the script of the new image. -/
theorem Image.exists_edit_script (hvalid : image.Valid view.encoding) (hfits : view.Fits image) {edited : Image}
    {outcome : EditOutcome} (h : image.edit? view index text cap = some (edited, outcome)) :
    ∃ script, (image.script view).edit index text cap = .ok (script, outcome) ∧ script.bytes.size = edited.toBytes.size ∧
      (edited.toBytes.size < sizeLimit → script = edited.script view) := by
  unfold edit? at h
  split at h
  · nomatch h
  next mark hmark =>
    have hindex := hfits.symbolIndex_lt mark (List.mem_of_getElem? hmark)
    split at h
    next htext =>
      cases h
      refine ⟨image.script view, ?_, rfl, fun _ => rfl⟩
      rw [Script.edit, line_script, hmark]
      simp only [bind, Except.bind, htext, if_true]
      rfl
    next htext =>
      split at h
      · nomatch h
      next hterminated =>
        cases h
        have hpos : 0 < (image.texts.stored mark.symbolIndex).size := Nat.pos_of_ne_zero hterminated
        obtain ⟨bytes, hbytes, hsize⟩ := exists_apply_editPatch view index text cap hindex hpos
        refine ⟨(image.script view).rebase (image.editPatch view mark index text cap) bytes, ?_, hsize, fun hlt => ?_⟩
        · have hfile : (image.script view).bytes = image.toBytes := rfl
          rw [Script.edit, line_script, hmark]
          simp only [bind, Except.bind, htext, if_false, planEdit_script hvalid hmark hindex hpos, hfile, hbytes, pure,
            Except.pure, lengthDelta_editPatch, truncation_editPatch]
        · rw [perform_editPatch hvalid hfits hindex hpos hlt, Except.ok.injEq] at hbytes
          rw [← hbytes]
          exact (stores_editPatch hindex hpos).rebase_script hvalid hfits hlt

end

end SceneScript
