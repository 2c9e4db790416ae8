import SceneScript.Script
import SceneScript.Proofs.BlockTable
import SceneScript.Proofs.DialogueLines
import SceneScript.Proofs.Texts

/-!
# The image of a script file

An `Image` holds the parts of a script file whose header tells the truth: the stored texts, the entries of the block table with
starts counted from its end, and the body behind it. `Image.toBytes` is the file. A `View` holds what a script knows besides: the
names and instructions of its blocks as they were read, and which symbols are spoken lines. `Image.script` puts the two together,
so an edit changes the image and leaves the view alone.

`Image.Readable.parse?_eq_ok_some_iff` says what reading the file of an image gives.
-/

namespace SceneScript

open Bytes

/-! ## Symbols by their number -/

namespace Texts

/-- The position of a symbol. -/
def symbolOffset (texts : Texts) (index : Nat) : Nat :=
  texts.symbolsStart + (concat ((texts.symbols.take index).map StoredText.written)).size

/-- The stored bytes of a symbol, with the terminator. -/
def stored (texts : Texts) (index : Nat) : Bytes :=
  texts.symbols[index]?.getD #[]

/-- The text of a symbol. -/
def symbolText (texts : Texts) (encoding : Encoding) (index : Nat) : String :=
  encoding.decode (texts.stored index).pop.toList

theorem Readable.size_stored_lt {texts : Texts} {encoding : Encoding} {index : Nat} (h : texts.Readable encoding)
    (hindex : index < texts.symbols.length) : (texts.stored index).size < sizeLimit := by
  refine h.symbol_size _ ?_
  rw [stored, List.getElem?_eq_getElem hindex, Option.getD_some]
  exact List.getElem_mem hindex

theorem symbolsFrom_getElem? (encoding : Encoding) (pos : Nat) (symbols : List Bytes) (index : Nat) :
    (symbolsFrom encoding pos symbols)[index]? = symbols[index]?.map fun stored =>
      ⟨pos + (concat ((symbols.take index).map StoredText.written)).size, encoding.decode stored.pop.toList⟩ := by
  induction symbols generalizing pos index with
  | nil => simp [symbolsFrom]
  | cons stored rest ih =>
    cases index with
    | zero => simp [symbolsFrom]
    | succ index =>
      simp only [symbolsFrom, List.getElem?_cons_succ, ih, List.take_succ_cons, List.map_cons, concat_cons, Array.size_append,
        Nat.add_assoc]

theorem symbolTable_getElem? {texts : Texts} (encoding : Encoding) {index : Nat} (h : index < texts.symbols.length) :
    (texts.symbolTable encoding).symbols[index]? = some ⟨texts.symbolOffset index, texts.symbolText encoding index⟩ := by
  simp [symbolTable, symbolsFrom_getElem?, symbolOffset, symbolText, stored, h]

theorem length_symbolsFrom (encoding : Encoding) (pos : Nat) (symbols : List Bytes) :
    (symbolsFrom encoding pos symbols).length = symbols.length := by
  induction symbols generalizing pos with
  | nil => rfl
  | cons stored rest ih => simp [symbolsFrom, ih]

/-- A symbol between those before it and those behind it. -/
theorem symbolBytes_eq_append {texts : Texts} {index : Nat} (h : index < texts.symbols.length) :
    texts.symbolBytes = concat ((texts.symbols.take index).map StoredText.written) ++
      (StoredText.written (texts.stored index) ++ concat ((texts.symbols.drop (index + 1)).map StoredText.written)) := by
  have hsplit : texts.symbols = texts.symbols.take index ++ texts.stored index :: texts.symbols.drop (index + 1) := by
    rw [stored, List.getElem?_eq_getElem h, Option.getD_some, List.getElem_cons_drop, List.take_append_drop]
  rw [symbolBytes]
  conv => lhs; rw [hsplit]
  simp

/-- A symbol stands at its position. -/
theorem holds_stored {texts : Texts} {index : Nat} (h : index < texts.symbols.length) (blockCount : UInt16)
    (symbolTableEnd blockTableEnd : UInt32) :
    (texts.headBytes blockCount symbolTableEnd blockTableEnd).Holds (texts.symbolOffset index)
      (StoredText.written (texts.stored index)) := by
  have hsymbols : (texts.headBytes blockCount symbolTableEnd blockTableEnd).Holds texts.symbolsStart texts.symbolBytes := by
    have hself := holds_self (texts.headBytes blockCount symbolTableEnd blockTableEnd)
    simp only [headBytes, holds_append, size_ofUInt16, size_ofUInt32, Nat.zero_add, Nat.add_assoc] at hself
    exact hself.2.2.2.2.2
  have hself := holds_self texts.symbolBytes
  conv at hself => rhs; rw [symbolBytes_eq_append h]
  rw [holds_append, holds_append, Nat.zero_add] at hself
  exact hsymbols.trans hself.2.1

end Texts

/-! ## Lines by their symbol -/

/-- What marks a symbol as a spoken line. -/
structure LineMark where
  speaker : Speaker
  symbolIndex : Nat
  /-- The voice id that marks the symbol as a line. -/
  voice : String
  deriving DecidableEq, Repr

/-- The line without its text and position. -/
def DialogueLine.mark (line : DialogueLine) : LineMark where
  speaker := line.speaker
  symbolIndex := line.symbolIndex
  voice := line.voice

/-- The line that a symbol is. -/
def Texts.line (texts : Texts) (encoding : Encoding) (mark : LineMark) : DialogueLine where
  text := LineBreak.unescape (texts.symbolText encoding mark.symbolIndex)
  speaker := mark.speaker
  offset := texts.symbolOffset mark.symbolIndex
  symbolIndex := mark.symbolIndex
  voice := mark.voice

/-- The marks of the lines in a table. -/
def SymbolTable.marks (table : SymbolTable) : List LineMark :=
  (Dialogue.extract table).map DialogueLine.mark

theorem DialogueLine.IsSymbol.symbolIndex_lt {line : DialogueLine} {texts : Texts} {encoding : Encoding}
    (h : line.IsSymbol (texts.symbolTable encoding)) : line.symbolIndex < texts.symbols.length := by
  obtain ⟨symbol, hsymbol, -⟩ := h
  obtain ⟨hlt, -⟩ := List.getElem?_eq_some_iff.1 hsymbol
  rwa [Texts.symbolTable, Texts.length_symbolsFrom] at hlt

theorem DialogueLine.IsSymbol.line_mark {line : DialogueLine} {texts : Texts} {encoding : Encoding}
    (h : line.IsSymbol (texts.symbolTable encoding)) : texts.line encoding line.mark = line := by
  have hlt := h.symbolIndex_lt
  obtain ⟨symbol, hsymbol, htext, hoffset⟩ := h
  rw [Texts.symbolTable_getElem? encoding hlt, Option.some.injEq] at hsymbol
  subst hsymbol
  cases line
  simp only at htext hoffset
  simp [Texts.line, mark, htext, hoffset]

/-- The lines in a table are those of its marks. -/
theorem Texts.map_line_marks (texts : Texts) (encoding : Encoding) :
    (texts.symbolTable encoding).marks.map (texts.line encoding) = Dialogue.extract (texts.symbolTable encoding) := by
  rw [SymbolTable.marks, List.map_map]
  exact (List.map_congr_left fun line hline => (Dialogue.isSymbol_of_mem_extract hline).line_mark).trans (List.map_id _)

/-- A mark of a table belongs to one of its symbols. -/
theorem Texts.symbolIndex_lt_of_mem_marks {texts : Texts} {encoding : Encoding} {mark : LineMark}
    (h : mark ∈ (texts.symbolTable encoding).marks) : mark.symbolIndex < texts.symbols.length := by
  obtain ⟨line, hline, rfl⟩ := List.mem_map.1 h
  exact (Dialogue.isSymbol_of_mem_extract hline).symbolIndex_lt

/-! ## Images -/

/-- The parts of a script file with a truthful header. -/
structure Image where
  texts : Texts
  entries : List BlockEntry
  body : Bytes
  deriving DecidableEq, Repr

namespace Image

/-- Where the block table ends and the body starts. -/
def base (image : Image) : Nat :=
  image.texts.symbolsEnd + Header.blockEntrySize * image.entries.length

/-- Everything in front of the block table. -/
def headBytes (image : Image) : Bytes :=
  image.texts.headBytes (UInt16.ofNat image.entries.length) (UInt32.ofNat image.texts.symbolsEnd) (UInt32.ofNat image.base)

/-- The file. -/
def toBytes (image : Image) : Bytes :=
  image.headBytes ++ tableBytes image.base image.entries ++ image.body

/-- The header that the file is read to have. -/
def header (image : Image) (encoding : Encoding) : Header :=
  image.texts.header encoding (UInt16.ofNat image.entries.length) (UInt32.ofNat image.texts.symbolsEnd) (UInt32.ofNat image.base)

theorem size_head (image : Image) : (image.headBytes ++ tableBytes image.base image.entries).size = image.base := by
  simp [headBytes, base, Header.blockEntrySize]

theorem size_toBytes (image : Image) : image.toBytes.size = image.base + image.body.size := by
  rw [toBytes, Array.size_append, size_head]

end Image

/-- What a script knows besides its file. -/
structure View where
  encoding : Encoding
  /-- The names of the blocks as they were read, and their instructions by their place in the body. -/
  units : List (String × List Invocation)
  /-- Where the body stood when the instructions were read. -/
  origin : Nat
  marks : List LineMark
  deriving DecidableEq, Repr

/-- The script of an image, seen in a certain way. -/
def Image.script (image : Image) (view : View) : Script where
  bytes := image.toBytes
  encoding := view.encoding
  header := image.header view.encoding
  symbols := image.texts.symbolTable view.encoding
  blocks := placeBlocks image.base image.texts.symbolsEnd 0 image.entries view.units
  invocations := (view.units.flatMap (·.2)).map (Invocation.place image.base view.origin)
  dialogue := view.marks.map (image.texts.line view.encoding)

/-- An image whose file can be read, in an encoding: the name passes for one, the counts fit their words, and the file is small
enough for its positions to be signed words. -/
structure Image.Valid (image : Image) (encoding : Encoding) : Prop where
  name : IsName encoding image.texts.name
  symbols_length : image.texts.symbols.length < UInt16.size
  entries_length : image.entries.length < UInt16.size
  start_lt : ∀ entry ∈ image.entries, entry.start < sizeLimit
  size_lt : image.toBytes.size < sizeLimit

theorem Image.Valid.readable {image : Image} {encoding : Encoding} (h : image.Valid encoding) :
    image.texts.Readable encoding := by
  have hlt := h.size_lt
  have hsize : image.toBytes.size = image.texts.identityBytes.size + 12 + image.texts.symbolBytes.size +
      Header.blockEntrySize * image.entries.length + image.body.size := by
    rw [Image.size_toBytes]
    rfl
  have hidentity := image.texts.size_identityBytes
  simp only [StoredText.size_written] at hidentity
  refine ⟨h.name, by omega, by omega, fun stored hstored => ?_, h.symbols_length⟩
  have hle := size_le_concat (List.mem_map_of_mem (f := StoredText.written) hstored)
  rw [StoredText.size_written] at hle
  have : (concat (image.texts.symbols.map StoredText.written)).size = image.texts.symbolBytes.size := rfl
  omega

theorem Image.Valid.base_lt {image : Image} {encoding : Encoding} (h : image.Valid encoding) : image.base < sizeLimit := by
  have hlt := h.size_lt
  rw [Image.size_toBytes] at hlt
  omega

theorem Image.Valid.start_lt' {image : Image} {encoding : Encoding} (h : image.Valid encoding) :
    ∀ entry ∈ image.entries, image.base + entry.start < UInt32.size := by
  intro entry hentry
  have hbase := h.base_lt
  have hstart := h.start_lt entry hentry
  simp only [sizeLimit, UInt32.size] at *
  omega

/-- An image whose file is read as its parts, in an encoding: the texts can be read, and the counts, the ends of the tables and the
starts of the blocks fit their words. -/
structure Image.Readable (image : Image) (encoding : Encoding) : Prop where
  texts : image.texts.Readable encoding
  entries_length : image.entries.length < UInt16.size
  base_lt : image.base < sizeLimit
  start_lt : ∀ entry ∈ image.entries, image.base + entry.start < UInt32.size

theorem Image.Valid.toReadable {image : Image} {encoding : Encoding} (h : image.Valid encoding) : image.Readable encoding :=
  ⟨h.readable, h.entries_length, h.base_lt, h.start_lt'⟩

theorem Script.parse?_eq_ok_some_iff {bytes : Bytes} {catalog : Catalog} {encoding : Encoding} {script : Script} :
    Script.parse? bytes catalog encoding = .ok (some script) ↔
      ∃ header symbols blocks invocations, Header.read? bytes encoding = .ok (some (header, symbols)) ∧
        Block.readTable bytes catalog header symbols = .ok (blocks, invocations) ∧
        script = { bytes, encoding, header, symbols, blocks, invocations, dialogue := Dialogue.extract symbols } := by
  simp only [parse?, bind_eq_ok_iff]
  constructor
  · rintro ⟨_ | ⟨header, symbols⟩, hfound, h⟩
    · simp at h
    · simp only [bind_eq_ok_iff, pure_eq_ok_iff, Prod.exists, Option.some.injEq] at h
      obtain ⟨blocks, invocations, htable, rfl⟩ := h
      exact ⟨header, symbols, blocks, invocations, hfound, htable, rfl⟩
  · rintro ⟨header, symbols, blocks, invocations, hfound, htable, rfl⟩
    refine ⟨_, hfound, ?_⟩
    simp only [bind_eq_ok_iff, pure_eq_ok_iff, Prod.exists]
    exact ⟨blocks, invocations, htable, rfl⟩

/-- The view of a script that has just been read. -/
def Image.freshView (image : Image) (encoding : Encoding) (units : List (String × List Invocation)) : View where
  encoding := encoding
  units := units
  origin := image.base
  marks := (image.texts.symbolTable encoding).marks

namespace Image.Readable

variable {image : Image} {encoding : Encoding}

theorem read?_toBytes (h : image.Readable encoding) :
    Header.read? image.toBytes encoding = .ok (some (image.header encoding, image.texts.symbolTable encoding)) := by
  refine Header.read?_eq_ok_some_iff.2 ⟨image.texts, _, _, _, h.texts, ?_, rfl, rfl⟩
  exact ((holds_self image.headBytes).append_left _).append_left _

theorem entryCount_header (h : image.Readable encoding) : Block.entryCount (image.header encoding) = image.entries.length := by
  have hbase := h.base_lt
  have hends : image.base = image.texts.symbolsEnd + 8 * image.entries.length := rfl
  simp only [Block.entryCount, header, Texts.header, Header.blockEntrySize]
  rw [toNat_ofNat_of_lt hbase, toNat_ofNat_of_lt (by omega)]
  omega

/-- Reading the file of an image gives the script of the image, with the names and instructions that stand in it. -/
theorem parse?_eq_ok_some_iff {catalog : Catalog} {script : Script} (h : image.Readable encoding) :
    Script.parse? image.toBytes catalog encoding = .ok (some script) ↔
      ∃ units, Runs image.body catalog image.entries (units.map (·.2)) ∧
        Named (image.texts.symbolTable encoding) image.entries units ∧ script = image.script (image.freshView encoding units) := by
  have hbase := h.base_lt
  have hends : image.base = image.texts.symbolsEnd + 8 * image.entries.length := rfl
  have hfront := image.size_head
  have htable : Block.readTable image.toBytes catalog (image.header encoding) (image.texts.symbolTable encoding) =
      Block.readAll image.toBytes catalog (image.texts.symbolTable encoding) image.base image.entries.length
        image.texts.symbolsEnd 0 := by
    rw [Block.readTable, h.entryCount_header]
    simp only [header, Texts.header]
    rw [toNat_ofNat_of_lt hbase, toNat_ofNat_of_lt (by omega)]
  have hread := fun blocks invocations =>
    @Block.readAll_eq_ok_iff (image.headBytes ++ tableBytes image.base image.entries) image.body catalog
      (image.texts.symbolTable encoding) image.entries image.texts.symbolsEnd 0 blocks invocations
  rw [hfront] at hread
  have hholds : image.toBytes.Holds image.texts.symbolsEnd (tableBytes image.base image.entries) := by
    have := holds_middle image.headBytes (tableBytes image.base image.entries) image.body
    rwa [headBytes, Texts.size_headBytes] at this
  rw [Script.parse?_eq_ok_some_iff]
  constructor
  · rintro ⟨header, symbols, blocks, invocations, hheader, hblocks, rfl⟩
    rw [h.read?_toBytes, Except.ok.injEq, Option.some.injEq, Prod.mk.injEq] at hheader
    obtain ⟨rfl, rfl⟩ := hheader
    rw [htable] at hblocks
    obtain ⟨units, hruns, hnamed, rfl, rfl⟩ := (hread _ _ hends.symm hholds h.start_lt).1 hblocks
    exact ⟨units, hruns, hnamed, by rw [script, freshView, Texts.map_line_marks]⟩
  · rintro ⟨units, hruns, hnamed, rfl⟩
    refine ⟨_, _, placeBlocks image.base image.texts.symbolsEnd 0 image.entries units,
      (units.flatMap (·.2)).map (Invocation.place image.base image.base), h.read?_toBytes, ?_, ?_⟩
    · rw [htable]
      exact (hread _ _ hends.symm hholds h.start_lt).2 ⟨units, hruns, hnamed, rfl, rfl⟩
    · rw [script, freshView, Texts.map_line_marks]

end Image.Readable

/-- Reading the file of a small image gives its script. -/
theorem Image.parse?_eq_ok_some_iff {image : Image} {catalog : Catalog} {encoding : Encoding} {script : Script}
    (h : image.Valid encoding) :
    Script.parse? image.toBytes catalog encoding = .ok (some script) ↔
      ∃ units, Runs image.body catalog image.entries (units.map (·.2)) ∧
        Named (image.texts.symbolTable encoding) image.entries units ∧ script = image.script (image.freshView encoding units) :=
  h.toReadable.parse?_eq_ok_some_iff

end SceneScript
