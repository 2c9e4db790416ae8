import SceneScript.Proofs.Image
import SceneScript.SampleCatalog

/-!
# Consistent scripts

A script is read with whatever table ends its header records. `Script.ExactTables` are those whose header tells the truth, and
`Script.Consistent` those whose blocks also start inside the file. Both are files of images: `Script.ExactTables.exists_image` finds
the image of such a script, and `Image.exactTables` says that the file of every image that can be read is such a script. That the tables
are exact bounds the starts of blocks from below only: in `Script.sampleFar` a block starts at the largest word.
-/

namespace SceneScript

open Bytes

namespace Script

/-- Where the last symbol ends. Without symbols it is where the first one would stand, after the ends of the two tables. -/
def symbolsEnd (script : Script) : Except ScriptError Nat :=
  match script.symbols.symbols.getLast? with
  | none => pure (script.header.blockTableEndOffset + 4)
  | some last => do
    let (_, next) ← StoredText.readBytes script.bytes last.offset
    pure next

/-- The script is what its file is read as, the header records where the two tables end, and no block starts before their end. -/
structure ExactTables (catalog : Catalog) (script : Script) : Prop where
  parsed : parse? script.bytes catalog script.encoding = .ok (some script)
  symbolTableEnd : script.symbolsEnd = .ok script.header.symbolTableEnd.toNat
  blockTableEnd : script.header.blockTableEnd.toNat =
    script.header.symbolTableEnd.toNat + Header.blockEntrySize * script.header.blockCount.toNat
  blockTableEnd_le : ∀ block ∈ script.blocks, script.header.blockTableEnd.toNat ≤ block.start.toNat

instance (catalog : Catalog) (script : Script) : Decidable (script.ExactTables catalog) :=
  decidable_of_iff
    (parse? script.bytes catalog script.encoding = .ok (some script) ∧ script.symbolsEnd = .ok script.header.symbolTableEnd.toNat ∧
      script.header.blockTableEnd.toNat =
        script.header.symbolTableEnd.toNat + Header.blockEntrySize * script.header.blockCount.toNat ∧
      ∀ block ∈ script.blocks, script.header.blockTableEnd.toNat ≤ block.start.toNat)
    ⟨fun ⟨h₁, h₂, h₃, h₄⟩ => ⟨h₁, h₂, h₃, h₄⟩, fun ⟨h₁, h₂, h₃, h₄⟩ => ⟨h₁, h₂, h₃, h₄⟩⟩

/-- The tables are exact and every block starts inside the file. -/
structure Consistent (catalog : Catalog) (script : Script) : Prop extends script.ExactTables catalog where
  start_le : ∀ block ∈ script.blocks, block.start.toNat ≤ script.bytes.size

instance (catalog : Catalog) (script : Script) : Decidable (script.Consistent catalog) :=
  decidable_of_iff (script.ExactTables catalog ∧ ∀ block ∈ script.blocks, block.start.toNat ≤ script.bytes.size)
    ⟨fun ⟨h, hstart⟩ => ⟨h, hstart⟩, fun h => ⟨h.toExactTables, h.start_le⟩⟩

end Script

/-! ## From a script to its image -/

/-- The last symbol ends where the symbols end. -/
theorem Texts.symbolOffset_add_size_last {texts : Texts} {index : Nat} (h : index + 1 = texts.symbols.length) :
    texts.symbolOffset index + (StoredText.written (texts.stored index)).size = texts.symbolsEnd := by
  have hsize := congrArg Array.size (symbolBytes_eq_append (show index < texts.symbols.length by omega))
  rw [h, List.drop_length, List.map_nil, concat_nil, Array.append_empty, Array.size_append] at hsize
  rw [symbolOffset, symbolsEnd, hsize, Nat.add_assoc]

/-- Where the last symbol of a script ends is a matter of its texts. -/
theorem Script.symbolsEnd_eq {script : Script} {texts : Texts} {encoding : Encoding} {blockCount : UInt16}
    {symbolTableEnd blockTableEnd : UInt32} (hreadable : texts.Readable encoding)
    (hholds : script.bytes.Holds 0 (texts.headBytes blockCount symbolTableEnd blockTableEnd))
    (hheader : script.header = texts.header encoding blockCount symbolTableEnd blockTableEnd)
    (hsymbols : script.symbols = texts.symbolTable encoding) : script.symbolsEnd = .ok texts.symbolsEnd := by
  have hlast : script.symbols.symbols.getLast? = (texts.symbolTable encoding).symbols[texts.symbols.length - 1]? := by
    rw [hsymbols, List.getLast?_eq_getElem?, Texts.symbolTable, Texts.length_symbolsFrom]
  unfold symbolsEnd
  rw [hlast]
  cases hlength : texts.symbols.length with
  | zero =>
    have hnil := List.length_eq_zero_iff.1 hlength
    simp [Texts.symbolTable, Texts.symbolsFrom, hnil, hheader, Texts.header, Texts.symbolsEnd, Texts.symbolsStart,
      Texts.symbolBytes, pure, Except.pure]
  | succ count =>
    have hlt : count < texts.symbols.length := by omega
    have hstored := hholds.trans (Texts.holds_stored hlt blockCount symbolTableEnd blockTableEnd)
    rw [Nat.zero_add] at hstored
    have hmem : texts.stored count ∈ texts.symbols := by
      rw [Texts.stored, List.getElem?_eq_getElem hlt, Option.getD_some]
      exact List.getElem_mem hlt
    have hread : StoredText.readBytes script.bytes (texts.symbolOffset count) =
        .ok ((texts.stored count).pop, texts.symbolsEnd) := by
      refine StoredText.readBytes_eq_ok_iff.2 ⟨_, hreadable.symbol_size _ hmem, hstored, rfl, ?_⟩
      exact (Texts.symbolOffset_add_size_last hlength.symm).symm
    rw [Nat.add_sub_cancel, Texts.symbolTable_getElem? encoding hlt]
    simp only [hread]
    rfl

/-- Bytes that start with a head and a table with true words are the file of an image. -/
theorem Image.exists_toBytes_eq {texts : Texts} {entries : List BlockEntry} {bytes : Bytes} {blockCount : UInt16}
    {symbolTableEnd blockTableEnd : UInt32} (hcount : blockCount.toNat = entries.length)
    (hsymbols : symbolTableEnd.toNat = texts.symbolsEnd) (hblocks : blockTableEnd.toNat = texts.symbolsEnd + 8 * entries.length)
    (h : bytes.Holds 0 (texts.headBytes blockCount symbolTableEnd blockTableEnd ++ tableBytes blockTableEnd.toNat entries)) :
    ∃ body, (Image.mk texts entries body).toBytes = bytes := by
  have hbase : ∀ body, (Image.mk texts entries body).base = blockTableEnd.toNat := fun _ => hblocks.symm
  have hfront : ∀ body, (Image.mk texts entries body).toBytes =
      texts.headBytes blockCount symbolTableEnd blockTableEnd ++ tableBytes blockTableEnd.toNat entries ++ body := by
    intro body
    simp only [toBytes, headBytes, hbase, ← hcount, ← hsymbols, UInt16.ofNat_toNat, UInt32.ofNat_toNat]
  exact ⟨_, (hfront _).trans h.eq_append.symm⟩

/-- A header that tells the truth tells how many entries the block table has. -/
theorem Block.entryCount_eq {header : Header}
    (h : header.blockTableEnd.toNat = header.symbolTableEnd.toNat + Header.blockEntrySize * header.blockCount.toNat) :
    entryCount header = header.blockCount.toNat := by
  simp only [entryCount, Header.blockEntrySize] at h ⊢
  omega

/-- A script with exact tables in a file of signed positions is that of an image, wherever its blocks start. -/
theorem Script.ExactTables.exists_readable {catalog : Catalog} {script : Script} (h : script.ExactTables catalog)
    (hsize : script.bytes.size < sizeLimit) :
    ∃ (image : Image) (units : List (String × List Invocation)), image.Readable script.encoding ∧
      Runs image.body catalog image.entries (units.map (·.2)) ∧
      Named (image.texts.symbolTable script.encoding) image.entries units ∧
      script = image.script (image.freshView script.encoding units) := by
  obtain ⟨header, symbols, blocks, invocations, hheader, htable, hscript⟩ := Script.parse?_eq_ok_some_iff.1 h.parsed
  obtain ⟨texts, blockCount, symbolTableEnd, blockTableEnd, hreadable, hholds, rfl, rfl⟩ := Header.read?_eq_ok_some_iff.1 hheader
  have hheader := congrArg Script.header hscript
  have hsymbols := congrArg Script.symbols hscript
  have hblocks := congrArg Script.blocks hscript
  simp only at hheader hsymbols hblocks
  have hend := h.symbolTableEnd
  have hbase := h.blockTableEnd
  have hfloor := h.blockTableEnd_le
  rw [Script.symbolsEnd_eq hreadable hholds hheader hsymbols, Except.ok.injEq, hheader] at hend
  rw [hheader] at hbase hfloor
  rw [hblocks] at hfloor
  rw [Block.readTable, Block.entryCount_eq hbase] at htable
  simp only [Texts.header, Header.blockEntrySize] at hend hbase htable hfloor
  have hhead := hholds.le_size
  rw [Texts.size_headBytes, Nat.zero_add] at hhead
  rw [← hend] at htable
  obtain ⟨entries, hlength, hentries, hstarts⟩ := Block.exists_entries_of_readAll hhead htable hfloor
  -- The file is the head, the table and what is left.
  have hfront : script.bytes.Holds 0 (texts.headBytes blockCount symbolTableEnd blockTableEnd ++
      tableBytes blockTableEnd.toNat entries) := by
    rw [holds_append, Texts.size_headBytes, Nat.zero_add]
    exact ⟨hholds, hentries⟩
  obtain ⟨body, hbytes⟩ := Image.exists_toBytes_eq hlength.symm hend.symm (by omega) hfront
  have hreadable' : (Image.mk texts entries body).Readable script.encoding := by
    have hbody := Image.size_toBytes ⟨texts, entries, body⟩
    rw [hbytes] at hbody
    refine ⟨hreadable, by rw [hlength]; exact blockCount.toNat_lt, by omega, fun entry hentry => ?_⟩
    have hmem := List.mem_map_of_mem (f := fun entry : BlockEntry => blockTableEnd.toNat + entry.start) hentry
    rw [hstarts] at hmem
    obtain ⟨block, -, hword⟩ := List.mem_map.1 hmem
    have hlt := block.start.toNat_lt
    have hbase' : (Image.mk texts entries body).base = texts.symbolsEnd + 8 * entries.length := rfl
    simp only [UInt32.size]
    omega
  have hparsed := h.parsed
  rw [← hbytes] at hparsed
  obtain ⟨units, hruns, hnamed, heq⟩ := hreadable'.parse?_eq_ok_some_iff.1 hparsed
  exact ⟨_, units, hreadable', hruns, hnamed, heq⟩

/-- What holds of the starts of all blocks holds of those in the entries, counted from the start of the file. -/
theorem Image.Readable.forall_start_script_iff {image : Image} {encoding : Encoding} (view : View) (h : image.Readable encoding)
    (hnamed : Named (image.texts.symbolTable encoding) image.entries view.units) (p : Nat → Prop) :
    (∀ block ∈ (image.script view).blocks, p block.start.toNat) ↔ ∀ entry ∈ image.entries, p (image.base + entry.start) := by
  have hstarts := hnamed.map_start_placeBlocks image.base image.texts.symbolsEnd 0
  have hmap : (image.script view).blocks.map (·.start.toNat) = image.entries.map fun entry => image.base + entry.start := by
    have hwords := congrArg (List.map UInt32.toNat) hstarts
    rw [List.map_map, List.map_map] at hwords
    exact hwords.trans (List.map_congr_left fun entry hentry => BlockEntry.toNat_startWord (h.start_lt entry hentry))
  calc (∀ block ∈ (image.script view).blocks, p block.start.toNat)
      ↔ ∀ start ∈ (image.script view).blocks.map (·.start.toNat), p start := List.forall_mem_map.symm
    _ ↔ ∀ entry ∈ image.entries, p (image.base + entry.start) := by rw [hmap, List.forall_mem_map]

/-- A script with exact tables is that of a small image if its blocks start at signed positions, too. -/
theorem Script.ExactTables.exists_image {catalog : Catalog} {script : Script} (h : script.ExactTables catalog)
    (hsize : script.bytes.size < sizeLimit) (hstart : ∀ block ∈ script.blocks, block.start.toNat < sizeLimit) :
    ∃ (image : Image) (units : List (String × List Invocation)), image.Valid script.encoding ∧
      Runs image.body catalog image.entries (units.map (·.2)) ∧
      Named (image.texts.symbolTable script.encoding) image.entries units ∧
      script = image.script (image.freshView script.encoding units) := by
  obtain ⟨image, units, hreadable, hruns, hnamed, hscript⟩ := h.exists_readable hsize
  rw [hscript] at hsize hstart
  have hstart' := (hreadable.forall_start_script_iff (image.freshView script.encoding units) hnamed (· < sizeLimit)).1 hstart
  have hvalid : image.Valid script.encoding :=
    ⟨hreadable.texts.name, hreadable.texts.symbols_length, hreadable.entries_length,
      fun entry hentry => Nat.lt_of_le_of_lt (Nat.le_add_left ..) (hstart' entry hentry), hsize⟩
  exact ⟨image, units, hvalid, hruns, hnamed, hscript⟩

/-! ## From an image to its script -/

/-- What holds of the starts of all blocks of a small image holds of those in the entries. -/
theorem Image.forall_start_script_iff {image : Image} {encoding : Encoding} (view : View) (h : image.Valid encoding)
    (hnamed : Named (image.texts.symbolTable encoding) image.entries view.units) (p : Nat → Prop) :
    (∀ block ∈ (image.script view).blocks, p block.start.toNat) ↔ ∀ entry ∈ image.entries, p (image.base + entry.start) :=
  h.toReadable.forall_start_script_iff view hnamed p

/-- The file of an image that can be read is a script with exact tables. -/
theorem Image.Readable.exactTables {image : Image} {catalog : Catalog} {encoding : Encoding} {units : List (String × List Invocation)}
    (h : image.Readable encoding) (hruns : Runs image.body catalog image.entries (units.map (·.2)))
    (hnamed : Named (image.texts.symbolTable encoding) image.entries units) :
    (image.script (image.freshView encoding units)).ExactTables catalog := by
  have hbase := h.base_lt
  have hends : image.base = image.texts.symbolsEnd + 8 * image.entries.length := rfl
  have hhead : image.toBytes.Holds 0 image.headBytes := ((holds_self image.headBytes).append_left _).append_left _
  refine ⟨h.parse?_eq_ok_some_iff.2 ⟨units, hruns, hnamed, rfl⟩, ?_, ?_, ?_⟩
  · rw [Script.symbolsEnd_eq h.texts hhead rfl rfl]
    simp only [script, freshView, header, Texts.header]
    rw [toNat_ofNat_of_lt (by omega)]
  · simp only [script, freshView, header, Texts.header, Header.blockEntrySize]
    rw [toNat_ofNat_of_lt hbase, toNat_ofNat_of_lt (by omega), UInt16.toNat_ofNat', Nat.mod_eq_of_lt h.entries_length]
    exact hends
  · have hfloor := (h.forall_start_script_iff (image.freshView encoding units) hnamed (image.base ≤ ·)).2
    simp only [script, header, Texts.header, freshView] at hfloor ⊢
    rw [toNat_ofNat_of_lt hbase]
    exact hfloor fun entry _ => Nat.le_add_right ..

/-- The file of a small image is a script with exact tables. -/
theorem Image.exactTables {image : Image} {catalog : Catalog} {encoding : Encoding} {units : List (String × List Invocation)}
    (h : image.Valid encoding) (hruns : Runs image.body catalog image.entries (units.map (·.2)))
    (hnamed : Named (image.texts.symbolTable encoding) image.entries units) :
    (image.script (image.freshView encoding units)).ExactTables catalog :=
  h.toReadable.exactTables hruns hnamed

/-- The file of an image whose blocks start inside it is a consistent script. -/
theorem Image.consistent {image : Image} {catalog : Catalog} {encoding : Encoding} {units : List (String × List Invocation)}
    (h : image.Valid encoding) (hruns : Runs image.body catalog image.entries (units.map (·.2)))
    (hnamed : Named (image.texts.symbolTable encoding) image.entries units)
    (hstart : ∀ entry ∈ image.entries, entry.start ≤ image.body.size) :
    (image.script (image.freshView encoding units)).Consistent catalog := by
  refine ⟨exactTables h hruns hnamed, (forall_start_script_iff (image.freshView encoding units) h hnamed (· ≤ _)).2 ?_⟩
  intro entry hentry
  have hle := hstart entry hentry
  simp only [script, size_toBytes]
  omega

/-! ## A sample -/

/-- The file of a small script: a jump, the instruction that it jumps to, and two spoken lines. -/
def Image.sample : Image where
  texts := {
    name := #[83, 48, 49, 65, 0]
    room := #[82, 0]
    time := #[84, 0]
    symbols := [#[77, 65, 73, 78, 0], #[72, 105, 46, 0], #[86, 48, 49, 95, 75, 89, 78, 48, 48, 48, 49, 0], #[66, 121, 101, 46, 0],
      #[86, 48, 49, 95, 72, 82, 72, 48, 48, 48, 50, 0]] }
  entries := [⟨0, 2, 0⟩]
  body := #[0, 2, 255, 255, 0, 1, 0, 1, 0, 0, 0, 0, 0, 0, 0, 0, 0, 117, 0, 3, 255, 255, 0, 0, 0, 0, 0, 0, 0, 0, 0, 0, 0, 0, 0, 0, 0, 0]

/-- What is known of the sample besides its file. -/
def View.sample : View where
  encoding := .shiftJis
  units := [("MAIN", [
    ⟨0, 0, 2, -1, 1, ⟨1, "JUMP", [0x00, 0x02]⟩, [⟨ParameterTag.jumpTarget, 14, #[0, 0, 0, 117]⟩]⟩,
    ⟨18, 18, 3, -1, 0, ⟨0, "NOP", []⟩, []⟩])]
  origin := 99
  marks := [⟨.ofCode "KYN", 1, "V01_KYN0001"⟩, ⟨.ofCode "HRH", 3, "V01_HRH0002"⟩]

/-- The sample as a script. -/
def Script.sample : Script :=
  Image.sample.script View.sample

theorem Image.marks_sample : (Image.sample.texts.symbolTable .shiftJis).marks = View.sample.marks := by
  rw [SymbolTable.marks, Dialogue.extract, List.mergeSort_of_pairwise (by decide)]
  rfl

theorem Image.freshView_sample : Image.sample.freshView .shiftJis View.sample.units = View.sample := by
  rw [freshView, marks_sample]
  rfl

theorem Image.valid_sample : Image.sample.Valid .shiftJis := by
  refine ⟨⟨by decide, by decide, by decide⟩, by decide, by decide, by decide, ?_⟩
  rw [size_toBytes]
  decide

theorem Image.runs_sample : Runs Image.sample.body Catalog.sample Image.sample.entries (View.sample.units.map (·.2)) :=
  .cons (.next (by decide) (by rfl) (by decide) (.next (by decide) (by rfl) (by decide)
    (.trailer (by decide)))) .nil

theorem Image.named_sample : Named (Image.sample.texts.symbolTable .shiftJis) Image.sample.entries View.sample.units :=
  .cons (by rfl) .nil

theorem Script.consistent_sample : Script.sample.Consistent Catalog.sample := by
  rw [sample, ← Image.freshView_sample]
  exact Image.consistent Image.valid_sample Image.runs_sample Image.named_sample (by decide)

/-! ## A start at the largest word -/

/-- The file of a script with the lines of the sample. Its block has no instructions, and starts at the largest word. -/
def Image.sampleFar : Image where
  texts := sample.texts
  entries := [⟨0, 0, 4294967196⟩]
  body := #[]

/-- It as a script. -/
def Script.sampleFar : Script where
  bytes := #[0, 0, 0, 5, 83, 48, 49, 65, 0, 0, 0, 0, 2, 82, 0, 0, 0, 0, 2, 84, 0, 0, 5, 0, 1, 0, 0, 0, 91, 0, 0, 0, 99, 0, 0, 0, 5, 77,
    65, 73, 78, 0, 0, 0, 0, 4, 72, 105, 46, 0, 0, 0, 0, 12, 86, 48, 49, 95, 75, 89, 78, 48, 48, 48, 49, 0, 0, 0, 0, 5, 66, 121,
    101, 46, 0, 0, 0, 0, 12, 86, 48, 49, 95, 72, 82, 72, 48, 48, 48, 50, 0, 0, 0, 0, 0, 255, 255, 255, 255]
  encoding := .shiftJis
  header := ⟨"S01A", "R", "T", 5, 1, 25, 91, 29, 99⟩
  symbols := ⟨[⟨33, "MAIN"⟩, ⟨42, "Hi."⟩, ⟨50, "V01_KYN0001"⟩, ⟨66, "Bye."⟩, ⟨75, "V01_HRH0002"⟩]⟩
  blocks := [⟨91, 0, "MAIN", 0, 4294967295, 0, 0⟩]
  invocations := []
  dialogue := [⟨"Hi.", .ofCode "KYN", 42, 1, "V01_KYN0001"⟩, ⟨"Bye.", .ofCode "HRH", 66, 3, "V01_HRH0002"⟩]

theorem Image.script_sampleFar : sampleFar.script (sampleFar.freshView .shiftJis [("MAIN", [])]) = Script.sampleFar := by
  have hmarks : (sampleFar.texts.symbolTable .shiftJis).marks = View.sample.marks := marks_sample
  have hbytes : sampleFar.toBytes.toList = Script.sampleFar.bytes.toList := by decide +kernel
  have hheader : sampleFar.header .shiftJis = Script.sampleFar.header := by decide +kernel
  have hsymbols : sampleFar.texts.symbolTable .shiftJis = Script.sampleFar.symbols := by decide +kernel
  have hblocks : placeBlocks sampleFar.base sampleFar.texts.symbolsEnd 0 sampleFar.entries [("MAIN", [])] = Script.sampleFar.blocks := by
    decide +kernel
  have hdialogue : View.sample.marks.map (sampleFar.texts.line .shiftJis) = Script.sampleFar.dialogue := by decide +kernel
  rw [freshView, hmarks, script, Array.toList_inj.1 hbytes, hheader, hsymbols, hblocks, hdialogue]
  rfl

theorem Image.readable_sampleFar : sampleFar.Readable .shiftJis :=
  ⟨valid_sample.toReadable.texts, by decide, by decide, by decide⟩

/-- Its tables are exact, though its block starts far behind the file. -/
theorem Script.exactTables_sampleFar : sampleFar.ExactTables Catalog.sample := by
  have hruns : Runs Image.sampleFar.body Catalog.sample Image.sampleFar.entries [[]] := .cons (.trailer (by decide)) .nil
  have hnamed : Named (Image.sampleFar.texts.symbolTable .shiftJis) Image.sampleFar.entries [("MAIN", [])] := .cons (by rfl) .nil
  rw [← Image.script_sampleFar]
  exact Image.readable_sampleFar.exactTables hruns hnamed

end SceneScript
