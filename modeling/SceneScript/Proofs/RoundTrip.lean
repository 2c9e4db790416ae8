import SceneScript.Proofs.Building
import SceneScript.Proofs.Consistency
import SceneScript.Proofs.Names

/-!
# Reading a layout back

Reading undoes building: the bytes that a well-formed layout is built to are read as a script with its texts, its blocks and its
instructions, and every jump holds the address of the instruction that it names (`ScriptLayout.WellFormed.parse?_toBytes?`).
-/

namespace SceneScript

open Bytes

/-! ## Addresses -/

/-- The addresses of the instructions of blocks, whose sizes are given, from a place on. -/
def addressesFrom : Nat → List (List Nat) → List (List Nat)
  | _, [] => []
  | pos, sizes :: rest => startsFrom pos sizes :: addressesFrom (pos + (totalSize sizes + Block.trailerSize)) rest

theorem addressesFrom_add (base pos : Nat) (sizes : List (List Nat)) :
    addressesFrom (base + pos) sizes = (addressesFrom pos sizes).map (·.map (base + ·)) := by
  induction sizes generalizing pos with
  | nil => rfl
  | cons size rest ih => rw [addressesFrom, addressesFrom, List.map_cons, startsFrom_add, Nat.add_assoc, ih]

theorem length_startsFrom (pos : Nat) (sizes : List Nat) : (startsFrom pos sizes).length = sizes.length := by
  induction sizes generalizing pos with
  | nil => rfl
  | cons size rest ih => rw [startsFrom, List.length_cons, List.length_cons, ih]

theorem getElem?_startsFrom_bind (pos : Nat) (blocks : List BlockLayout) (block instruction : Nat) :
    ((startsFrom pos (blocks.map BlockLayout.size))[block]?.bind fun start => blocks[block]?.bind fun content =>
        (startsFrom start (content.instructions.map InstructionLayout.size))[instruction]?) =
      (addressesFrom pos (blocks.map fun block => block.instructions.map InstructionLayout.size))[block]?.bind (·[instruction]?) := by
  induction blocks generalizing pos block with
  | nil => rfl
  | cons content rest ih =>
    cases block with
    | zero => rfl
    | succ block => exact ih (pos + content.size) block

/-- The address of an instruction is found among those of its block. -/
theorem ScriptLayout.addressOf?_eq (layout : ScriptLayout) (encoding : Encoding) (block instruction : Nat) :
    layout.addressOf? encoding block instruction =
      (addressesFrom (layout.blockTableEnd encoding)
        (layout.blocks.map fun block => block.instructions.map InstructionLayout.size))[block]?.bind (·[instruction]?) :=
  getElem?_startsFrom_bind ..

/-- Every instruction of a layout has an address. -/
theorem ScriptLayout.exists_addressOf? (layout : ScriptLayout) (encoding : Encoding) {block instruction : Nat}
    {content : BlockLayout} (hcontent : layout.blocks[block]? = some content) (hlt : instruction < content.instructions.length) :
    ∃ address, layout.addressOf? encoding block instruction = some address := by
  obtain ⟨hblock, -⟩ := List.getElem?_eq_some_iff.1 hcontent
  have hstarts : block < (layout.blockStarts encoding).length := by
    rw [blockStarts, length_startsFrom, List.length_map]
    exact hblock
  have haddresses : ∀ start, instruction < (startsFrom start (content.instructions.map InstructionLayout.size)).length := by
    intro start
    rw [length_startsFrom, List.length_map]
    exact hlt
  simp only [addressOf?, List.getElem?_eq_getElem hstarts, hcontent, Option.bind_eq_bind, Option.bind_some]
  exact ⟨_, List.getElem?_eq_getElem (haddresses _)⟩

/-! ## Reading the body of a layout -/

theorem size_regionBytes (run : List Contents) :
    (regionBytes run).size = (Contents.runBytes run).size + Block.trailerSize := by
  rw [regionBytes, Array.size_append, Array.size_replicate]

/-- The region of a block ends where the next one starts, and that of the last block at the end of the body. -/
theorem regionEnd_blockEntries {body : Bytes} {blocks : List BlockLayout} {pos : Nat} (h : blocks = [] → pos = body.size) :
    regionEnd body (blockEntries pos blocks) = pos := by
  cases blocks with
  | nil => exact (h rfl).symm
  | cons block blocks => rfl

/-- The regions of a body that says `runs` are read as instructions that say `runs`, each at its address. -/
theorem exists_runs_of_holds {catalog : Catalog} {body : Bytes} {blocks : List BlockLayout} {runs : List (List Contents)}
    {pos : Nat} (hsizes : blocks.map (fun block => block.instructions.map InstructionLayout.size) =
      runs.map (·.map (·.toBytes.size)))
    (hreadable : ∀ run ∈ runs, ∀ contents ∈ run, contents.Readable catalog)
    (h : body.Holds pos (concat (runs.map regionBytes))) (hend : pos + (concat (runs.map regionBytes)).size = body.size) :
    ∃ found, Runs body catalog (blockEntries pos blocks) found ∧ found.map (·.map Invocation.contents) = runs ∧
      found.map (·.map (·.address)) = addressesFrom pos (runs.map (·.map (·.toBytes.size))) := by
  induction runs generalizing pos blocks with
  | nil =>
    cases blocks with
    | nil => exact ⟨[], .nil, rfl, rfl⟩
    | cons block blocks => nomatch hsizes
  | cons run runs ih =>
    cases blocks with
    | nil => nomatch hsizes
    | cons block blocks =>
      rw [List.map_cons, List.map_cons, List.cons.injEq] at hsizes
      obtain ⟨hsize, hsizes⟩ := hsizes
      rw [List.map_cons, concat_cons, holds_append] at h
      rw [List.map_cons, concat_cons, Array.size_append] at hend
      obtain ⟨hrun, hrest⟩ := h
      -- The trailer makes the region end where the next block starts, so reading stops at the last instruction.
      have hblock : block.size = (regionBytes run).size := by
        rw [size_regionBytes, Contents.size_runBytes, ← hsize, BlockLayout.size]
      have hregion : regionEnd body (blockEntries (pos + block.size) blocks) = pos + block.size := by
        refine regionEnd_blockEntries fun hnone => ?_
        subst hnone
        rw [List.map_nil, eq_comm, List.map_eq_nil_iff] at hsizes
        subst hsizes
        rw [hblock, ← hend]
        rfl
      rw [← hblock] at hrest hend
      have hstop : regionEnd body (blockEntries (pos + block.size) blocks) =
          pos + (Contents.runBytes run).size + Block.trailerSize := by
        rw [hregion, hblock, size_regionBytes, Nat.add_assoc]
      obtain ⟨invocations, hdecodes, hcontents, haddresses⟩ := exists_decodes_of_holds (hreadable run (List.mem_cons_self ..))
        (holds_append.1 hrun).1 hstop
      obtain ⟨found, hfound, hsaid, hplaces⟩ := ih hsizes (fun r hr => hreadable r (List.mem_cons_of_mem _ hr)) hrest (by omega)
      refine ⟨invocations :: found, .cons hdecodes hfound, by rw [List.map_cons, hcontents, hsaid], ?_⟩
      rw [List.map_cons, List.map_cons, addressesFrom, haddresses, hplaces, hblock, size_regionBytes, Contents.size_runBytes]

/-! ## What a layout is read as -/

/-- The instructions of each block of a script. -/
def Script.runs (script : Script) : List (List Invocation) :=
  script.blocks.map script.blockInvocations

/-- The address of an instruction of a script, if there is one at that place. -/
def Script.addressOf? (script : Script) (block instruction : Nat) : Option Nat :=
  (script.runs.map (·.map (·.address)))[block]?.bind (·[instruction]?)

/-- The text that is read where a text has been written. -/
def Encoding.rewrite (encoding : Encoding) (text : String) : String :=
  encoding.decode (encoding.encode text)

/-- The script holds what the layout says: the texts as they are read back, the ends of the tables, and for each block its name and
precisely its instructions in order. Every jump holds the address, in the script, of the instruction that it names. -/
structure ScriptLayout.IsReadAs (layout : ScriptLayout) (script : Script) : Prop where
  name : script.header.name = script.encoding.rewrite layout.name
  room : script.header.room = script.encoding.rewrite layout.room
  time : script.header.time = script.encoding.rewrite layout.time
  symbols : script.symbols.symbols.map (·.text) = layout.symbols.map script.encoding.rewrite
  symbolTableEnd : script.header.symbolTableEnd.toNat = layout.symbolTableEnd script.encoding
  blockTableEnd : script.header.blockTableEnd.toNat = layout.blockTableEnd script.encoding
  nameIndices : script.blocks.map (·.nameIndex) = layout.blocks.map (·.nameIndex)
  names : script.blocks.map (fun block => some block.name) =
    layout.blocks.map fun block => layout.symbols[block.nameIndex.toNat]?.map script.encoding.rewrite
  runs : layout.resolve? script.addressOf? = some (script.runs.map (·.map Invocation.contents))
  runs_flatten : script.runs.flatten = script.invocations
  address_lt : ∀ invocation ∈ script.invocations, invocation.address < UInt32.size

/-! ## Blocks by their entries -/

section

variable {base address : Nat} {entries : List BlockEntry} {units : List (String × List Invocation)}

/-- The blocks of a table own the instructions of their regions. -/
theorem map_slice_placeBlocks (hlength : units.length = entries.length) (front : List Invocation) (place : Invocation → Invocation) :
    (placeBlocks base address front.length entries units).map (·.slice (front ++ (units.flatMap (·.2)).map place)) =
      units.map (·.2.map place) := by
  induction entries generalizing address units front with
  | nil =>
    cases units with
    | nil => rfl
    | cons unit units => nomatch hlength
  | cons entry entries ih =>
    cases units with
    | nil => nomatch hlength
    | cons unit units =>
      obtain ⟨name, run⟩ := unit
      have hrest := @ih (address + Header.blockEntrySize) units (Nat.succ.inj hlength) (front ++ run.map place)
      rw [List.length_append, List.length_map, List.append_assoc] at hrest
      rw [placeBlocks, List.map_cons, List.map_cons, List.flatMap_cons, List.map_append, hrest, Block.slice, List.drop_left,
        Nat.add_sub_cancel_left, ← List.length_map place, List.take_left]

theorem map_nameIndex_placeBlocks (hlength : units.length = entries.length) (first : Nat) :
    (placeBlocks base address first entries units).map (·.nameIndex) = entries.map (·.nameIndex) := by
  induction entries generalizing address units first with
  | nil => cases units <;> rfl
  | cons entry entries ih =>
    cases units with
    | nil => nomatch hlength
    | cons unit units =>
      obtain ⟨name, run⟩ := unit
      rw [placeBlocks, List.map_cons, List.map_cons, ih (Nat.succ.inj hlength)]

theorem map_name_placeBlocks (hlength : units.length = entries.length) (first : Nat) :
    (placeBlocks base address first entries units).map (·.name) = units.map (·.1) := by
  induction entries generalizing address units first with
  | nil =>
    cases units with
    | nil => rfl
    | cons unit units => nomatch hlength
  | cons entry entries ih =>
    cases units with
    | nil => nomatch hlength
    | cons unit units =>
      obtain ⟨name, run⟩ := unit
      rw [placeBlocks, List.map_cons, List.map_cons, ih (Nat.succ.inj hlength)]

end

theorem Image.runs_script {image : Image} {view : View} (hlength : view.units.length = image.entries.length) :
    (image.script view).runs = view.units.map (·.2.map (Invocation.place image.base view.origin)) :=
  map_slice_placeBlocks hlength [] _

theorem map_nameIndex_blockEntries (pos : Nat) (blocks : List BlockLayout) :
    (blockEntries pos blocks).map (·.nameIndex) = blocks.map (·.nameIndex) := by
  induction blocks generalizing pos with
  | nil => rfl
  | cons block blocks ih => rw [blockEntries, List.map_cons, List.map_cons, ih]

/-- Every block starts in front of the end of the body. -/
theorem start_le_of_mem_blockEntries {pos : Nat} {blocks : List BlockLayout} {entry : BlockEntry}
    (h : entry ∈ blockEntries pos blocks) : entry.start ≤ pos + totalSize (blocks.map BlockLayout.size) := by
  induction blocks generalizing pos with
  | nil => simp [blockEntries] at h
  | cons block blocks ih =>
    have hsize : totalSize ((block :: blocks).map BlockLayout.size) =
        block.size + totalSize (blocks.map BlockLayout.size) := rfl
    rcases List.mem_cons.1 h with rfl | h
    · exact Nat.le_add_right ..
    · have hle := ih h
      omega

/-- Blocks whose names are symbols have names. -/
theorem exists_named_blockEntries {table : SymbolTable} {blocks : List BlockLayout} {runs : List (List Invocation)} (pos : Nat)
    (hlt : ∀ block ∈ blocks, block.nameIndex.toNat < table.symbols.length) (hlength : blocks.length = runs.length) :
    ∃ units, Named table (blockEntries pos blocks) units ∧ units.map (·.2) = runs ∧
      units.map (fun unit => some unit.1) = blocks.map fun block => (table.symbols.map (·.text))[block.nameIndex.toNat]? := by
  induction blocks generalizing pos runs with
  | nil =>
    cases runs with
    | nil => exact ⟨[], .nil, rfl, rfl⟩
    | cons run runs => nomatch hlength
  | cons block blocks ih =>
    cases runs with
    | nil => nomatch hlength
    | cons run runs =>
      obtain ⟨units, hnamed, hruns, hnames⟩ :=
        ih (pos + block.size) (fun b hb => hlt b (List.mem_cons_of_mem _ hb)) (Nat.succ.inj hlength)
      have hsymbol := List.getElem?_eq_getElem (hlt block (List.mem_cons_self ..))
      have hget := SymbolTable.get_natCast_eq_ok_iff.2 ⟨_, hsymbol, rfl⟩
      refine ⟨(_, run) :: units, .cons hget hnamed, by rw [List.map_cons, hruns], ?_⟩
      rw [List.map_cons, List.map_cons, hnames, List.getElem?_map, hsymbol, Option.map_some]

/-! ## Building and reading -/

theorem StoredText.pop_stored (encoding : Encoding) (text : String) :
    (stored encoding text).pop.toList = encoding.encode text := by
  simp [stored]

theorem Texts.map_text_symbolsFrom (encoding : Encoding) (pos : Nat) (symbols : List Bytes) :
    (symbolsFrom encoding pos symbols).map (·.text) = symbols.map fun stored => encoding.decode stored.pop.toList := by
  induction symbols generalizing pos with
  | nil => rfl
  | cons stored rest ih => rw [symbolsFrom, List.map_cons, List.map_cons, ih]

namespace ScriptLayout

variable {catalog : Catalog} {layout : ScriptLayout} {encoding : Encoding} {runs : List (List Contents)}

/-- The symbols are read as what was written. -/
theorem map_text_symbolTable (layout : ScriptLayout) (encoding : Encoding) :
    ((layout.texts encoding).symbolTable encoding).symbols.map (·.text) = layout.symbols.map encoding.rewrite := by
  rw [Texts.symbolTable, Texts.map_text_symbolsFrom, texts, List.map_map]
  refine List.map_congr_left fun text _ => ?_
  rw [Function.comp_apply, StoredText.pop_stored, Encoding.rewrite]

theorem size_body_image (encoding : Encoding) {address? : Nat → Nat → Option Nat} (hruns : layout.resolve? address? = some runs) :
    (layout.image encoding runs).body.size = totalSize (layout.blocks.map BlockLayout.size) := by
  have hsizes := congrArg (List.map fun sizes => totalSize sizes + Block.trailerSize) (map_size_of_resolve? hruns)
  rw [List.map_map, List.map_map] at hsizes
  have hblocks : layout.blocks.map BlockLayout.size = runs.map fun run => (regionBytes run).size := by
    refine Eq.trans hsizes (List.map_congr_left fun run _ => ?_)
    rw [Function.comp_apply, size_regionBytes, Contents.size_runBytes]
  rw [image, size_concat, List.map_map, hblocks, Function.comp_def]

/-- The image of a well-formed layout is valid if its name passes for one and its file is small enough. -/
theorem WellFormed.valid_image (h : layout.WellFormed catalog) (hname : IsName encoding (StoredText.stored encoding layout.name))
    {address? : Nat → Nat → Option Nat} (hruns : layout.resolve? address? = some runs)
    (hsize : (layout.image encoding runs).toBytes.size < sizeLimit) : (layout.image encoding runs).Valid encoding := by
  have hsymbols : (layout.texts encoding).symbols.length = layout.symbols.length := List.length_map ..
  have hentries : (layout.image encoding runs).entries.length = layout.blocks.length := length_blockEntries ..
  have hsymbols' := h.symbols_length
  have hblocks := h.blocks_length
  have hbody := size_body_image encoding hruns
  refine ⟨hname, ?_, ?_, fun entry hentry => ?_, hsize⟩
  · rw [image, hsymbols]
    exact Nat.lt_succ_of_le hsymbols'
  · rw [hentries]
    exact Nat.lt_succ_of_le hblocks
  · have hle := start_le_of_mem_blockEntries hentry
    rw [Image.size_toBytes] at hsize
    omega

/-- The addresses that a layout gives to its instructions are those at which they are read. -/
theorem addressOf?_script (hruns : layout.resolve? (layout.addressOf? encoding) = some runs)
    {units : List (String × List Invocation)} (hlength : units.length = (layout.image encoding runs).entries.length)
    (hplaces : (units.map (·.2)).map (·.map (·.address)) = addressesFrom 0 (runs.map (·.map (·.toBytes.size)))) :
    ((layout.image encoding runs).script ((layout.image encoding runs).freshView encoding units)).addressOf? =
      layout.addressOf? encoding := by
  have hplaced : (units.map (·.2.map (Invocation.place (layout.image encoding runs).base (layout.image encoding runs).base))).map
      (·.map (·.address)) = addressesFrom (layout.blockTableEnd encoding) (runs.map (·.map (·.toBytes.size))) := by
    have hmoved := congrArg (List.map (List.map ((layout.image encoding runs).base + ·))) hplaces
    rw [← addressesFrom_add, Nat.add_zero] at hmoved
    rw [blockTableEnd_eq layout encoding runs, ← hmoved]
    simp only [List.map_map, Function.comp_def]
    rfl
  funext block instruction
  rw [addressOf?_eq, map_size_of_resolve? hruns, Script.addressOf?, Image.runs_script hlength]
  exact congrArg (fun list : List (List Nat) => list[block]?.bind (·[instruction]?)) hplaced

/-- The script of the image of a layout holds what the layout says. -/
theorem isReadAs_script (hruns : layout.resolve? (layout.addressOf? encoding) = some runs)
    (hvalid : (layout.image encoding runs).Valid encoding) {units : List (String × List Invocation)}
    (hread : Runs (layout.image encoding runs).body catalog (layout.image encoding runs).entries (units.map (·.2)))
    (hlength : units.length = (layout.image encoding runs).entries.length)
    (hcontents : (units.map (·.2)).map (·.map Invocation.contents) = runs)
    (hplaces : (units.map (·.2)).map (·.map (·.address)) = addressesFrom 0 (runs.map (·.map (·.toBytes.size))))
    (hnames : units.map (fun unit => some unit.1) =
      layout.blocks.map fun block => (layout.symbols.map encoding.rewrite)[block.nameIndex.toNat]?) :
    layout.IsReadAs ((layout.image encoding runs).script ((layout.image encoding runs).freshView encoding units)) := by
  have hbase := hvalid.base_lt
  have hends : layout.blockTableEnd encoding = layout.symbolTableEnd encoding + 8 * layout.blocks.length := rfl
  have hbase' := blockTableEnd_eq layout encoding runs
  have hsize := hvalid.size_lt
  rw [Image.size_toBytes] at hsize
  refine ⟨?_, ?_, ?_, layout.map_text_symbolTable encoding, ?_, ?_, ?_, ?_, ?_, ?_, ?_⟩
  · exact congrArg encoding.decode (StoredText.pop_stored encoding layout.name)
  · exact congrArg encoding.decode (StoredText.pop_stored encoding layout.room)
  · exact congrArg encoding.decode (StoredText.pop_stored encoding layout.time)
  · have htexts := symbolTableEnd_eq layout encoding
    have hlt : (layout.texts encoding).symbolsEnd < sizeLimit := by omega
    exact (toNat_ofNat_of_lt hlt).trans htexts.symm
  · exact (toNat_ofNat_of_lt hbase).trans hbase'.symm
  · exact (map_nameIndex_placeBlocks hlength 0).trans (map_nameIndex_blockEntries 0 layout.blocks)
  · have hsome := congrArg (List.map some) (@map_name_placeBlocks (layout.image encoding runs).base
      (layout.image encoding runs).texts.symbolsEnd _ _ hlength 0)
    rw [List.map_map, List.map_map] at hsome
    refine hsome.trans (hnames.trans (List.map_congr_left fun block _ => ?_))
    rw [List.getElem?_map]
    rfl
  · rw [addressOf?_script hruns hlength hplaces, hruns, Image.runs_script hlength, ← hcontents]
    simp only [List.map_map, Function.comp_def, Invocation.contents_place]
    rfl
  · rw [Image.runs_script hlength]
    simp only [Image.script, Image.freshView, List.flatMap_def, List.map_flatten, List.map_map]
    rfl
  · intro invocation hinvocation
    obtain ⟨inner, hinner, rfl⟩ := List.mem_map.1 hinvocation
    have hwithin := Invocation.within_of_read (hread.read_of_mem hinner)
    have hle := hwithin.address_le
    simp only [Invocation.place, sizeLimit, UInt32.size] at *
    omega

/-- Reading undoes building, in every encoding in which the name passes for one: the bytes of a well-formed layout are those of a
consistent script that holds what the layout says. -/
theorem WellFormed.exists_script (h : layout.WellFormed catalog)
    (hname : IsName encoding (StoredText.stored encoding layout.name)) :
    ∃ bytes, layout.toBytes? encoding = some bytes ∧ (bytes.size < sizeLimit →
      ∃ script, Script.parse? bytes catalog encoding = .ok (some script) ∧ script.bytes = bytes ∧ script.encoding = encoding ∧
        script.Consistent catalog ∧ layout.IsReadAs script) := by
  obtain ⟨runs, hruns⟩ := h.exists_resolve? fun _ _ _ => layout.exists_addressOf? encoding
  refine ⟨(layout.image encoding runs).toBytes, by rw [toBytes?_eq, hruns, Option.map_some], fun hsize => ?_⟩
  have hvalid := h.valid_image hname hruns hsize
  have hsizes := map_size_of_resolve? hruns
  obtain ⟨found, hfound, hcontents, hplaces⟩ := exists_runs_of_holds hsizes (h.readable hruns)
    (holds_self (layout.image encoding runs).body) (Nat.zero_add _)
  have hsymbols : ((layout.texts encoding).symbolTable encoding).symbols.length = layout.symbols.length := by
    have htexts := congrArg List.length (layout.map_text_symbolTable encoding)
    rwa [List.length_map, List.length_map] at htexts
  have hblocks : layout.blocks.length = found.length := by
    have hlengths := congrArg List.length hcontents
    rw [List.length_map] at hlengths
    rw [hlengths, length_eq_of_mapM hruns]
  obtain ⟨units, hnamed, rfl, hnames⟩ := exists_named_blockEntries 0 (by rw [hsymbols]; exact h.nameIndex_lt) hblocks
  rw [layout.map_text_symbolTable encoding] at hnames
  have hstart : ∀ entry ∈ (layout.image encoding runs).entries, entry.start ≤ (layout.image encoding runs).body.size := by
    intro entry hentry
    have hle := start_le_of_mem_blockEntries hentry
    rwa [Nat.zero_add, ← size_body_image encoding hruns] at hle
  exact ⟨_, (Image.parse?_eq_ok_some_iff hvalid).2 ⟨units, hfound, hnamed, rfl⟩, rfl, rfl,
    Image.consistent hvalid hfound hnamed hstart,
    isReadAs_script hruns hvalid hfound hnamed.length_eq hcontents hplaces hnames⟩

/-- Reading undoes building in Shift_JIS: a well-formed layout whose name is read back with at most twenty characters is built to
bytes that are read as a consistent script with the same bytes, which holds what the layout says. -/
theorem WellFormed.parse?_toBytes? (h : layout.WellFormed catalog)
    (hname : (Encoding.shiftJis.rewrite layout.name).length ≤ Header.maxNameLength) :
    ∃ bytes, layout.toBytes? .shiftJis = some bytes ∧ (bytes.size < sizeLimit →
      ∃ script, Script.parse? bytes catalog .shiftJis = .ok (some script) ∧ script.bytes = bytes ∧ script.encoding = .shiftJis ∧
        script.Consistent catalog ∧ layout.IsReadAs script) :=
  h.exists_script (Encoding.isName_encode hname)

/-- Two blocks that jump to each other, the first with a payload that tells its own length. -/
def sample : ScriptLayout where
  name := "S01A"
  room := "R"
  time := "T"
  symbols := ["MAIN", "SUB"]
  blocks := [
    ⟨0, [
      { line := 2, opcode := 1, parameters := [.jumpTo 1 0, .payload 29 #[0, 0, 0, 5, 9]] },
      { line := 3, opcode := 0, parameters := [] }]⟩,
    ⟨1, [{ line := 7, unknown := 4, opcode := 1, parameters := [.jumpTo 0 1] }]⟩]

/-- The sample is built and read back. -/
theorem parse?_toBytes?_sample :
    sample.WellFormed Catalog.sample ∧ (Encoding.shiftJis.rewrite sample.name).length ≤ Header.maxNameLength ∧
      ∃ bytes script, sample.toBytes? .shiftJis = some bytes ∧
        Script.parse? bytes Catalog.sample .shiftJis = .ok (some script) ∧ script.bytes = bytes ∧ script.encoding = .shiftJis ∧
        script.Consistent Catalog.sample ∧ sample.IsReadAs script := by
  have hwell : sample.WellFormed Catalog.sample := by decide +kernel
  have hname : (Encoding.shiftJis.rewrite sample.name).length ≤ Header.maxNameLength := by decide +kernel
  obtain ⟨bytes, hbytes, hread⟩ := hwell.parse?_toBytes? hname
  have hsize : (sample.toBytes? .shiftJis).all (·.size < sizeLimit) = true := by decide +kernel
  rw [hbytes, Option.all_some, decide_eq_true_eq] at hsize
  obtain ⟨script, hscript⟩ := hread hsize
  exact ⟨hwell, hname, bytes, script, hbytes, hscript⟩

end ScriptLayout

end SceneScript
