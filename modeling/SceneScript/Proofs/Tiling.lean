import SceneScript.Proofs.Consistency
import SceneScript.Proofs.Contents

/-!
# Instructions tile their regions

Whatever file is read as a script, the instructions of a block follow one another from its start without gaps, inside its region and
up to its trailer, and each of them is all of the bytes from its address to its end (`Script.tiled_of_parse?`). Nothing is asked of the
header for this: `BlockRuns` says which instructions are read for the blocks of a table that may stand anywhere. Blocks that start in
the order of the table do not share any bytes (`BlockRuns.pairwise`).
-/

namespace SceneScript

open Bytes

/-! ## Instructions by their bytes -/

/-- Where the last of parameters ends, when the first one is to stand at `pos`. -/
def Parameter.lastEnd (pos : Nat) (parameters : List Parameter) : Nat :=
  match parameters.getLast? with
  | none => pos
  | some parameter => parameter.offset + parameter.payload.size

/-- Where the last payload of an instruction ends. Without parameters it is where the reserved bytes end. -/
def Invocation.payloadsEnd (invocation : Invocation) : Nat :=
  Parameter.lastEnd (invocation.address + headerSize) invocation.parameters

/-- The bytes of an instruction, with the parameter count and the reserved bytes that a file has for it. -/
def Invocation.written (invocation : Invocation) (count : Int16) (reserved : Bytes) : Bytes :=
  ofInt16 invocation.line ++ (ofInt16 invocation.unknown ++ (ofInt16 invocation.opcode ++ (ofInt16 count ++ (reserved ++
    concat (invocation.parameters.map fun parameter => ofInt16 parameter.tag ++ parameter.payload)))))

/-- The bytes from the address of the instruction to its end are those that it is written as, with the parameter count and the
reserved bytes that stand there. A negative count stands for no parameters. -/
def Invocation.IsWrittenIn (buf : Bytes) (invocation : Invocation) : Prop :=
  ∃ count reserved, buf.readInt16 (invocation.address + 6) = .ok count ∧ count.toInt.toNat = invocation.parameters.length ∧
    buf.slice (invocation.address + 8) 4 = .ok reserved ∧ invocation.payloadsEnd ≤ buf.size ∧
    buf.extract invocation.address invocation.payloadsEnd = invocation.written count reserved

theorem Parameter.lastEnd_cons (pos : Nat) (parameter : Parameter) (rest : List Parameter) :
    lastEnd pos (parameter :: rest) = lastEnd (parameter.offset + parameter.payload.size) rest := by
  unfold lastEnd
  rw [List.getLast?_cons]
  cases rest.getLast? <;> rfl

/-- Parameters that have been read stand one after another, each with its tag in front of its payload. -/
theorem holds_of_readParameters {buf : Bytes} {count pos : Nat} {parameters : List Parameter} (hpos : pos ≤ buf.size)
    (h : readParameters buf count pos = .ok parameters) :
    parameters.length = count ∧ Parameter.lastEnd pos parameters = pos + totalSize (parameters.map Parameter.size) ∧
      buf.Holds pos (concat (parameters.map fun parameter => ofInt16 parameter.tag ++ parameter.payload)) := by
  induction count generalizing pos parameters with
  | zero =>
    rw [readParameters, pure_eq_ok_iff] at h
    subst h
    exact ⟨rfl, rfl, holds_empty.2 hpos⟩
  | succ count ih =>
    simp only [readParameters, bind_eq_ok_iff, pure_eq_ok_iff, slice_eq_ok_iff, readInt16_eq_ok_iff] at h
    obtain ⟨tag, htag, length, -, payload, ⟨rfl, hpayload⟩, rest, hrest, rfl⟩ := h
    obtain ⟨hlength, hend, hholds⟩ := ih hpayload.le_size hrest
    refine ⟨by rw [List.length_cons, hlength], ?_, ?_⟩
    · rw [Parameter.lastEnd_cons, hend]
      simp only [List.map_cons, totalSize, List.foldr_cons, Parameter.size]
      omega
    · rw [List.map_cons, concat_cons, holds_append, holds_append, Array.size_append, size_ofInt16, ← Nat.add_assoc]
      exact ⟨⟨htag, hpayload⟩, hholds⟩

/-- The parameter count of an instruction that has been read, and all that follows it. -/
theorem Invocation.exists_count_of_read {buf : Bytes} {catalog : Catalog} {pos : Nat} {invocation : Invocation}
    (h : read buf catalog pos = .ok invocation) :
    ∃ count : Int16, invocation.address = pos ∧ buf.Holds pos (ofInt16 invocation.line) ∧
      buf.Holds (pos + 2) (ofInt16 invocation.unknown) ∧ buf.Holds (pos + 4) (ofInt16 invocation.opcode) ∧
      buf.Holds (pos + 6) (ofInt16 count) ∧ pos + headerSize ≤ buf.size ∧
      readParameters buf count.toInt.toNat (pos + headerSize) = .ok invocation.parameters := by
  simp only [read, bind_eq_ok_iff, pure_eq_ok_iff, readInt16_eq_ok_iff, ensure_eq_ok_iff] at h
  obtain ⟨line, hline, unknown, hunknown, opcode, hopcode, count, hcount, _, hroom, command, -, parameters, hparameters, rfl⟩ := h
  exact ⟨count, rfl, hline, hunknown, hopcode, hcount, hroom, hparameters⟩

/-- The last payload of an instruction ends where the instruction ends. -/
theorem Invocation.payloadsEnd_of_read {buf : Bytes} {catalog : Catalog} {pos : Nat} {invocation : Invocation}
    (h : read buf catalog pos = .ok invocation) : invocation.payloadsEnd = pos + invocation.size := by
  obtain ⟨count, haddress, -, -, -, -, hroom, hparameters⟩ := exists_count_of_read h
  obtain ⟨-, hend, -⟩ := holds_of_readParameters hroom hparameters
  rw [payloadsEnd, haddress, hend, size, Nat.add_assoc]

/-- An instruction that has been read is all of the bytes from its address to its end. -/
theorem Invocation.isWrittenIn_of_read {buf : Bytes} {catalog : Catalog} {pos : Nat} {invocation : Invocation}
    (h : read buf catalog pos = .ok invocation) : invocation.IsWrittenIn buf := by
  obtain ⟨count, rfl, hline, hunknown, hopcode, hcount, hroom, hparameters⟩ := exists_count_of_read h
  obtain ⟨hlength, hend, hholds⟩ := holds_of_readParameters hroom hparameters
  -- The reserved bytes are whatever stands between the count and the parameters.
  obtain ⟨reserved, hreserved⟩ : ∃ reserved, buf.slice (invocation.address + 8) 4 = .ok reserved := by
    have hfits : invocation.address + 8 + 4 ≤ buf.size := hroom
    refine ⟨buf.extract (invocation.address + 8) (invocation.address + 8 + 4), ?_⟩
    rw [slice, ensure, if_pos hfits]
    rfl
  obtain ⟨hsize, hreserved'⟩ := slice_eq_ok_iff.1 hreserved
  have hwritten : buf.Holds invocation.address (invocation.written count reserved) := by
    simp only [written, holds_append, size_ofInt16, hsize, Nat.add_assoc]
    exact ⟨hline, hunknown, hopcode, hcount, hreserved', hholds⟩
  have hlast : invocation.address + (invocation.written count reserved).size = invocation.payloadsEnd := by
    have hle := hholds.le_size
    have hparts : (concat (invocation.parameters.map fun parameter => ofInt16 parameter.tag ++ parameter.payload)).size =
        totalSize (invocation.parameters.map Parameter.size) := by
      have hcontents := size_concat_parameterBytes invocation.parameters
      rw [List.map_map] at hcontents
      exact hcontents
    rw [payloadsEnd, hend]
    simp only [written, Array.size_append, size_ofInt16, hsize, hparts, headerSize]
    omega
  refine ⟨count, reserved, readInt16_eq_ok_iff.2 hcount, hlength.symm, hreserved, ?_, ?_⟩
  · rw [← hlast]
    exact hwritten.le_size
  · rw [← hlast]
    exact hwritten.2

/-! ## Instructions one after another -/

/-- Instructions one after another: the first stands at `pos`, every other one where the last payload of the one before it ends, and
the last payload of all ends at `past`. -/
inductive Consecutive : Nat → List Invocation → Nat → Prop where
  | nil {pos : Nat} : Consecutive pos [] pos
  | cons {invocation : Invocation} {rest : List Invocation} {past : Nat} :
      Consecutive invocation.payloadsEnd rest past → Consecutive invocation.address (invocation :: rest) past

section

variable {buf : Bytes} {catalog : Catalog} {stop pos : Nat} {run : List Invocation}

/-- The instructions of a region follow one another up to its trailer. -/
theorem Decodes.exists_consecutive (h : Decodes buf catalog stop pos run) :
    ∃ past, Consecutive pos run past ∧ stop ≤ past + Block.trailerSize := by
  induction h with
  | trailer hstop => exact ⟨_, .nil, hstop⟩
  | @next pos invocation rest _ hread _ _ ih =>
    obtain ⟨past, hrest, hstop⟩ := ih
    refine ⟨past, ?_, hstop⟩
    rw [← Invocation.payloadsEnd_of_read hread] at hrest
    rw [← Invocation.address_of_read hread]
    exact .cons hrest

/-- The instructions of a region stand in it, and not in front of the first one. -/
theorem Decodes.bounds_of_mem (h : Decodes buf catalog stop pos run) :
    ∀ invocation ∈ run, pos ≤ invocation.address ∧ invocation.address < invocation.payloadsEnd ∧ invocation.payloadsEnd ≤ stop := by
  induction h with
  | trailer => simp
  | @next pos first rest _ hread hfit _ ih =>
    have haddress := Invocation.address_of_read hread
    have hend := Invocation.payloadsEnd_of_read hread
    have hsize := first.headerSize_le_size
    intro invocation hmem
    rcases List.mem_cons.1 hmem with rfl | hmem
    · omega
    · obtain ⟨hpos, hlt, hle⟩ := ih invocation hmem
      omega

/-- The instructions of a region do not share any bytes. -/
theorem Decodes.pairwise (h : Decodes buf catalog stop pos run) :
    run.Pairwise fun a b => a.address < b.address ∧ a.payloadsEnd ≤ b.address := by
  induction h with
  | trailer => exact .nil
  | @next pos first rest _ hread _ hrest ih =>
    refine .cons (fun other hother => ?_) ih
    have haddress := Invocation.address_of_read hread
    have hend := Invocation.payloadsEnd_of_read hread
    have hsize := first.headerSize_le_size
    obtain ⟨hpos, -, -⟩ := hrest.bounds_of_mem other hother
    omega

end

/-! ## The blocks of a table -/

/-- Where the region of a block ends that stands in front of others in the table: at the start of the next one, and at the end of the
file if it is the last. -/
def nextStart (buf : Bytes) : List Block → Nat
  | [] => buf.size
  | next :: _ => next.start.toNat

/-- The instructions that stand in the regions of the blocks of a table, when `first` others come before them. -/
inductive BlockRuns (buf : Bytes) (catalog : Catalog) : Nat → List Block → List (List Invocation) → Prop where
  | nil {first : Nat} : BlockRuns buf catalog first [] []
  | cons {block : Block} {blocks : List Block} {run : List Invocation} {runs : List (List Invocation)} :
      Decodes buf catalog (nextStart buf blocks) block.start.toNat run → block.past = block.first + run.length →
      BlockRuns buf catalog block.past blocks runs → BlockRuns buf catalog block.first (block :: blocks) (run :: runs)

/-- The first block of a table that is read starts where its entry says. -/
theorem Block.readUInt32_start_of_readAll {buf : Bytes} {catalog : Catalog} {symbols : SymbolTable}
    {tableEnd count entry first : Nat} {blocks : List Block} {invocations : List Invocation}
    (h : readAll buf catalog symbols tableEnd (count + 1) entry first = .ok (blocks, invocations)) :
    ∃ block rest, blocks = block :: rest ∧ buf.readUInt32 (entry + 4) = .ok block.start := by
  obtain ⟨block, own, others, rest, hread, -, rfl, -⟩ := readAll_succ_eq_ok_iff.1 h
  obtain ⟨nameIndex, recordedCount, start, name, stop, hholds, -, -, -, rfl⟩ := read_eq_ok_iff.1 hread
  rw [holds_append, holds_append, size_ofUInt16, size_ofUInt16, Nat.add_assoc] at hholds
  exact ⟨_, others, rfl, readUInt32_eq_ok_iff.2 hholds.2.2⟩

/-- Reading a table gives the instructions that stand in the regions of its blocks. -/
theorem Block.exists_blockRuns_of_readAll {buf : Bytes} {catalog : Catalog} {symbols : SymbolTable}
    {tableEnd count entry first : Nat} {blocks : List Block} {invocations : List Invocation}
    (hcount : count = (tableEnd - entry + 7) / 8)
    (h : readAll buf catalog symbols tableEnd count entry first = .ok (blocks, invocations)) :
    ∃ runs, BlockRuns buf catalog first blocks runs ∧ invocations = runs.flatten := by
  induction count generalizing entry first blocks invocations with
  | zero =>
    obtain ⟨rfl, rfl⟩ := readAll_zero_eq_ok_iff.1 h
    exact ⟨[], .nil, rfl⟩
  | succ count ih =>
    obtain ⟨block, own, others, rest, hread, hothers, rfl, rfl⟩ := readAll_succ_eq_ok_iff.1 h
    obtain ⟨nameIndex, recordedCount, start, name, stop, -, -, hstop, hown, rfl⟩ := read_eq_ok_iff.1 hread
    obtain ⟨runs, hruns, rfl⟩ := ih (by simp only [Header.blockEntrySize]; omega) hothers
    -- The end of the region is read from the entry that the next block is read from.
    have hregion : stop = nextStart buf others := by
      unfold regionEnd at hstop
      split at hstop
      next hlast =>
        obtain rfl : count = 0 := by simp only [Header.blockEntrySize] at hlast; omega
        rw [(readAll_zero_eq_ok_iff.1 hothers).1]
        exact (pure_eq_ok_iff.1 hstop).symm
      next hmore =>
        obtain ⟨count, rfl⟩ : ∃ further, count = further + 1 := ⟨count - 1, by simp only [Header.blockEntrySize] at hmore; omega⟩
        obtain ⟨next, behind, rfl, hnext⟩ := readUInt32_start_of_readAll hothers
        rw [hnext] at hstop
        exact (pure_eq_ok_iff.1 hstop).symm
    rw [hregion] at hown
    exact ⟨own :: runs, .cons hown rfl hruns, rfl⟩

/-- Reading the table of a script gives the instructions that stand in the regions of its blocks. -/
theorem Block.exists_blockRuns_of_readTable {buf : Bytes} {catalog : Catalog} {header : Header} {symbols : SymbolTable}
    {blocks : List Block} {invocations : List Invocation}
    (h : readTable buf catalog header symbols = .ok (blocks, invocations)) :
    ∃ runs, BlockRuns buf catalog 0 blocks runs ∧ invocations = runs.flatten :=
  exists_blockRuns_of_readAll rfl h

/-- Blocks that own consecutive parts of a list: the first one from `first` on, every other one from where the one before it ends, and
the last one up to `past`. -/
inductive Block.Ranges : Nat → List Block → Nat → Prop where
  | nil {first : Nat} : Ranges first [] first
  | cons {block : Block} {rest : List Block} {past : Nat} :
      block.first ≤ block.past → Ranges block.past rest past → Ranges block.first (block :: rest) past

namespace BlockRuns

variable {buf : Bytes} {catalog : Catalog} {first : Nat} {blocks : List Block} {runs : List (List Invocation)}

/-- Without blocks there are no instructions. -/
theorem eq_nil (h : BlockRuns buf catalog first [] runs) : runs = [] := by
  cases h
  rfl

/-- The blocks own consecutive parts of the list of all instructions. -/
theorem ranges (h : BlockRuns buf catalog first blocks runs) : Block.Ranges first blocks (first + runs.flatten.length) := by
  induction h with
  | nil => exact .nil
  | @cons block blocks run runs _ hpast _ ih =>
    have hlength : block.first + (run :: runs).flatten.length = block.past + runs.flatten.length := by
      rw [List.flatten_cons, List.length_append, hpast, Nat.add_assoc]
    rw [hlength]
    exact .cons (by omega) ih

/-- The instructions of a block are those of its region. -/
theorem map_slice (h : BlockRuns buf catalog first blocks runs) (front : List Invocation) (hfront : front.length = first) :
    blocks.map (·.slice (front ++ runs.flatten)) = runs := by
  induction h generalizing front with
  | nil => rfl
  | @cons block blocks run runs _ hpast _ ih =>
    have hrest := ih (front ++ run) (by rw [List.length_append, hpast, hfront])
    have hown : block.slice (front ++ (run ++ runs.flatten)) = run := by
      rw [Block.slice, hpast, Nat.add_sub_cancel_left, ← hfront, List.drop_left, List.take_left]
    rw [List.append_assoc] at hrest
    rw [List.map_cons, List.flatten_cons, hown, hrest]

/-- The instructions of a block are read from its start up to the start of the next block. -/
theorem exists_decodes (h : BlockRuns buf catalog first blocks runs) {number : Nat} {block : Block}
    (hblock : blocks[number]? = some block) :
    ∃ run, runs[number]? = some run ∧ Decodes buf catalog (nextStart buf (blocks.drop (number + 1))) block.start.toNat run := by
  induction h generalizing number with
  | nil => nomatch hblock
  | cons hrun _ _ ih =>
    cases number with
    | zero =>
      cases hblock
      exact ⟨_, rfl, hrun⟩
    | succ number => exact ih hblock

theorem read_of_mem (h : BlockRuns buf catalog first blocks runs) :
    ∀ invocation ∈ runs.flatten, Invocation.read buf catalog invocation.address = .ok invocation := by
  induction h with
  | nil => simp
  | cons hrun _ _ ih =>
    intro invocation hmem
    rw [List.flatten_cons, List.mem_append] at hmem
    rcases hmem with hmem | hmem
    · exact hrun.read_address invocation hmem
    · exact ih invocation hmem

/-- No instruction stands in front of where all blocks start. -/
theorem le_address (h : BlockRuns buf catalog first blocks runs) {pos : Nat} (hpos : ∀ block ∈ blocks, pos ≤ block.start.toNat) :
    ∀ invocation ∈ runs.flatten, pos ≤ invocation.address := by
  induction h with
  | nil => simp
  | @cons block _ _ _ hrun _ _ ih =>
    intro invocation hmem
    rw [List.flatten_cons, List.mem_append] at hmem
    rcases hmem with hmem | hmem
    · have hstart := hpos block (List.mem_cons_self ..)
      exact Nat.le_trans hstart (hrun.bounds_of_mem invocation hmem).1
    · exact ih (fun other hother => hpos other (List.mem_cons_of_mem _ hother)) invocation hmem

/-- Blocks that start in the order of the table do not share any bytes. -/
theorem pairwise (h : BlockRuns buf catalog first blocks runs) (hordered : blocks.Pairwise fun a b => a.start ≤ b.start) :
    runs.flatten.Pairwise fun a b => a.address < b.address ∧ a.payloadsEnd ≤ b.address := by
  induction h with
  | nil => exact .nil
  | @cons block blocks run runs hrun _ hruns ih =>
    rw [List.pairwise_cons] at hordered
    rw [List.flatten_cons, List.pairwise_append]
    refine ⟨hrun.pairwise, ih hordered.2, fun own hown other hother => ?_⟩
    obtain ⟨-, hlt, hle⟩ := hrun.bounds_of_mem own hown
    have hnext : nextStart buf blocks ≤ other.address := by
      cases blocks with
      | nil =>
        rw [hruns.eq_nil] at hother
        nomatch hother
      | cons next behind =>
        refine hruns.le_address (fun later hlater => ?_) other hother
        rcases List.mem_cons.1 hlater with rfl | hlater
        · exact Nat.le_refl _
        · exact UInt32.le_iff_toNat_le.1 ((List.pairwise_cons.1 hordered.2).1 later hlater)
    omega

end BlockRuns

/-! ## The regions of a script -/

namespace Script

/-- Where the region of a block ends, given its number. -/
def regionEnd (script : Script) (number : Nat) : Nat :=
  nextStart script.bytes (script.blocks.drop (number + 1))

/-- The instructions of a block follow one another from its start, none of them ends past its region, and they end when there are at
most as many bytes left as a trailer has. -/
structure TilesRegion (script : Script) (number : Nat) (block : Block) : Prop where
  exists_consecutive : ∃ past, Consecutive block.start.toNat (script.blockInvocations block) past ∧
    script.regionEnd number ≤ past + Block.trailerSize
  payloadsEnd_le : ∀ invocation ∈ script.blockInvocations block, invocation.payloadsEnd ≤ script.regionEnd number

/-- The blocks share out the instructions of the script one after another, the instructions of every block tile its region, and every
instruction is all of the bytes that it takes. If the blocks start in the order of the table, the instructions stand in the file in
their order and do not share any bytes. -/
structure Tiled (script : Script) : Prop where
  ranges : Block.Ranges 0 script.blocks script.invocations.length
  flatMap_blockInvocations : script.blocks.flatMap script.blockInvocations = script.invocations
  regions : ∀ number block, script.blocks[number]? = some block → script.TilesRegion number block
  written : ∀ invocation ∈ script.invocations, invocation.IsWrittenIn script.bytes
  ordered : (script.blocks.Pairwise fun a b => a.start ≤ b.start) →
    script.invocations.Pairwise fun a b => a.address < b.address ∧ a.payloadsEnd ≤ b.address

/-- Every file that is read as a script is tiled by the instructions of the script. -/
theorem tiled_of_parse? {bytes : Bytes} {catalog : Catalog} {encoding : Encoding} {script : Script}
    (h : parse? bytes catalog encoding = .ok (some script)) : script.bytes = bytes ∧ script.Tiled := by
  obtain ⟨header, symbols, blocks, invocations, -, htable, rfl⟩ := parse?_eq_ok_some_iff.1 h
  obtain ⟨runs, hruns, rfl⟩ := Block.exists_blockRuns_of_readTable htable
  have hslices : blocks.map (·.slice runs.flatten) = runs := hruns.map_slice [] rfl
  refine ⟨rfl, ?_, ?_, fun number block hblock => ?_, fun invocation hmem => ?_, hruns.pairwise⟩
  · have hranges := hruns.ranges
    rwa [Nat.zero_add] at hranges
  · calc blocks.flatMap (·.slice runs.flatten)
        = (blocks.map (·.slice runs.flatten)).flatten := List.flatMap_def ..
      _ = runs.flatten := by rw [hslices]
  · obtain ⟨run, hrun, hdecodes⟩ := hruns.exists_decodes hblock
    have hslice := congrArg (·[number]?) hslices
    simp only [List.getElem?_map, hblock, Option.map_some, hrun, Option.some.injEq] at hslice
    subst hslice
    exact ⟨hdecodes.exists_consecutive, fun invocation hmem => (hdecodes.bounds_of_mem invocation hmem).2.2⟩
  · exact Invocation.isWrittenIn_of_read (hruns.read_of_mem invocation hmem)

/-- The sample is tiled by its jump and the instruction that it jumps to. -/
theorem tiled_sample :
    parse? sample.bytes Catalog.sample sample.encoding = .ok (some sample) ∧ sample.bytes = Image.sample.toBytes ∧ sample.Tiled :=
  ⟨consistent_sample.parsed, tiled_of_parse? consistent_sample.parsed⟩

end Script

end SceneScript
