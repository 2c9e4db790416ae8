import SceneScript.Proofs.Instructions

/-!
# The block table

The entries of a block table tell where the regions of a body start. `Block.readAll_eq_ok_iff` says what reading a table gives that
stands in front of a body: the names and instructions of its regions, put where the body stands.
-/

namespace SceneScript

open Bytes

/-! ## Entries of the block table -/

/-- An entry of the block table; the start is counted from the end of the table. -/
structure BlockEntry where
  nameIndex : UInt16
  recordedCount : UInt16
  start : Nat
  deriving DecidableEq, Repr

namespace BlockEntry

/-- The bytes of an entry that gives `start` as the position of the first instruction. -/
def bytesWith (entry : BlockEntry) (start : UInt32) : Bytes :=
  ofUInt16 entry.nameIndex ++ (ofUInt16 entry.recordedCount ++ ofUInt32 start)

@[simp] theorem size_bytesWith (entry : BlockEntry) (start : UInt32) : (entry.bytesWith start).size = 8 := by
  simp [bytesWith]

/-- The position of the first instruction when the table ends at `base`. -/
def startWord (base : Nat) (entry : BlockEntry) : UInt32 :=
  UInt32.ofNat (base + entry.start)

end BlockEntry

theorem BlockEntry.toNat_startWord {base : Nat} {entry : BlockEntry} (h : base + entry.start < UInt32.size) :
    (entry.startWord base).toNat = base + entry.start := by
  rw [startWord, UInt32.toNat_ofNat', Nat.mod_eq_of_lt h]

/-- The bytes of an entry tell its fields and the position that it gives. -/
theorem BlockEntry.bytesWith_inj {entry other : BlockEntry} {start start' : UInt32}
    (h : entry.bytesWith start = other.bytesWith start') :
    entry.nameIndex = other.nameIndex ∧ entry.recordedCount = other.recordedCount ∧ start = start' := by
  obtain ⟨hname, h⟩ := Array.append_inj h rfl
  obtain ⟨hcount, hstart⟩ := Array.append_inj h rfl
  exact ⟨ofUInt16_inj hname, ofUInt16_inj hcount, ofUInt32_inj hstart⟩

/-- The block table of entries that give the positions `start`. -/
def tableBytesWith (start : BlockEntry → UInt32) (entries : List BlockEntry) : Bytes :=
  concat (entries.map fun entry => entry.bytesWith (start entry))

/-- The block table of entries when it ends at `base`. -/
def tableBytes (base : Nat) (entries : List BlockEntry) : Bytes :=
  tableBytesWith (BlockEntry.startWord base) entries

@[simp] theorem tableBytes_cons (base : Nat) (entry : BlockEntry) (rest : List BlockEntry) :
    tableBytes base (entry :: rest) = entry.bytesWith (entry.startWord base) ++ tableBytes base rest := rfl

@[simp] theorem size_tableBytesWith (start : BlockEntry → UInt32) (entries : List BlockEntry) :
    (tableBytesWith start entries).size = 8 * entries.length := by
  induction entries with
  | nil => rfl
  | cons entry rest ih =>
    rw [tableBytesWith, List.map_cons, concat_cons, Array.size_append, BlockEntry.size_bytesWith, ← tableBytesWith, ih,
      List.length_cons]
    omega

@[simp] theorem size_tableBytes (base : Nat) (entries : List BlockEntry) : (tableBytes base entries).size = 8 * entries.length :=
  size_tableBytesWith _ _

/-- Where the region of the entry before `rest` ends in a body. -/
def regionEnd (body : Bytes) : List BlockEntry → Nat
  | [] => body.size
  | next :: _ => next.start

/-- The instructions that stand in the regions of entries, for each entry in order. -/
inductive Runs (body : Bytes) (catalog : Catalog) : List BlockEntry → List (List Invocation) → Prop where
  | nil : Runs body catalog [] []
  | cons {entry : BlockEntry} {entries : List BlockEntry} {run : List Invocation} {runs : List (List Invocation)} :
      Decodes body catalog (regionEnd body entries) entry.start run → Runs body catalog entries runs →
      Runs body catalog (entry :: entries) (run :: runs)

/-- Every instruction of the regions is what is read at its address. -/
theorem Runs.read_address {body : Bytes} {catalog : Catalog} {entries : List BlockEntry} {runs : List (List Invocation)}
    (h : Runs body catalog entries runs) :
    ∀ run ∈ runs, ∀ invocation ∈ run, Invocation.read body catalog invocation.address = .ok invocation := by
  induction h with
  | nil => simp
  | cons hrun _ ih =>
    intro run hmem
    rcases List.mem_cons.1 hmem with rfl | hmem
    · exact hrun.read_address
    · exact ih run hmem

theorem Runs.read_of_mem {body : Bytes} {catalog : Catalog} {entries : List BlockEntry}
    {units : List (String × List Invocation)} (h : Runs body catalog entries (units.map (·.2))) {invocation : Invocation}
    (hmem : invocation ∈ units.flatMap (·.2)) : Invocation.read body catalog invocation.address = .ok invocation := by
  obtain ⟨unit, hunit, hrun⟩ := List.mem_flatMap.1 hmem
  exact h.read_address unit.2 (List.mem_map_of_mem hunit) invocation hrun

/-- The blocks of entries, with their names and instructions, when the first entry stands at `address`, the table ends at `base` and
`first` instructions come before. -/
def placeBlocks (base : Nat) : (address first : Nat) → List BlockEntry → List (String × List Invocation) → List Block
  | address, first, entry :: entries, (name, run) :: units =>
    { address, nameIndex := entry.nameIndex, name, recordedCount := entry.recordedCount, start := entry.startWord base, first,
      past := first + run.length } :: placeBlocks base (address + Header.blockEntrySize) (first + run.length) entries units
  | _, _, _, _ => []

theorem SymbolTable.get_natCast_eq_ok_iff {table : SymbolTable} {index : Nat} {text : String} :
    table.get index = .ok text ↔ ∃ symbol, table.symbols[index]? = some symbol ∧ symbol.text = text := by
  unfold get
  rw [if_neg (by omega), Int.toNat_natCast]
  cases table.symbols[index]? <;> simp

/-- The entries name symbols of the table, and the units have these names. -/
inductive Named (symbols : SymbolTable) : List BlockEntry → List (String × List Invocation) → Prop where
  | nil : Named symbols [] []
  | cons {entry : BlockEntry} {entries : List BlockEntry} {name : String} {run : List Invocation}
      {units : List (String × List Invocation)} : symbols.get entry.nameIndex.toNat = .ok name → Named symbols entries units →
      Named symbols (entry :: entries) ((name, run) :: units)

theorem Named.length_eq {symbols : SymbolTable} {entries : List BlockEntry} {units : List (String × List Invocation)}
    (h : Named symbols entries units) : units.length = entries.length := by
  induction h with
  | nil => rfl
  | cons _ _ ih => rw [List.length_cons, List.length_cons, ih]

/-- The blocks start where the entries say. -/
theorem Named.map_start_placeBlocks {symbols : SymbolTable} {entries : List BlockEntry} {units : List (String × List Invocation)}
    (h : Named symbols entries units) (base address first : Nat) :
    (placeBlocks base address first entries units).map (·.start) = entries.map (BlockEntry.startWord base) := by
  induction h generalizing address first with
  | nil => rfl
  | cons _ _ ih => rw [placeBlocks, List.map_cons, List.map_cons, ih]

/-- Every block has its entry in the table. -/
theorem address_of_mem_placeBlocks {base address first : Nat} {entries : List BlockEntry}
    {units : List (String × List Invocation)} {block : Block} (h : block ∈ placeBlocks base address first entries units) :
    ∃ distance, block.address = address + distance ∧
      distance + Header.blockEntrySize ≤ Header.blockEntrySize * entries.length := by
  induction entries generalizing address first units with
  | nil => cases units <;> simp [placeBlocks] at h
  | cons entry entries ih =>
    match units with
    | [] => simp [placeBlocks] at h
    | (name, run) :: units =>
      simp only [placeBlocks, List.mem_cons, List.length_cons, Header.blockEntrySize] at *
      rcases h with rfl | h
      · exact ⟨0, rfl, by omega⟩
      · obtain ⟨distance, haddress, hle⟩ := ih h
        exact ⟨8 + distance, by omega, by omega⟩

namespace Block

theorem regionEnd_eq_ok_iff {front body : Bytes} {address stop : Nat} {entries : List BlockEntry}
    (hend : address + 8 + 8 * entries.length = front.size)
    (hholds : (front ++ body).Holds (address + 8) (tableBytes front.size entries))
    (hstart : ∀ entry ∈ entries, front.size + entry.start < UInt32.size) :
    Block.regionEnd (front ++ body) front.size address = .ok stop ↔ stop = front.size + SceneScript.regionEnd body entries := by
  unfold Block.regionEnd Header.blockEntrySize
  match entries with
  | [] =>
    rw [if_pos (by simp at hend; omega), pure_eq_ok_iff]
    simp [SceneScript.regionEnd, eq_comm]
  | next :: rest =>
    rw [if_neg (by simp at hend; omega)]
    have hword : (front ++ body).Holds (address + 8 + 4) (ofUInt32 (next.startWord front.size)) := by
      rw [tableBytes_cons, holds_append, BlockEntry.bytesWith, holds_append, holds_append] at hholds
      exact hholds.1.2.2
    have hread : (front ++ body).readUInt32 (address + 8 + 4) = .ok (next.startWord front.size) := readUInt32_eq_ok_iff.2 hword
    rw [hread]
    have hnat := BlockEntry.toNat_startWord (hstart next (by simp))
    simp [bind, Except.bind, pure, Except.pure, SceneScript.regionEnd, hnat, eq_comm]

/-- Reading a block gives what its entry says and the instructions of its region. -/
theorem read_eq_ok_iff {buf : Bytes} {catalog : Catalog} {symbols : SymbolTable} {tableEnd address first : Nat} {block : Block}
    {invocations : List Invocation} :
    read buf catalog symbols tableEnd address first = .ok (block, invocations) ↔
      ∃ nameIndex recordedCount start name stop,
        buf.Holds address (ofUInt16 nameIndex ++ (ofUInt16 recordedCount ++ ofUInt32 start)) ∧
        symbols.get nameIndex.toNat = .ok name ∧ regionEnd buf tableEnd address = .ok stop ∧
        Decodes buf catalog stop start.toNat invocations ∧
        block = { address, nameIndex, name, recordedCount, start, first, past := first + invocations.length } := by
  simp only [read, bind_eq_ok_iff, pure_eq_ok_iff, readUInt16_eq_ok_iff, readUInt32_eq_ok_iff, readInstructions_eq_ok_iff,
    holds_append, Prod.mk.injEq, size_ofUInt16, Nat.add_assoc]
  constructor
  · rintro ⟨nameIndex, hname, count, hcount, start, hstart, name, hget, stop, hstop, list, hlist, rfl, rfl⟩
    exact ⟨nameIndex, count, start, name, stop, ⟨hname, hcount, hstart⟩, hget, hstop, hlist, rfl⟩
  · rintro ⟨nameIndex, count, start, name, stop, ⟨hname, hcount, hstart⟩, hget, hstop, hlist, rfl⟩
    exact ⟨nameIndex, hname, count, hcount, start, hstart, name, hget, stop, hstop, invocations, hlist, rfl, rfl⟩

/-- A table without entries has no blocks. -/
theorem readAll_zero_eq_ok_iff {buf : Bytes} {catalog : Catalog} {symbols : SymbolTable} {tableEnd entry first : Nat}
    {blocks : List Block} {invocations : List Invocation} :
    readAll buf catalog symbols tableEnd 0 entry first = .ok (blocks, invocations) ↔ blocks = [] ∧ invocations = [] := by
  rw [readAll, pure_eq_ok_iff, Prod.mk.injEq, eq_comm, @eq_comm _ []]

/-- Reading a table gives the block of its first entry and those behind it, and their instructions in this order. -/
theorem readAll_succ_eq_ok_iff {buf : Bytes} {catalog : Catalog} {symbols : SymbolTable} {tableEnd count entry first : Nat}
    {blocks : List Block} {invocations : List Invocation} :
    readAll buf catalog symbols tableEnd (count + 1) entry first = .ok (blocks, invocations) ↔
      ∃ block own others further, read buf catalog symbols tableEnd entry first = .ok (block, own) ∧
        readAll buf catalog symbols tableEnd count (entry + Header.blockEntrySize) block.past = .ok (others, further) ∧
        blocks = block :: others ∧ invocations = own ++ further := by
  simp only [readAll, bind_eq_ok_iff, pure_eq_ok_iff, Prod.exists, Prod.mk.injEq]
  constructor
  · rintro ⟨block, own, hblock, others, further, hothers, rfl, rfl⟩
    exact ⟨block, own, others, further, hblock, hothers, rfl, rfl⟩
  · rintro ⟨block, own, others, further, hblock, hothers, rfl, rfl⟩
    exact ⟨block, own, hblock, others, further, hothers, rfl, rfl⟩

/-- Every block of a table is read from an entry of it. -/
theorem exists_read_of_mem {buf : Bytes} {catalog : Catalog} {symbols : SymbolTable} {tableEnd count entry first : Nat}
    {blocks : List Block} {invocations : List Invocation}
    (h : readAll buf catalog symbols tableEnd count entry first = .ok (blocks, invocations)) :
    ∀ block ∈ blocks, ∃ number < count, ∃ first own,
      read buf catalog symbols tableEnd (entry + Header.blockEntrySize * number) first = .ok (block, own) := by
  induction count generalizing entry first blocks invocations with
  | zero =>
    obtain ⟨rfl, -⟩ := readAll_zero_eq_ok_iff.1 h
    intro block hblock
    exact absurd hblock List.not_mem_nil
  | succ count ih =>
    obtain ⟨head, own, others, _, hhead, hothers, rfl, -⟩ := readAll_succ_eq_ok_iff.1 h
    intro block hblock
    rcases List.mem_cons.1 hblock with rfl | hblock
    · exact ⟨0, Nat.succ_pos _, first, own, hhead⟩
    · obtain ⟨number, hlt, first', own', hread⟩ := ih hothers block hblock
      rw [Nat.add_assoc, Nat.add_comm Header.blockEntrySize, ← Nat.mul_succ] at hread
      exact ⟨number + 1, Nat.succ_lt_succ hlt, first', own', hread⟩

/-- Reading the entries of a table that stands in front of a body. -/
theorem readAll_eq_ok_iff {front body : Bytes} {catalog : Catalog} {symbols : SymbolTable} {entries : List BlockEntry}
    {address first : Nat} {blocks : List Block} {invocations : List Invocation}
    (hend : address + 8 * entries.length = front.size)
    (hholds : (front ++ body).Holds address (tableBytes front.size entries))
    (hstart : ∀ entry ∈ entries, front.size + entry.start < UInt32.size) :
    readAll (front ++ body) catalog symbols front.size entries.length address first = .ok (blocks, invocations) ↔
      ∃ units, Runs body catalog entries (units.map (·.2)) ∧ Named symbols entries units ∧
        blocks = placeBlocks front.size address first entries units ∧
        invocations = (units.flatMap (·.2)).map (Invocation.place front.size front.size) := by
  induction entries generalizing address first blocks invocations with
  | nil =>
    rw [List.length_nil, readAll_zero_eq_ok_iff]
    constructor
    · rintro ⟨rfl, rfl⟩
      exact ⟨[], .nil, .nil, rfl, rfl⟩
    · rintro ⟨units, -, hnamed, rfl, rfl⟩
      cases hnamed
      exact ⟨rfl, rfl⟩
  | cons entry entries ih =>
    rw [List.length_cons] at hend
    rw [tableBytes_cons, holds_append, BlockEntry.size_bytesWith] at hholds
    obtain ⟨hentry, hrest⟩ := hholds
    have hstart' : ∀ e ∈ entries, front.size + e.start < UInt32.size := fun e he => hstart e (by simp [he])
    have hnat := BlockEntry.toNat_startWord (hstart entry (by simp))
    have ih' : ∀ {first blocks invocations},
        readAll (front ++ body) catalog symbols front.size entries.length (address + 8) first = .ok (blocks, invocations) ↔ _ :=
      ih (by omega) hrest hstart'
    simp only [List.length_cons, readAll_succ_eq_ok_iff, Header.blockEntrySize, read_eq_ok_iff,
      regionEnd_eq_ok_iff (by omega) hrest hstart']
    constructor
    · rintro ⟨block, own, others, rest, ⟨nameIndex, count, start, name, stop, hholds, hget, rfl, hown, rfl⟩, hothers, rfl, rfl⟩
      have hsame := hholds.eq hentry (by simp)
      obtain ⟨rfl, rfl, rfl⟩ := @BlockEntry.bytesWith_inj ⟨nameIndex, count, entry.start⟩ _ _ _ hsame
      rw [hnat, decodes_append_right] at hown
      obtain ⟨run, hrun, rfl⟩ := hown
      obtain ⟨units, hruns, hnamed, rfl, rfl⟩ := ih'.1 hothers
      exact ⟨(name, run) :: units, .cons hrun hruns, .cons hget hnamed, by simp [placeBlocks, Header.blockEntrySize],
        by simp [List.flatMap_cons]⟩
    · rintro ⟨units, hruns, hnamed, rfl, rfl⟩
      cases hnamed with
      | cons hget hnamed =>
        cases hruns with
        | cons hrun hruns =>
          refine ⟨_, _, _, _, ⟨_, _, _, _, _, hentry, hget, rfl, by rw [hnat]; exact decodes_append_right.2 ⟨_, hrun, rfl⟩, rfl⟩,
            ih'.2 ⟨_, hruns, hnamed, rfl, rfl⟩, ?_, by simp [List.flatMap_cons]⟩
          simp [placeBlocks, Header.blockEntrySize]

/-- A table that is read consists of entries, if no block starts before `base`. -/
theorem exists_entries_of_readAll {buf : Bytes} {catalog : Catalog} {symbols : SymbolTable}
    {base tableEnd count address first : Nat} {blocks : List Block} {invocations : List Invocation} (hpos : address ≤ buf.size)
    (h : readAll buf catalog symbols tableEnd count address first = .ok (blocks, invocations))
    (hstart : ∀ block ∈ blocks, base ≤ block.start.toNat) :
    ∃ entries : List BlockEntry, entries.length = count ∧ buf.Holds address (tableBytes base entries) ∧
      entries.map (fun entry => base + entry.start) = blocks.map (fun block => block.start.toNat) := by
  induction count generalizing address first blocks invocations with
  | zero =>
    obtain ⟨rfl, rfl⟩ := readAll_zero_eq_ok_iff.1 h
    exact ⟨[], rfl, holds_empty.2 hpos, rfl⟩
  | succ count ih =>
    obtain ⟨block, own, others, rest, hblock, hothers, rfl, rfl⟩ := readAll_succ_eq_ok_iff.1 h
    obtain ⟨nameIndex, recordedCount, start, name, stop, hholds, -, -, -, rfl⟩ := read_eq_ok_iff.1 hblock
    have hbase : base ≤ start.toNat := hstart _ (List.mem_cons_self ..)
    have hlt := start.toNat_lt
    obtain ⟨entries, rfl, hentries, hstarts⟩ :=
      ih (by simpa [Header.blockEntrySize] using hholds.le_size) hothers (fun block hblock => hstart block (List.mem_cons_of_mem _ hblock))
    have hword : BlockEntry.startWord base ⟨nameIndex, recordedCount, start.toNat - base⟩ = start := by
      rw [BlockEntry.startWord, Nat.add_sub_cancel' hbase, UInt32.ofNat_toNat]
    refine ⟨⟨nameIndex, recordedCount, start.toNat - base⟩ :: entries, rfl, ?_, ?_⟩
    · rw [tableBytes_cons, holds_append, hword]
      exact ⟨hholds, hentries⟩
    · rw [List.map_cons, List.map_cons, hstarts, Nat.add_sub_cancel' hbase]

end Block

end SceneScript
