import Mathlib.Data.List.Basic
import SceneScript.Proofs.Locality
import SceneScript.Proofs.RoundTrip
import SceneScript.Proofs.Tiling

/-!
# Files that are cut short

What is left of a file holds what stood there (`Bytes.holds_start_iff`). An instruction is read from it exactly if the cut leaves all
bytes that reading it looks at (`Invocation.read_start_iff`). A block in front of others is read with all of its instructions or not at
all (`Block.read_inner_start_iff`). The region of the last block ends where the file ends, so a cut makes it shorter, and reading stops
where no more than a trailer is left (`Block.read_last_start_iff`). The count that the table has for the block is not relied on. So a
script may be cut short and be a script still, with fewer instructions, and `Script.parse?_of_cut` says when it is.
-/

namespace SceneScript

open Bytes

section

variable {front rest : Bytes} {catalog : Catalog}

/-! ## What a part of a file holds -/

/-- What stands at the start of a file is what stands in the file and ends before the start does. -/
theorem Bytes.holds_start_iff (rest : Bytes) {pos : Nat} {part : Bytes} :
    front.Holds pos part ↔ (front ++ rest).Holds pos part ∧ pos + part.size ≤ front.size := by
  constructor
  · intro h
    exact ⟨h.append_left rest, h.le_size⟩
  · rintro ⟨h, hfit⟩
    have hfront : (front ++ rest).Holds 0 front := (holds_self front).append_left rest
    exact hfront.inner (h.cast (Nat.zero_add _).symm) hfit

theorem Bytes.readInt16_start_iff (rest : Bytes) {pos : Nat} {word : Int16} :
    front.readInt16 pos = .ok word ↔ (front ++ rest).readInt16 pos = .ok word ∧ pos + 2 ≤ front.size := by
  rw [readInt16_eq_ok_iff, readInt16_eq_ok_iff, holds_start_iff rest, size_ofInt16]

theorem Bytes.readUInt32_start_iff (rest : Bytes) {pos : Nat} {word : UInt32} :
    front.readUInt32 pos = .ok word ↔ (front ++ rest).readUInt32 pos = .ok word ∧ pos + 4 ≤ front.size := by
  rw [readUInt32_eq_ok_iff, readUInt32_eq_ok_iff, holds_start_iff rest, size_ofUInt32]

theorem Bytes.readInt32_start_iff (rest : Bytes) {pos : Nat} {word : Int32} :
    front.readInt32 pos = .ok word ↔ (front ++ rest).readInt32 pos = .ok word ∧ pos + 4 ≤ front.size := by
  rw [readInt32_eq_ok_iff, readInt32_eq_ok_iff, holds_start_iff rest]
  rfl

/-- If only the first step of a computation asks for more than it did, so does the computation. -/
theorem bind_eq_ok_and_iff {ε α β : Type} {x x' : Except ε α} {f : α → Except ε β} {b : β} {P : Prop}
    (h : ∀ a, x = .ok a ↔ x' = .ok a ∧ P) : (x >>= f) = .ok b ↔ (x' >>= f) = .ok b ∧ P := by
  rw [bind_eq_ok_iff, bind_eq_ok_iff]
  constructor
  · rintro ⟨a, ha, hb⟩
    obtain ⟨ha, hP⟩ := (h a).1 ha
    exact ⟨⟨a, ha, hb⟩, hP⟩
  · rintro ⟨⟨a, ha, hb⟩, hP⟩
    exact ⟨a, (h a).2 ⟨ha, hP⟩, hb⟩

/-! ## Instructions -/

/-- A file of this size has all bytes that reading the parameter looks at. -/
def Parameter.FitsIn (size : Nat) (parameter : Parameter) : Prop :=
  parameter.offset + max parameter.payload.size parameter.wordSize ≤ size

/-- A file of this size has all bytes that reading the instruction looks at. -/
def Invocation.FitsIn (size : Nat) (invocation : Invocation) : Prop :=
  invocation.address + headerSize ≤ size ∧ ∀ parameter ∈ invocation.parameters, parameter.FitsIn size

instance (size : Nat) (parameter : Parameter) : Decidable (parameter.FitsIn size) :=
  inferInstanceAs (Decidable (_ ≤ _))

instance (size : Nat) (invocation : Invocation) : Decidable (invocation.FitsIn size) :=
  inferInstanceAs (Decidable (_ ∧ _))

theorem LengthRule.length_start_iff (rest : Bytes) {rule : LengthRule} {pos : Nat} {length : Int} (hpos : pos ≤ front.size) :
    rule.length front pos = .ok length ↔ rule.length (front ++ rest) pos = .ok length ∧ pos + rule.wordSize ≤ front.size := by
  cases rule with
  | fixed _ => simp only [LengthRule.length, wordSize, Nat.add_zero, hpos, and_true]
  | halfWord => exact bind_eq_ok_and_iff fun _ => readInt16_start_iff rest
  | word => exact bind_eq_ok_and_iff fun _ => readInt32_start_iff rest
  | counted => exact bind_eq_ok_and_iff fun _ => readInt32_start_iff rest

/-- Parameters are read from a file that is cut short exactly if it has them all. -/
theorem readParameters_start_iff (rest : Bytes) {count pos : Nat} {parameters : List Parameter} :
    readParameters front count pos = .ok parameters ↔
      readParameters (front ++ rest) count pos = .ok parameters ∧ ∀ parameter ∈ parameters, parameter.FitsIn front.size := by
  induction count generalizing pos parameters with
  | zero =>
    simp only [readParameters, pure_eq_ok_iff]
    constructor
    · rintro rfl
      exact ⟨rfl, by simp⟩
    · exact And.left
  | succ count ih =>
    simp only [readParameters, bind_eq_ok_iff, pure_eq_ok_iff, slice_eq_ok_iff, parameterLength_eq_ok_iff]
    constructor
    · rintro ⟨tag, htag, _, ⟨rule, hrule, hlength⟩, payload, ⟨rfl, hpayload⟩, others, hothers, rfl⟩
      have hpos : pos + 2 ≤ front.size := (readInt16_eq_ok_iff.1 htag).le_size
      obtain ⟨hlength', hword⟩ := (LengthRule.length_start_iff rest hpos).1 hlength
      obtain ⟨hothers', hfits⟩ := ih.1 hothers
      obtain ⟨htag', -⟩ := (readInt16_start_iff rest).1 htag
      refine ⟨⟨tag, htag', _, ⟨rule, hrule, hlength'⟩, payload, ⟨rfl, hpayload.append_left rest⟩, others, hothers', rfl⟩,
        List.forall_mem_cons.2 ⟨?_, hfits⟩⟩
      have hle := hpayload.le_size
      simp only [Parameter.FitsIn, Parameter.wordSize, hrule, Option.map_some, Option.getD_some]
      omega
    · rintro ⟨⟨tag, htag, _, ⟨rule, hrule, hlength⟩, payload, ⟨rfl, hpayload⟩, others, hothers, rfl⟩, hfits⟩
      obtain ⟨hfirst, hfits⟩ := List.forall_mem_cons.1 hfits
      simp only [Parameter.FitsIn, Parameter.wordSize, hrule, Option.map_some, Option.getD_some] at hfirst
      exact ⟨tag, (readInt16_start_iff _).2 ⟨htag, by omega⟩, _,
        ⟨rule, hrule, (LengthRule.length_start_iff _ (by omega)).2 ⟨hlength, by omega⟩⟩, payload,
        ⟨rfl, (holds_start_iff _).2 ⟨hpayload, by omega⟩⟩, others, ih.2 ⟨hothers, hfits⟩, rfl⟩

/-- An instruction is read from a file that is cut short exactly if it is read from the whole file and the cut leaves all of it. -/
theorem Invocation.read_start_iff (rest : Bytes) {pos : Nat} {invocation : Invocation} :
    read front catalog pos = .ok invocation ↔
      read (front ++ rest) catalog pos = .ok invocation ∧ invocation.FitsIn front.size := by
  simp only [read, bind_eq_ok_iff, pure_eq_ok_iff, ensure_eq_ok_iff]
  constructor
  · rintro ⟨line, hline, unknown, hunknown, opcode, hopcode, count, hcount, _, hroom, command, hcommand, parameters, hparameters, rfl⟩
    obtain ⟨hparameters', hfits⟩ := (readParameters_start_iff rest).1 hparameters
    have hroom' : pos + headerSize ≤ (front ++ rest).size := Nat.le_trans hroom (Array.size_append ▸ Nat.le_add_right ..)
    have hword : ∀ {offset : Nat} {word : Int16}, front.readInt16 offset = .ok word → (front ++ rest).readInt16 offset = .ok word :=
      fun h => ((readInt16_start_iff rest).1 h).1
    exact ⟨⟨line, hword hline, unknown, hword hunknown, opcode, hword hopcode, count, hword hcount, (), hroom', command, hcommand,
      parameters, hparameters', rfl⟩, hroom, hfits⟩
  · rintro ⟨⟨line, hline, unknown, hunknown, opcode, hopcode, count, hcount, _, -, command, hcommand, parameters, hparameters, rfl⟩,
      hroom, hfits⟩
    have hword : ∀ {offset : Nat} {word : Int16}, offset ≤ 10 → (front ++ rest).readInt16 (pos + offset) = .ok word →
        front.readInt16 (pos + offset) = .ok word := fun hle h =>
      (readInt16_start_iff rest).2 ⟨h, Nat.le_trans (by simp only [headerSize]; omega) hroom⟩
    exact ⟨line, hword (Nat.zero_le 10) hline, unknown, hword (by decide) hunknown, opcode, hword (by decide) hopcode,
      count, hword (by decide) hcount, (), hroom, command, hcommand, parameters, (readParameters_start_iff _).2 ⟨hparameters, hfits⟩, rfl⟩

/-- An instruction of which a file has all bytes ends in it. -/
theorem Invocation.FitsIn.stop_le {pos : Nat} {invocation : Invocation} (h : invocation.FitsIn front.size)
    (hread : read (front ++ rest) catalog pos = .ok invocation) : pos + invocation.size ≤ front.size := by
  have hfront := (read_start_iff _).2 ⟨hread, h⟩
  rw [← payloadsEnd_of_read hfront]
  obtain ⟨count, reserved, -, -, -, hle, -⟩ := isWrittenIn_of_read hfront
  exact hle

/-! ## Regions -/

/-- The instructions of a region in front of others are found again exactly if all of them are left. -/
theorem decodes_start_iff (rest : Bytes) {stop pos : Nat} {run : List Invocation} :
    Decodes front catalog stop pos run ↔
      Decodes (front ++ rest) catalog stop pos run ∧ ∀ invocation ∈ run, invocation.FitsIn front.size := by
  constructor
  · intro h
    induction h with
    | trailer hstop => exact ⟨.trailer hstop, by simp⟩
    | next hroom hread hfit _ ih =>
      obtain ⟨hread', hfirst⟩ := (Invocation.read_start_iff rest).1 hread
      exact ⟨.next hroom hread' hfit ih.1, List.forall_mem_cons.2 ⟨hfirst, ih.2⟩⟩
  · rintro ⟨h, hfits⟩
    induction h with
    | trailer hstop => exact .trailer hstop
    | next hroom hread hfit _ ih =>
      obtain ⟨hfirst, hothers⟩ := List.forall_mem_cons.1 hfits
      exact .next hroom ((Invocation.read_start_iff _).2 ⟨hread, hfirst⟩) hfit (ih hothers)

/-- The instruction is left by a cut to this size, or reading ends in front of it: there is no more than a trailer left. -/
def Invocation.LeftOrTrailer (size : Nat) (invocation : Invocation) : Prop :=
  invocation.FitsIn size ∨ size ≤ invocation.address + Block.trailerSize

instance (size : Nat) (invocation : Invocation) : Decidable (invocation.LeftOrTrailer size) :=
  inferInstanceAs (Decidable (_ ∨ _))

/-- Where no more than a trailer is left there are no instructions. -/
theorem decodes_trailer_iff {buf : Bytes} {stop pos : Nat} {run : List Invocation} (h : stop ≤ pos + Block.trailerSize) :
    Decodes buf catalog stop pos run ↔ run = [] := by
  constructor
  · intro hrun
    cases hrun with
    | trailer _ => rfl
    | next hroom => omega
  · rintro rfl
    exact .trailer h

/-- The instructions of the region up to the end of a file that is cut short are those that the cut leaves, unless it goes through one
with more than a trailer of it left. -/
theorem decodes_size_start_iff {pos : Nat} {run kept : List Invocation}
    (h : Decodes (front ++ rest) catalog (front ++ rest).size pos run) :
    Decodes front catalog front.size pos kept ↔
      kept = run.filter (·.FitsIn front.size) ∧ ∀ invocation ∈ run, invocation.LeftOrTrailer front.size := by
  have hsize : front.size ≤ (front ++ rest).size := Array.size_append ▸ Nat.le_add_right ..
  generalize hstop : (front ++ rest).size = stop at h
  induction h generalizing kept with
  | trailer htrailer =>
    rw [decodes_trailer_iff (by omega)]
    simp
  | @next pos first others hroom hread hfit hothers ih =>
    have haddress := Invocation.address_of_read hread
    by_cases hcut : front.size ≤ pos + Block.trailerSize
    · -- Nothing is left of this instruction and of those behind it.
      have hbehind : ∀ invocation ∈ first :: others, pos ≤ invocation.address := fun invocation hmem =>
        ((Decodes.next hroom hread hfit hothers).bounds_of_mem invocation hmem).1
      have hnone : (first :: others).filter (·.FitsIn front.size) = [] := by
        refine List.filter_eq_nil_iff.2 fun invocation hmem hfits => ?_
        have hle := (of_decide_eq_true hfits).1
        have hpos := hbehind invocation hmem
        simp only [Invocation.headerSize, Block.trailerSize] at hle hcut
        omega
      rw [decodes_trailer_iff hcut, hnone, iff_self_and]
      exact fun _ invocation hmem => .inr (Nat.le_trans hcut (Nat.add_le_add_right (hbehind invocation hmem) _))
    · have hleft : first.LeftOrTrailer front.size ↔ first.FitsIn front.size := by
        rw [Invocation.LeftOrTrailer, haddress, or_iff_left hcut]
      rw [List.forall_mem_cons, hleft]
      constructor
      · intro hkept
        cases hkept with
        | trailer htrailer => exact absurd htrailer hcut
        | next _ hread' _ hkept =>
          obtain ⟨hsame, hfits⟩ := (Invocation.read_start_iff rest).1 hread'
          rw [hread, Except.ok.injEq] at hsame
          subst hsame
          obtain ⟨rfl, hrest⟩ := ih.1 hkept
          exact ⟨by simp only [List.filter_cons, hfits, decide_true, if_true], hfits, hrest⟩
      · rintro ⟨rfl, hfits, hrest⟩
        simp only [List.filter_cons, hfits, decide_true, if_true]
        exact .next (by omega) ((Invocation.read_start_iff _).2 ⟨hread, hfits⟩) (hfits.stop_le hread) (ih.2 ⟨rfl, hrest⟩)

/-- Only one list of instructions stands in a region. -/
theorem Decodes.unique {buf : Bytes} {stop pos : Nat} {run run' : List Invocation} (h : Decodes buf catalog stop pos run)
    (h' : Decodes buf catalog stop pos run') : run = run' := by
  have hread : Block.readInstructions buf catalog "" stop pos = .ok run := Block.readInstructions_eq_ok_iff.2 h
  rw [← Block.readInstructions_eq_ok_iff, hread, Except.ok.injEq] at h'
  exact h'

namespace Block

variable {symbols : SymbolTable} {tableEnd entry first : Nat}

/-- The region of a block in front of others ends where it did, if the start of the next one is left. -/
theorem regionEnd_start_iff (rest : Bytes) {stop : Nat} (hmore : ¬tableEnd ≤ entry + Header.blockEntrySize) :
    regionEnd front tableEnd entry = .ok stop ↔
      regionEnd (front ++ rest) tableEnd entry = .ok stop ∧ entry + 2 * Header.blockEntrySize ≤ front.size := by
  simp only [regionEnd, if_neg hmore]
  exact bind_eq_ok_and_iff fun _ => readUInt32_start_iff rest

/-- The block when its instructions end elsewhere in the list of all. -/
def endingAt (past : Nat) (block : Block) : Block :=
  { block with past }

/-- The block when only the first `count` of all instructions are left. -/
def cutTo (count : Nat) (block : Block) : Block :=
  block.endingAt (min block.past count)

section

variable {block block' : Block} {own own' : List Invocation}

/-- A block is read from a file that is cut short if its entry is left. Which instructions it has depends on where its region ends. -/
theorem read_start_iff (h : read (front ++ rest) catalog symbols tableEnd entry first = .ok (block, own)) :
    read front catalog symbols tableEnd entry first = .ok (block', own') ↔
      entry + Header.blockEntrySize ≤ front.size ∧
        ∃ stop, regionEnd front tableEnd entry = .ok stop ∧ Decodes front catalog stop block.start.toNat own' ∧
          block' = block.endingAt (first + own'.length) := by
  rw [read_eq_ok_iff] at h ⊢
  obtain ⟨nameIndex, recordedCount, start, name, stop, hentry, hname, -, -, rfl⟩ := h
  constructor
  · rintro ⟨nameIndex', recordedCount', start', name', stop', hentry', hname', hstop', hown', rfl⟩
    have hle := hentry'.le_size
    have hentry'' := hentry'.append_left rest
    simp only [holds_append] at hentry hentry''
    obtain rfl := ofUInt16_inj (hentry.1.eq hentry''.1 rfl)
    obtain rfl := ofUInt16_inj (hentry.2.1.eq hentry''.2.1 rfl)
    obtain rfl := ofUInt32_inj (hentry.2.2.eq hentry''.2.2 rfl)
    rw [hname, Except.ok.injEq] at hname'
    subst hname'
    exact ⟨hle, stop', hstop', hown', rfl⟩
  · rintro ⟨hle, stop', hstop', hown', rfl⟩
    exact ⟨nameIndex, recordedCount, start, name, stop', (holds_start_iff _).2 ⟨hentry, hle⟩, hname, hstop', hown', rfl⟩

/-- The first and the last place of a block are those of its instructions. -/
theorem places_of_read {buf : Bytes} (h : read buf catalog symbols tableEnd entry first = .ok (block, own)) :
    block.address = entry ∧ block.first = first ∧ block.past = first + own.length := by
  obtain ⟨_, _, _, _, _, -, -, -, -, rfl⟩ := read_eq_ok_iff.1 h
  exact ⟨rfl, rfl, rfl⟩

/-- A block in front of others is read with all of its instructions or not at all. -/
theorem read_inner_start_iff (hmore : ¬tableEnd ≤ entry + Header.blockEntrySize)
    (h : read (front ++ rest) catalog symbols tableEnd entry first = .ok (block, own)) :
    read front catalog symbols tableEnd entry first = .ok (block', own') ↔
      entry + 2 * Header.blockEntrySize ≤ front.size ∧ (∀ invocation ∈ own, invocation.FitsIn front.size) ∧
        own' = own ∧ block' = block := by
  obtain ⟨-, -, hpast⟩ := places_of_read h
  obtain ⟨_, _, _, _, stop, -, -, hstop, hown, hblock⟩ := read_eq_ok_iff.1 h
  have hwhole : block.endingAt (first + own.length) = block := by rw [← hpast, endingAt]
  rw [read_start_iff h]
  constructor
  · rintro ⟨hentry, stop', hstop', hown', rfl⟩
    obtain ⟨hstop', hroom⟩ := (regionEnd_start_iff rest hmore).1 hstop'
    rw [hstop, Except.ok.injEq] at hstop'
    subst hstop'
    obtain ⟨hown', hfits⟩ := (decodes_start_iff rest).1 hown'
    rw [hblock] at hown'
    obtain rfl := hown.unique hown'
    exact ⟨hroom, hfits, rfl, hwhole⟩
  · rintro ⟨hroom, hfits, rfl, rfl⟩
    have hstart : Decodes (front ++ rest) catalog stop block'.start.toNat own' := by rwa [hblock]
    exact ⟨by omega, stop, (regionEnd_start_iff _ hmore).2 ⟨hstop, hroom⟩, (decodes_start_iff _).2 ⟨hstart, hfits⟩, hwhole.symm⟩

/-- The last block is read with the instructions that are left. -/
theorem read_last_start_iff (hlast : tableEnd ≤ entry + Header.blockEntrySize)
    (h : read (front ++ rest) catalog symbols tableEnd entry first = .ok (block, own)) :
    read front catalog symbols tableEnd entry first = .ok (block', own') ↔
      entry + Header.blockEntrySize ≤ front.size ∧ (∀ invocation ∈ own, invocation.LeftOrTrailer front.size) ∧
        own' = own.filter (·.FitsIn front.size) ∧ block' = block.cutTo (first + own'.length) := by
  obtain ⟨-, -, hpast⟩ := places_of_read h
  obtain ⟨_, _, start, _, stop, -, -, hstop, hown, hblock⟩ := read_eq_ok_iff.1 h
  have hstart : block.start = start := by rw [hblock]
  have hcut : block.cutTo (first + (own.filter (·.FitsIn front.size)).length) =
      block.endingAt (first + (own.filter (·.FitsIn front.size)).length) := by
    rw [cutTo, hpast, Nat.min_eq_right (Nat.add_le_add_left (List.length_filter_le ..) _)]
  rw [regionEnd, if_pos hlast, pure_eq_ok_iff] at hstop
  subst hstop
  rw [read_start_iff h, regionEnd, if_pos hlast, hstart]
  simp only [pure_eq_ok_iff, exists_eq_left', decodes_size_start_iff hown]
  constructor
  · rintro ⟨hentry, ⟨rfl, hleft⟩, rfl⟩
    exact ⟨hentry, hleft, rfl, hcut.symm⟩
  · rintro ⟨hentry, hleft, rfl, rfl⟩
    exact ⟨hentry, ⟨rfl, hleft⟩, hcut⟩

end

/-- A cut of the file to this size leaves the table and the instructions of all blocks but the last. In the last block it leaves each
instruction, or no more than a trailer from its start. -/
structure SurviveCut (size : Nat) (blocks : List Block) (invocations : List Invocation) : Prop where
  table : ∀ block ∈ blocks, block.address + Header.blockEntrySize ≤ size
  front : ∀ block ∈ blocks.dropLast, ∀ invocation ∈ block.slice invocations, invocation.FitsIn size
  last : ∀ block ∈ blocks.getLast?, ∀ invocation ∈ block.slice invocations, invocation.LeftOrTrailer size

theorem surviveCut_singleton_iff {size : Nat} {block : Block} {invocations : List Invocation} :
    SurviveCut size [block] invocations ↔
      block.address + Header.blockEntrySize ≤ size ∧ ∀ invocation ∈ block.slice invocations, invocation.LeftOrTrailer size := by
  constructor
  · intro h
    exact ⟨h.table block (List.mem_singleton_self _), h.last block rfl⟩
  · rintro ⟨htable, hlast⟩
    refine ⟨by simpa using htable, by simp, ?_⟩
    rintro _ ⟨⟩
    exact hlast

theorem surviveCut_cons_cons_iff {size : Nat} {block next : Block} {more : List Block} {invocations : List Invocation} :
    SurviveCut size (block :: next :: more) invocations ↔
      block.address + Header.blockEntrySize ≤ size ∧ (∀ invocation ∈ block.slice invocations, invocation.FitsIn size) ∧
        SurviveCut size (next :: more) invocations := by
  constructor
  · rintro ⟨htable, hfront, hlast⟩
    rw [List.dropLast_cons_cons, List.forall_mem_cons] at hfront
    rw [List.forall_mem_cons] at htable
    exact ⟨htable.1, hfront.1, htable.2, hfront.2, hlast⟩
  · rintro ⟨hentry, hown, htable, hfront, hlast⟩
    refine ⟨List.forall_mem_cons.2 ⟨hentry, htable⟩, ?_, hlast⟩
    rw [List.dropLast_cons_cons, List.forall_mem_cons]
    exact ⟨hown, hfront⟩

/-- A table is read from a file that is cut short exactly if its blocks survive the cut, with the instructions that are left. -/
theorem readAll_start_iff {count : Nat} {blocks blocks' : List Block} {invocations invocations' : List Invocation}
    (hcount : count = (tableEnd - entry + 7) / 8)
    (h : readAll (front ++ rest) catalog symbols tableEnd count entry first = .ok (blocks, invocations))
    (before : List Invocation) (hbefore : before.length = first) :
    readAll front catalog symbols tableEnd count entry first = .ok (blocks', invocations') ↔
      SurviveCut front.size blocks (before ++ invocations) ∧ invocations' = invocations.filter (·.FitsIn front.size) ∧
        blocks' = blocks.map (cutTo (first + invocations'.length)) := by
  induction count generalizing entry first blocks blocks' invocations invocations' before with
  | zero =>
    obtain ⟨rfl, rfl⟩ := readAll_zero_eq_ok_iff.1 h
    rw [readAll_zero_eq_ok_iff]
    constructor
    · rintro ⟨rfl, rfl⟩
      exact ⟨⟨by simp, by simp, by simp⟩, rfl, rfl⟩
    · rintro ⟨-, rfl, rfl⟩
      exact ⟨rfl, rfl⟩
  | succ count ih =>
    obtain ⟨block, own, others, further, hblock, hothers, rfl, rfl⟩ := readAll_succ_eq_ok_iff.1 h
    obtain ⟨haddress, hfirst, hpast⟩ := places_of_read hblock
    have hslice : block.slice (before ++ (own ++ further)) = own := by
      rw [slice, hpast, hfirst, Nat.add_sub_cancel_left, ← hbefore, List.drop_left, List.take_left]
    rw [readAll_succ_eq_ok_iff]
    cases count with
    | zero =>
      have hlast : tableEnd ≤ entry + Header.blockEntrySize := by
        simp only [Header.blockEntrySize]
        omega
      obtain ⟨rfl, rfl⟩ := readAll_zero_eq_ok_iff.1 hothers
      rw [surviveCut_singleton_iff, hslice, haddress, List.append_nil]
      simp only [readAll_zero_eq_ok_iff, read_last_start_iff hlast hblock]
      constructor
      · rintro ⟨_, _, _, _, ⟨hentry, hleft, rfl, rfl⟩, ⟨rfl, rfl⟩, rfl, rfl⟩
        rw [List.append_nil]
        exact ⟨⟨hentry, hleft⟩, rfl, rfl⟩
      · rintro ⟨⟨hentry, hleft⟩, rfl, rfl⟩
        exact ⟨_, _, _, _, ⟨hentry, hleft, rfl, rfl⟩, ⟨rfl, rfl⟩, rfl, (List.append_nil _).symm⟩
    | succ count =>
      have hmore : ¬tableEnd ≤ entry + Header.blockEntrySize := by
        simp only [Header.blockEntrySize]
        omega
      have hcount' : count + 1 = (tableEnd - (entry + Header.blockEntrySize) + 7) / 8 := by
        simp only [Header.blockEntrySize]
        omega
      have hlength : (before ++ own).length = block.past := by rw [List.length_append, hpast, hbefore]
      obtain ⟨next, hnext, hplace⟩ := exists_address_eq_of_readAll (Nat.succ_pos _) hothers
      obtain ⟨second, more, rfl, -⟩ := readUInt32_start_of_readAll hothers
      have hblocks : ∀ kept : List Invocation, (block :: second :: more).map (cutTo (first + (own ++ kept).length)) =
          block :: (second :: more).map (cutTo (block.past + kept.length)) := fun kept => by
        have hcut : block.cutTo (block.past + kept.length) = block := by
          rw [cutTo, Nat.min_eq_left (Nat.le_add_right ..), endingAt]
        rw [List.length_append, ← Nat.add_assoc, ← hpast, List.map_cons, hcut]
      have hown : (∀ invocation ∈ own, invocation.FitsIn front.size) → own.filter (·.FitsIn front.size) = own := fun hfits =>
        List.filter_eq_self.2 fun invocation hmem => decide_eq_true (hfits invocation hmem)
      rw [surviveCut_cons_cons_iff, hslice, haddress, List.filter_append]
      simp only [read_inner_start_iff hmore hblock]
      constructor
      · rintro ⟨_, _, others', further', ⟨hroom, hfits, rfl, rfl⟩, hothers', rfl, rfl⟩
        obtain ⟨hsurvive, rfl, rfl⟩ := (ih hcount' hothers _ hlength).1 hothers'
        rw [List.append_assoc] at hsurvive
        exact ⟨⟨by omega, hfits, hsurvive⟩, by rw [hown hfits], (hblocks _).symm⟩
      · rintro ⟨⟨hentry, hfits, hsurvive⟩, rfl, rfl⟩
        have hroom := hsurvive.table next hnext
        rw [← List.append_assoc] at hsurvive
        rw [hown hfits, hblocks]
        exact ⟨block, own, _, _, ⟨by omega, hfits, rfl, rfl⟩, (ih hcount' hothers _ hlength).2 ⟨hsurvive, rfl, rfl⟩, rfl, rfl⟩

theorem readTable_start_iff {header : Header} {blocks blocks' : List Block} {invocations invocations' : List Invocation}
    (h : readTable (front ++ rest) catalog header symbols = .ok (blocks, invocations)) :
    readTable front catalog header symbols = .ok (blocks', invocations') ↔
      SurviveCut front.size blocks invocations ∧ invocations' = invocations.filter (·.FitsIn front.size) ∧
        blocks' = blocks.map (cutTo invocations'.length) := by
  refine (readAll_start_iff rfl h [] rfl).trans ?_
  rw [List.nil_append, Nat.zero_add]

end Block

/-! ## Headers -/

namespace Header

/-- What is read as a name, or as no script, is read so whatever follows. -/
theorem readName?_append_left {encoding : Encoding} {found : Option (String × Nat)} (h : readName? front encoding = .ok found) :
    readName? (front ++ rest) encoding = .ok found := by
  unfold readName? at h ⊢
  rw [bind_eq_ok_iff] at h ⊢
  obtain ⟨declared, hdeclared, h⟩ := h
  refine ⟨declared, ((readInt32_start_iff _).1 hdeclared).1, ?_⟩
  split at h
  next hno => rwa [if_pos hno]
  next hname =>
    rw [if_neg hname]
    simp only [bind_eq_ok_iff, pure_eq_ok_iff, Prod.exists, StoredText.read_eq_ok_iff] at h ⊢
    obtain ⟨_, _, ⟨stored, hlt, hstored, rfl, rfl⟩, h⟩ := h
    exact ⟨_, _, ⟨stored, hlt, hstored.append_left rest, rfl, rfl⟩, h⟩

/-- What is no script is none whatever follows. -/
theorem read?_append_left_of_none {encoding : Encoding} (h : read? front encoding = .ok none) :
    read? (front ++ rest) encoding = .ok none := by
  unfold read? at h ⊢
  rw [bind_eq_ok_iff] at h ⊢
  obtain ⟨_ | ⟨name, roomAt⟩, hname, h⟩ := h
  · exact ⟨none, readName?_append_left hname, rfl⟩
  · simp [bind_eq_ok_iff] at h

end Header

end

/-! ## Scripts -/

namespace Script

/-- A cut of the file to this size leaves the header, the symbols and the table, and enough of the instructions. -/
structure SurvivesCut (size : Nat) (script : Script) : Prop where
  symbols : ∀ stop, script.symbolsEnd = .ok stop → stop ≤ size
  blocks : Block.SurviveCut size script.blocks script.invocations

/-- The script without the instructions that a cut of the file takes away. -/
def cutTo (front : Bytes) (script : Script) : Script :=
  let left := script.invocations.filter (·.FitsIn front.size)
  { script with bytes := front, blocks := script.blocks.map (Block.cutTo left.length), invocations := left }

variable {front rest : Bytes} {catalog : Catalog} {encoding : Encoding} {script : Script}

/-- The header and the symbols are read from a file that is cut short if they are left. -/
theorem read?_start_iff (h : parse? (front ++ rest) catalog encoding = .ok (some script)) {header : Header} {symbols : SymbolTable} :
    Header.read? front encoding = .ok (some (header, symbols)) ↔
      (∀ stop, script.symbolsEnd = .ok stop → stop ≤ front.size) ∧ header = script.header ∧ symbols = script.symbols := by
  obtain ⟨_, _, blocks, invocations, hread, -, hscript⟩ := parse?_eq_ok_some_iff.1 h
  have hbytes : script.bytes = front ++ rest := by rw [hscript]
  have hheader : Header.read? (front ++ rest) encoding = .ok (some (script.header, script.symbols)) := by rw [hread, hscript]
  constructor
  · intro hfront
    obtain ⟨texts, blockCount, symbolTableEnd, blockTableEnd, hreadable, hholds, rfl, rfl⟩ := Header.read?_eq_ok_some_iff.1 hfront
    have hwhole := Header.read?_of_holds hreadable (hholds.append_left rest)
    rw [hheader, Except.ok.injEq, Option.some.injEq, Prod.mk.injEq] at hwhole
    obtain ⟨hheader', hsymbols'⟩ := hwhole
    refine ⟨?_, hheader'.symm, hsymbols'.symm⟩
    have hhead := hholds.le_size
    rw [Texts.size_headBytes, Nat.zero_add] at hhead
    rw [symbolsEnd_eq hreadable (hbytes ▸ hholds.append_left rest) hheader' hsymbols']
    rintro _ ⟨⟩
    exact hhead
  · rintro ⟨hend, rfl, rfl⟩
    obtain ⟨texts, blockCount, symbolTableEnd, blockTableEnd, hreadable, hholds, hheader', hsymbols'⟩ :=
      Header.read?_eq_ok_some_iff.1 hheader
    have hhead := hend _ (symbolsEnd_eq hreadable (hbytes.symm ▸ hholds) hheader' hsymbols')
    rw [hheader', hsymbols']
    refine Header.read?_of_holds hreadable ((holds_start_iff _).2 ⟨hholds, ?_⟩)
    rwa [Texts.size_headBytes, Nat.zero_add]

/-- What is left of a script's file is read as the script without the instructions that are cut off, exactly if the script survives the
cut. -/
theorem parse?_start_iff (h : parse? (front ++ rest) catalog encoding = .ok (some script)) {found : Script} :
    parse? front catalog encoding = .ok (some found) ↔ script.SurvivesCut front.size ∧ found = script.cutTo front := by
  obtain ⟨_, _, _, _, -, htable, hscript⟩ := parse?_eq_ok_some_iff.1 h
  have htable' : Block.readTable (front ++ rest) catalog script.header script.symbols = .ok (script.blocks, script.invocations) := by
    rw [hscript]
    exact htable
  have hcut : script.cutTo front = { script.cutTo front with encoding, dialogue := Dialogue.extract script.symbols } := by
    rw [hscript]
    rfl
  rw [parse?_eq_ok_some_iff]
  constructor
  · rintro ⟨header, symbols, blocks, invocations, hheader, htable, rfl⟩
    obtain ⟨hsymbols, rfl, rfl⟩ := (read?_start_iff h).1 hheader
    obtain ⟨hblocks, rfl, rfl⟩ := (Block.readTable_start_iff htable').1 htable
    exact ⟨⟨hsymbols, hblocks⟩, hcut.symm⟩
  · rintro ⟨⟨hsymbols, hblocks⟩, rfl⟩
    exact ⟨script.header, script.symbols, _, _, (read?_start_iff h).2 ⟨hsymbols, rfl, rfl⟩,
      (Block.readTable_start_iff htable').2 ⟨hblocks, rfl, rfl⟩, hcut⟩

theorem parse?_append_left_of_none (h : parse? front catalog encoding = .ok none) : parse? (front ++ rest) catalog encoding = .ok none := by
  rw [parse?, bind_eq_ok_iff] at h
  obtain ⟨_ | ⟨header, symbols⟩, hheader, h⟩ := h
  · rw [parse?, Header.read?_append_left_of_none hheader]
    rfl
  · simp at h

/-- An instruction of a script that a cut goes through is none that is left. If the script survives the cut, the instruction belongs to
the last block, and no more of it than a trailer is left. -/
theorem not_mem_cutTo_of_lt_stop (h : parse? (front ++ rest) catalog encoding = .ok (some script)) {invocation : Invocation}
    (hmem : invocation ∈ script.invocations) (hcut : front.size < invocation.stop) :
    invocation ∉ (script.cutTo front).invocations ∧ (script.SurvivesCut front.size →
      (∃ last ∈ script.blocks.getLast?, invocation ∈ script.blockInvocations last) ∧
        front.size ≤ invocation.address + Block.trailerSize) := by
  obtain ⟨-, htiled⟩ := tiled_of_parse? h
  have hread : Invocation.read (front ++ rest) catalog invocation.address = .ok invocation := by
    obtain ⟨_, _, _, _, -, htable, rfl⟩ := parse?_eq_ok_some_iff.1 h
    obtain ⟨runs, hruns, rfl⟩ := Block.exists_blockRuns_of_readTable htable
    exact hruns.read_of_mem invocation hmem
  have hgone : ¬invocation.FitsIn front.size := fun hfits => by
    have hle := hfits.stop_le hread
    rw [Invocation.stop] at hcut
    omega
  refine ⟨fun hleft => hgone (of_decide_eq_true (List.mem_filter.1 hleft).2), fun hsurvives => ?_⟩
  rw [← htiled.flatMap_blockInvocations, List.mem_flatMap] at hmem
  obtain ⟨block, hblock, hown⟩ := hmem
  have hlast : block ∈ script.blocks.getLast? := by
    by_contra hother
    have hfront := List.mem_dropLast_of_mem_of_ne_getLast? hblock fun heq => hother heq.symm
    exact hgone (hsurvives.blocks.front block hfront invocation hown)
  exact ⟨⟨block, hlast, hown⟩, (hsurvives.blocks.last block hlast invocation hown).resolve_left hgone⟩

end Script

/-! ## A built file that can be cut short -/

theorem exists_of_any_join {ε α : Type} {x : Except ε (Option α)} {p : α → Bool} (h : x.toOption.join.any p = true) :
    ∃ a, x = .ok (some a) ∧ p a = true := by
  match x, h with
  | .ok (some a), h => exact ⟨a, rfl, h⟩

namespace ScriptLayout

/-- The file that the sample layout is built as. -/
def sampleBytes : Bytes :=
  (sample.toBytes? .shiftJis).getD #[]

end ScriptLayout

end SceneScript
