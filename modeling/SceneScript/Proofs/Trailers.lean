import SceneScript.Proofs.Tiling
import SceneScript.Proofs.Truncation

/-!
# The trailers of regions

The last eight bytes of a region are there to hold no instruction. Reading keeps out of them only where instructions start: none starts in
the trailer, and so all but the last end in front of it. The last one may reach into it, as far as the end of the region, and no fault
tells of that. It keeps out exactly if it ends where the trailer begins (`Script.trailerClear_iff`). In `Script.sampleSwallowed` it takes
up all of it (`Script.trailerClear_false`).
-/

namespace SceneScript

open Bytes

/-! ## Bytes of a trailer -/

/-- The byte at a position is one of an instruction. -/
def Invocation.Occupies (invocation : Invocation) (pos : Nat) : Prop :=
  invocation.address ≤ pos ∧ pos < invocation.payloadsEnd

instance (invocation : Invocation) (pos : Nat) : Decidable (invocation.Occupies pos) :=
  inferInstanceAs (Decidable (_ ∧ _))

/-- The byte at a position is one of the last eight of the region from `start` to `stop`. -/
def Block.InTrailer (start stop pos : Nat) : Prop :=
  start ≤ pos ∧ pos < stop ∧ stop ≤ pos + trailerSize

instance (start stop pos : Nat) : Decidable (Block.InTrailer start stop pos) :=
  inferInstanceAs (Decidable (_ ∧ _ ∧ _))

/-! ## Where instructions end -/

theorem Consecutive.eq_of_nil {pos past : Nat} (h : Consecutive pos [] past) : pos = past := by
  cases h
  rfl

/-- Instructions one after another end where the last one does. -/
theorem Consecutive.payloadsEnd_of_mem_getLast? {pos past : Nat} {run : List Invocation} (h : Consecutive pos run past) :
    ∀ last ∈ run.getLast?, last.payloadsEnd = past := by
  induction h with
  | nil => simp
  | @cons first rest past hrest ih =>
    intro last hlast
    cases rest with
    | nil =>
      obtain rfl : first = last := Option.some.inj hlast
      exact hrest.eq_of_nil
    | cons second rest =>
      rw [List.getLast?_cons_cons] at hlast
      exact ih last hlast

namespace Decodes

variable {buf : Bytes} {catalog : Catalog} {stop pos : Nat} {run : List Invocation}

/-- No instruction starts in the trailer. -/
theorem address_add_lt (h : Decodes buf catalog stop pos run) :
    ∀ invocation ∈ run, invocation.address + Block.trailerSize < stop := by
  induction h with
  | trailer => simp
  | @next pos first rest hstart hread _ _ ih =>
    intro invocation hmem
    rcases List.mem_cons.1 hmem with rfl | hmem
    · rwa [Invocation.address_of_read hread]
    · exact ih invocation hmem

/-- An instruction ends where the next one starts, and that is in front of the trailer. -/
theorem payloadsEnd_add_lt (h : Decodes buf catalog stop pos run) :
    ∀ invocation ∈ run.dropLast, invocation.payloadsEnd + Block.trailerSize < stop := by
  induction h with
  | trailer => simp
  | @next pos first rest _ hread _ hrest ih =>
    intro invocation hmem
    cases hrest with
    | trailer => simp at hmem
    | next hsecond _ _ _ =>
      rw [List.dropLast_cons_cons] at hmem
      rcases List.mem_cons.1 hmem with rfl | hmem
      · rwa [Invocation.payloadsEnd_of_read hread]
      · exact ih invocation hmem

/-- Instructions go on up to the trailer. -/
theorem le_payloadsEnd_add (h : Decodes buf catalog stop pos run) :
    ∀ last ∈ run.getLast?, stop ≤ last.payloadsEnd + Block.trailerSize := by
  intro last hlast
  obtain ⟨past, hconsecutive, hstop⟩ := h.exists_consecutive
  rwa [hconsecutive.payloadsEnd_of_mem_getLast? last hlast]

/-- All instructions but the last keep out of the trailer. -/
theorem not_occupies_of_mem_dropLast (h : Decodes buf catalog stop pos run) {invocation : Invocation}
    (hmem : invocation ∈ run.dropLast) {byte : Nat} (hbyte : Block.InTrailer pos stop byte) : ¬invocation.Occupies byte := by
  intro hoccupies
  have hlt := h.payloadsEnd_add_lt invocation hmem
  have hend := hoccupies.2
  have htrailer := hbyte.2.2
  omega

/-- If the last instruction does not end where the trailer begins, it takes up a byte of the trailer. -/
theorem exists_occupies_of_ne (h : Decodes buf catalog stop pos run) {last : Invocation} (hlast : last ∈ run.getLast?)
    (hne : last.payloadsEnd + Block.trailerSize ≠ stop) : ∃ byte, Block.InTrailer pos stop byte ∧ last.Occupies byte := by
  have hmem := List.mem_of_getLast? hlast
  obtain ⟨hpos, hlt, hle⟩ := h.bounds_of_mem last hmem
  have hreach := h.le_payloadsEnd_add last hlast
  refine ⟨last.payloadsEnd - 1, ⟨?_, ?_, ?_⟩, ?_, ?_⟩ <;> omega

/-- The instructions of a region keep out of its trailer if the last one ends where it begins. -/
theorem not_occupies_iff (h : Decodes buf catalog stop pos run) :
    (∀ invocation ∈ run, ∀ byte, Block.InTrailer pos stop byte → ¬invocation.Occupies byte) ↔
      ∀ last ∈ run.getLast?, last.payloadsEnd + Block.trailerSize = stop := by
  constructor
  · intro hclear last hlast
    by_contra hne
    obtain ⟨byte, hbyte, hoccupies⟩ := h.exists_occupies_of_ne hlast hne
    exact hclear last (List.mem_of_getLast? hlast) byte hbyte hoccupies
  · intro hend invocation hmem byte hbyte hoccupies
    by_cases hlast : run.getLast? = some invocation
    · have hstop := hend invocation hlast
      have hinside := hoccupies.2
      have htrailer := hbyte.2.2
      omega
    · exact h.not_occupies_of_mem_dropLast (List.mem_dropLast_of_mem_of_ne_getLast? hmem fun heq => hlast heq.symm) hbyte hoccupies

end Decodes

/-! ## The trailers of a script -/

namespace Script

/-- The byte at a position is one of the last eight of the region of a block. -/
def InTrailer (script : Script) (number : Nat) (block : Block) (pos : Nat) : Prop :=
  Block.InTrailer block.start.toNat (script.regionEnd number) pos

/-- No instruction of a block takes up a byte of the trailer. -/
def TrailerClear (script : Script) (number : Nat) (block : Block) : Prop :=
  ∀ invocation ∈ script.blockInvocations block, ∀ pos, script.InTrailer number block pos → ¬invocation.Occupies pos

/-- The instructions of a block are those that are read in its region. -/
theorem decodes_of_parse? {bytes : Bytes} {catalog : Catalog} {encoding : Encoding} {script : Script} {number : Nat} {block : Block}
    (h : parse? bytes catalog encoding = .ok (some script)) (hblock : script.blocks[number]? = some block) :
    Decodes bytes catalog (script.regionEnd number) block.start.toNat (script.blockInvocations block) := by
  obtain ⟨header, symbols, blocks, invocations, -, htable, rfl⟩ := parse?_eq_ok_some_iff.1 h
  obtain ⟨runs, hruns, rfl⟩ := Block.exists_blockRuns_of_readTable htable
  obtain ⟨run, hrun, hdecodes⟩ := hruns.exists_decodes hblock
  have hslice := congrArg (·[number]?) (hruns.map_slice [] rfl)
  simp only [List.getElem?_map, hblock, Option.map_some, hrun, Option.some.injEq, List.nil_append] at hslice
  subst hslice
  exact hdecodes

/-- No instruction of a script starts in a trailer, and of the instructions of a block only the last one can reach into it. None does
exactly if the last one ends where the trailer begins. -/
theorem trailerClear_iff {bytes : Bytes} {catalog : Catalog} {encoding : Encoding} {script : Script} {number : Nat} {block : Block}
    (h : parse? bytes catalog encoding = .ok (some script)) (hblock : script.blocks[number]? = some block) :
    (∀ invocation ∈ script.blockInvocations block, invocation.address + Block.trailerSize < script.regionEnd number) ∧
    (∀ invocation ∈ (script.blockInvocations block).dropLast, ∀ pos, script.InTrailer number block pos → ¬invocation.Occupies pos) ∧
    (script.TrailerClear number block ↔
      ∀ last ∈ (script.blockInvocations block).getLast?, last.payloadsEnd + Block.trailerSize = script.regionEnd number) := by
  have hdecodes := decodes_of_parse? h hblock
  refine ⟨hdecodes.address_add_lt, ?_, hdecodes.not_occupies_iff⟩
  intro invocation hmem pos hpos
  exact hdecodes.not_occupies_of_mem_dropLast hmem hpos

/-- The two instructions of the sample leave its trailer alone. -/
theorem trailerClear_sample : ∃ block, parse? sample.bytes Catalog.sample sample.encoding = .ok (some sample) ∧
    sample.blocks[0]? = some block ∧ (sample.blockInvocations block).length = 2 ∧ sample.TrailerClear 0 block := by
  have hlast : ∀ last ∈ (sample.blockInvocations sample.blocks[0]).getLast?,
      last.payloadsEnd + Block.trailerSize = sample.regionEnd 0 := by decide +kernel
  exact ⟨_, consistent_sample.parsed, rfl, by decide, (trailerClear_iff consistent_sample.parsed rfl).2.2.2 hlast⟩

/-- A file of two blocks. The second one starts where the only instruction of the first one ends, so that no trailer is left to it. -/
def sampleSwallowed : Bytes :=
  #[0, 0, 0, 5, 83, 48, 49, 65, 0, 0, 0, 0, 2, 82, 0, 0, 0, 0, 2, 84, 0, 0, 2, 0, 2, 0, 0, 0, 50, 0, 0, 0, 66,
    0, 0, 0, 5, 77, 65, 73, 78, 0, 0, 0, 0, 4, 83, 85, 66, 0, 0, 0, 0, 1, 0, 0, 0, 66, 0, 1, 0, 1, 0, 0, 0, 84,
    0, 1, 255, 255, 0, 4, 0, 1, 0, 0, 0, 0, 0, 10, 0, 0, 0, 1, 0, 0, 0, 0, 0, 0, 0, 0,
    0, 2, 255, 255, 0, 0, 0, 0, 0, 0, 0, 0, 0, 0, 0, 0, 0, 0, 0, 0]

/-- That the instructions of every block keep out of its trailer is false. -/
theorem trailerClear_false : ¬∀ (bytes : Bytes) (catalog : Catalog) (encoding : Encoding) (script : Script),
    parse? bytes catalog encoding = .ok (some script) →
      ∀ number block, script.blocks[number]? = some block → script.TrailerClear number block := by
  intro h
  have hswallowed : (parse? sampleSwallowed Catalog.sample .shiftJis).toOption.join.any (fun script =>
      script.blocks[0]?.any fun block => ∃ invocation ∈ script.blockInvocations block,
        Block.InTrailer block.start.toNat (script.regionEnd 0) 83 ∧ invocation.Occupies 83) = true := by
    decide +kernel
  obtain ⟨script, hscript, hfirst⟩ := exists_of_any_join hswallowed
  obtain ⟨block, hblock, hbyte⟩ := (Option.any_eq_true _ _).1 hfirst
  obtain ⟨invocation, hmem, htrailer, hoccupies⟩ := of_decide_eq_true hbyte
  exact h _ _ _ _ hscript 0 block hblock invocation hmem 83 htrailer hoccupies

end Script

end SceneScript
