import SceneScript.Block
import SceneScript.Proofs.Holding

/-!
# Instructions where they stand

Reading instructions does not depend on where they stand: bytes in front of them move their addresses and nothing else
(`Invocation.read_append_right`). `Decodes` says which instructions stand in a region; it is what reading the region gives
(`Block.readInstructions_eq_ok_iff`), and bytes in front move it as a whole (`decodes_append_right`).
-/

namespace SceneScript

open Bytes

theorem Catalog.resolve_eq_ok_iff {catalog : Catalog} {opcode : Int16} {address : Nat} {command : Command} :
    catalog.resolve opcode address = .ok command ↔
      (opcode < 0 ∧ command = .deleted) ∨ (¬ opcode < 0 ∧ catalog.commands[opcode.toInt.toNat]? = some command) := by
  unfold resolve
  by_cases h : opcode < 0
  · simp [h, eq_comm]
  · cases hc : catalog.commands[opcode.toInt.toNat]? <;> simp [h]

/-- Which command an opcode names does not depend on the address. -/
theorem Catalog.resolve_address {catalog : Catalog} {opcode : Int16} (address address' : Nat) {command : Command} :
    catalog.resolve opcode address = .ok command ↔ catalog.resolve opcode address' = .ok command := by
  rw [resolve_eq_ok_iff, resolve_eq_ok_iff]

/-! ## Moving things -/

/-- A parameter with more bytes in front. -/
def Parameter.moveBy (distance : Nat) (parameter : Parameter) : Parameter :=
  { parameter with offset := distance + parameter.offset }

@[simp] theorem Parameter.size_moveBy (distance : Nat) (parameter : Parameter) :
    (parameter.moveBy distance).size = parameter.size := rfl

/-- An invocation of a body that starts at `base`, and started at `origin` when it was read. -/
def Invocation.place (base origin : Nat) (invocation : Invocation) : Invocation :=
  { invocation with
    address := base + invocation.address
    parsedAddress := origin + invocation.parsedAddress
    parameters := invocation.parameters.map (Parameter.moveBy base) }

@[simp] theorem Invocation.size_place (base origin : Nat) (invocation : Invocation) :
    (invocation.place base origin).size = invocation.size := by
  simp [place, size, List.map_map, Function.comp_def]

theorem LengthRule.length_append_right {rule : LengthRule} {front rest : Bytes} {pos : Nat} {length : Int} :
    rule.length (front ++ rest) (front.size + pos) = .ok length ↔ rule.length rest pos = .ok length := by
  cases rule <;>
    simp only [LengthRule.length, bind_eq_ok_iff, readInt16_eq_ok_iff, readInt32_eq_ok_iff, holds_append_right]

theorem parameterLength_eq_ok_iff {tag : Int16} {buf : Bytes} {pos length : Nat} :
    parameterLength tag buf pos = .ok length ↔
      ∃ rule, LengthRule.ofTag? tag = some rule ∧ rule.length buf pos = .ok (length : Int) := by
  unfold parameterLength
  cases hrule : LengthRule.ofTag? tag with
  | none => simp
  | some rule =>
    simp only [bind_eq_ok_iff, Option.some.injEq, exists_eq_left']
    constructor
    · rintro ⟨signed, hsigned, h⟩
      split at h
      · simp at h
      · rw [pure_eq_ok_iff] at h
        rwa [← h, Int.toNat_of_nonneg (by omega)]
    · intro h
      refine ⟨length, h, ?_⟩
      rw [if_neg (by omega), pure_eq_ok_iff, Int.toNat_natCast]

theorem parameterLength_append_right {tag : Int16} {front rest : Bytes} {pos length : Nat} :
    parameterLength tag (front ++ rest) (front.size + pos) = .ok length ↔ parameterLength tag rest pos = .ok length := by
  simp only [parameterLength_eq_ok_iff, LengthRule.length_append_right]

theorem readParameters_append_right {front rest : Bytes} {count pos : Nat} {parameters : List Parameter} :
    readParameters (front ++ rest) count (front.size + pos) = .ok parameters ↔
      ∃ inner, readParameters rest count pos = .ok inner ∧ parameters = inner.map (Parameter.moveBy front.size) := by
  induction count generalizing pos parameters with
  | zero =>
    simp only [readParameters, pure_eq_ok_iff]
    constructor
    · rintro rfl
      exact ⟨[], rfl, rfl⟩
    · rintro ⟨_, rfl, rfl⟩
      rfl
  | succ count ih =>
    simp only [readParameters, bind_eq_ok_iff, pure_eq_ok_iff, readInt16_eq_ok_iff, slice_eq_ok_iff, Nat.add_assoc,
      holds_append_right, parameterLength_append_right, ih]
    constructor
    · rintro ⟨tag, htag, length, hlength, payload, hpayload, _, ⟨inner, hinner, rfl⟩, rfl⟩
      exact ⟨_, ⟨tag, htag, length, hlength, payload, hpayload, inner, hinner, rfl⟩, rfl⟩
    · rintro ⟨_, ⟨tag, htag, length, hlength, payload, hpayload, inner, hinner, rfl⟩, rfl⟩
      exact ⟨tag, htag, length, hlength, payload, hpayload, _, ⟨inner, hinner, rfl⟩, rfl⟩

theorem Invocation.read_append_right {front rest : Bytes} {catalog : Catalog} {pos : Nat} {invocation : Invocation} :
    read (front ++ rest) catalog (front.size + pos) = .ok invocation ↔
      ∃ inner, read rest catalog pos = .ok inner ∧ invocation = inner.place front.size front.size := by
  simp only [read, bind_eq_ok_iff, pure_eq_ok_iff, readInt16_eq_ok_iff, ensure_eq_ok_iff, Nat.add_assoc, holds_append_right,
    readParameters_append_right, Array.size_append, Nat.add_le_add_iff_left, Catalog.resolve_address (front.size + pos) pos]
  constructor
  · rintro ⟨line, hline, unknown, hunknown, opcode, hopcode, count, hcount, _, hroom, command, hcommand, _, ⟨inner, hinner, rfl⟩, rfl⟩
    exact ⟨_, ⟨line, hline, unknown, hunknown, opcode, hopcode, count, hcount, (), hroom, command, hcommand, inner, hinner, rfl⟩, rfl⟩
  · rintro ⟨_, ⟨line, hline, unknown, hunknown, opcode, hopcode, count, hcount, _, hroom, command, hcommand, inner, hinner, rfl⟩, rfl⟩
    exact ⟨line, hline, unknown, hunknown, opcode, hopcode, count, hcount, (), hroom, command, hcommand, _, ⟨inner, hinner, rfl⟩, rfl⟩

/-! ## The instructions of a region -/

/-- The instructions from a position on in a region that ends at `stop`, one after another up to its trailer. -/
inductive Decodes (buf : Bytes) (catalog : Catalog) (stop : Nat) : Nat → List Invocation → Prop where
  | trailer {pos : Nat} : stop ≤ pos + Block.trailerSize → Decodes buf catalog stop pos []
  | next {pos : Nat} {invocation : Invocation} {rest : List Invocation} : pos + Block.trailerSize < stop →
      Invocation.read buf catalog pos = .ok invocation → pos + invocation.size ≤ stop →
      Decodes buf catalog stop (pos + invocation.size) rest → Decodes buf catalog stop pos (invocation :: rest)

/-- Reading a region gives the instructions that stand in it. The name of the block matters to faults only. -/
theorem Block.readInstructions_eq_ok_iff {buf : Bytes} {catalog : Catalog} {name : String} {stop pos : Nat}
    {invocations : List Invocation} :
    readInstructions buf catalog name stop pos = .ok invocations ↔ Decodes buf catalog stop pos invocations := by
  fun_induction readInstructions buf catalog name stop pos generalizing invocations with
  | case1 pos hpos ih =>
    simp only [bind_eq_ok_iff]
    constructor
    · rintro ⟨invocation, hread, h⟩
      split at h
      · simp at h
      · simp only [bind_eq_ok_iff, pure_eq_ok_iff] at h
        obtain ⟨rest, hrest, rfl⟩ := h
        exact .next hpos hread (by omega) ((ih invocation).1 hrest)
    · intro h
      cases h with
      | trailer hstop => omega
      | next _ hread hfit hrest =>
        refine ⟨_, hread, ?_⟩
        rw [if_neg (by omega)]
        simp only [bind_eq_ok_iff, pure_eq_ok_iff]
        exact ⟨_, (ih _).2 hrest, rfl⟩
  | case2 pos hpos =>
    rw [pure_eq_ok_iff]
    constructor
    · rintro rfl
      exact .trailer (by omega)
    · intro h
      cases h with
      | trailer _ => rfl
      | next hroom _ _ _ => omega

/-! ## Where instructions stand -/

/-- The invocation and the payloads of its parameters start in bytes of a size. -/
structure Invocation.Within (size : Nat) (invocation : Invocation) : Prop where
  address_le : invocation.address ≤ size
  offset_le : ∀ parameter ∈ invocation.parameters, parameter.offset ≤ size

theorem offset_le_of_readParameters {buf : Bytes} {count pos : Nat} {parameters : List Parameter}
    (h : readParameters buf count pos = .ok parameters) : ∀ parameter ∈ parameters, parameter.offset ≤ buf.size := by
  induction count generalizing pos parameters with
  | zero =>
    rw [readParameters, pure_eq_ok_iff] at h
    simp [← h]
  | succ count ih =>
    simp only [readParameters, bind_eq_ok_iff, pure_eq_ok_iff, slice_eq_ok_iff] at h
    obtain ⟨tag, -, length, -, payload, ⟨-, hpayload⟩, rest, hrest, rfl⟩ := h
    have hle := hpayload.le_size
    intro parameter hparameter
    rcases List.mem_cons.1 hparameter with rfl | hparameter
    · simp only
      omega
    · exact ih hrest parameter hparameter

theorem Invocation.within_of_read {buf : Bytes} {catalog : Catalog} {pos : Nat} {invocation : Invocation}
    (h : read buf catalog pos = .ok invocation) : invocation.Within buf.size := by
  simp only [read, bind_eq_ok_iff, pure_eq_ok_iff, ensure_eq_ok_iff] at h
  obtain ⟨_, -, _, -, _, -, _, -, _, hroom, _, -, parameters, hparameters, rfl⟩ := h
  exact ⟨by simp only; omega, offset_le_of_readParameters hparameters⟩

theorem Invocation.address_of_read {buf : Bytes} {catalog : Catalog} {pos : Nat} {invocation : Invocation}
    (h : read buf catalog pos = .ok invocation) : invocation.address = pos := by
  simp only [read, bind_eq_ok_iff, pure_eq_ok_iff] at h
  obtain ⟨_, -, _, -, _, -, _, -, _, -, _, -, _, -, rfl⟩ := h
  rfl

/-- An instruction that has just been read stands where it was read. -/
theorem Invocation.parsedAddress_of_read {buf : Bytes} {catalog : Catalog} {pos : Nat} {invocation : Invocation}
    (h : read buf catalog pos = .ok invocation) : invocation.parsedAddress = pos := by
  simp only [read, bind_eq_ok_iff, pure_eq_ok_iff] at h
  obtain ⟨_, -, _, -, _, -, _, -, _, -, _, -, _, -, rfl⟩ := h
  rfl

/-- Every instruction of a region is what is read at its address. -/
theorem Decodes.read_address {buf : Bytes} {catalog : Catalog} {stop pos : Nat} {invocations : List Invocation}
    (h : Decodes buf catalog stop pos invocations) :
    ∀ invocation ∈ invocations, Invocation.read buf catalog invocation.address = .ok invocation := by
  induction h with
  | trailer => simp
  | next _ hread _ _ ih =>
    intro invocation hinvocation
    rcases List.mem_cons.1 hinvocation with rfl | hinvocation
    · rwa [Invocation.address_of_read hread]
    · exact ih invocation hinvocation

/-! ## Bytes in front of instructions -/

theorem decodes_append_right {front rest : Bytes} {catalog : Catalog} {stop pos : Nat} {invocations : List Invocation} :
    Decodes (front ++ rest) catalog (front.size + stop) (front.size + pos) invocations ↔
      ∃ inner, Decodes rest catalog stop pos inner ∧ invocations = inner.map (Invocation.place front.size front.size) := by
  constructor
  · intro h
    generalize hwhere : front.size + pos = whole at h
    induction h generalizing pos with
    | trailer hstop => exact ⟨[], .trailer (by omega), rfl⟩
    | next hroom hread hfit _ ih =>
      subst hwhere
      obtain ⟨first, hfirst, rfl⟩ := Invocation.read_append_right.1 hread
      rw [Invocation.size_place] at hfit ih
      obtain ⟨inner, hinner, rfl⟩ := ih (Nat.add_assoc ..).symm
      exact ⟨first :: inner, .next (by omega) hfirst (by omega) hinner, rfl⟩
  · rintro ⟨inner, hinner, rfl⟩
    induction hinner with
    | trailer hstop => exact .trailer (by omega)
    | next hroom hread hfit _ ih =>
      refine .next (by omega) (Invocation.read_append_right.2 ⟨_, hread, rfl⟩) (by rw [Invocation.size_place]; omega) ?_
      rwa [Invocation.size_place, Nat.add_assoc]

end SceneScript
