import SceneScript.ScriptLayout
import SceneScript.Proofs.BlockTable

/-!
# Instructions by what they say

The contents of an instruction are its line, its flag, its opcode and its parameters, wherever it stands. Reading bytes that
contents have been written as gives these contents again, for one instruction (`Invocation.exists_read_of_holds`) and for those of
a region (`exists_decodes_of_holds`).
-/

namespace SceneScript

open Bytes

/-! ## Contents -/

/-- What an instruction says. A parameter is a tag and a payload. -/
structure Contents where
  line : Int16
  unknown : Int16
  opcode : Int16
  parameters : List (Int16 × Bytes)
  deriving DecidableEq, Repr

/-- What a parameter says. -/
def Parameter.contents (parameter : Parameter) : Int16 × Bytes :=
  (parameter.tag, parameter.payload)

/-- What an instruction of a script says. -/
def Invocation.contents (invocation : Invocation) : Contents where
  line := invocation.line
  unknown := invocation.unknown
  opcode := invocation.opcode
  parameters := invocation.parameters.map Parameter.contents

theorem size_concat (parts : List Bytes) : (concat parts).size = totalSize (parts.map Array.size) := by
  induction parts with
  | nil => rfl
  | cons part rest ih =>
    rw [concat_cons, Array.size_append, ih]
    rfl

namespace Contents

/-- The bytes of a parameter. -/
def parameterBytes (parameter : Int16 × Bytes) : Bytes :=
  ofInt16 parameter.1 ++ parameter.2

/-- The bytes of an instruction. -/
def toBytes (contents : Contents) : Bytes :=
  ofInt16 contents.line ++ (ofInt16 contents.unknown ++ (ofInt16 contents.opcode ++
    (ofUInt16 (UInt16.ofNat contents.parameters.length) ++ (#[0, 0, 0, 0] ++ concat (contents.parameters.map parameterBytes)))))

/-- Contents that can be read back: the opcode is negative or in the catalog, the number of parameters is a signed word, and every
payload is as long as its tag says. -/
structure Readable (catalog : Catalog) (contents : Contents) : Prop where
  opcode : contents.opcode < 0 ∨ contents.opcode.toInt.toNat < catalog.size
  parameters_length : contents.parameters.length ≤ 32767
  payload_size : ∀ parameter ∈ contents.parameters, parameterLength parameter.1 parameter.2 0 = .ok parameter.2.size

/-- The bytes that instructions take one after another. -/
def runBytes (run : List Contents) : Bytes :=
  concat (run.map toBytes)

@[simp] theorem runBytes_cons (contents : Contents) (rest : List Contents) :
    runBytes (contents :: rest) = contents.toBytes ++ runBytes rest := rfl

theorem size_runBytes (run : List Contents) : (runBytes run).size = totalSize (run.map (·.toBytes.size)) := by
  rw [runBytes, size_concat, List.map_map, Function.comp_def]

end Contents

theorem size_concat_parameterBytes (parameters : List Parameter) :
    (concat ((parameters.map Parameter.contents).map Contents.parameterBytes)).size = totalSize (parameters.map Parameter.size) := by
  induction parameters with
  | nil => rfl
  | cons parameter rest ih =>
    have hparameter : (Contents.parameterBytes parameter.contents).size = parameter.size := by
      simp [Contents.parameterBytes, Parameter.contents, Parameter.size]
    rw [List.map_cons, List.map_cons, concat_cons, Array.size_append, hparameter, ih]
    rfl

/-- An instruction takes the bytes of its contents. -/
theorem Invocation.size_toBytes_contents (invocation : Invocation) : invocation.contents.toBytes.size = invocation.size := by
  have hparameters := size_concat_parameterBytes invocation.parameters
  simp only [Contents.toBytes, contents, Array.size_append, size_ofInt16, size_ofUInt16, hparameters, size, headerSize]
  simp
  omega

/-- Moving an instruction does not change what it says. -/
@[simp] theorem Invocation.contents_place (base origin : Nat) (invocation : Invocation) :
    (invocation.place base origin).contents = invocation.contents := by
  simp only [contents, place, List.map_map]
  rfl

/-! ## Reading one instruction back -/

theorem LengthRule.length_of_holds {rule : LengthRule} {buf part : Bytes} {pos : Nat} {length : Int} (h : buf.Holds pos part)
    (hlength : rule.length part 0 = .ok length) : rule.length buf pos = .ok length := by
  cases rule <;> simp only [LengthRule.length, bind_eq_ok_iff, readInt16_eq_ok_iff, readInt32_eq_ok_iff] at hlength ⊢
  case fixed => exact hlength
  all_goals
    obtain ⟨word, hword, hlength⟩ := hlength
    exact ⟨word, h.trans hword, hlength⟩

/-- The length of a payload is the same wherever the payload stands. -/
theorem parameterLength_of_holds {tag : Int16} {buf payload : Bytes} {pos length : Nat} (h : buf.Holds pos payload)
    (hlength : parameterLength tag payload 0 = .ok length) : parameterLength tag buf pos = .ok length := by
  obtain ⟨rule, hrule, hlength⟩ := parameterLength_eq_ok_iff.1 hlength
  exact parameterLength_eq_ok_iff.2 ⟨rule, hrule, LengthRule.length_of_holds h hlength⟩

theorem exists_readParameters_of_holds {buf : Bytes} {list : List (Int16 × Bytes)} {pos : Nat}
    (hsize : ∀ parameter ∈ list, parameterLength parameter.1 parameter.2 0 = .ok parameter.2.size)
    (h : buf.Holds pos (concat (list.map Contents.parameterBytes))) :
    ∃ parameters, readParameters buf list.length pos = .ok parameters ∧ parameters.map Parameter.contents = list := by
  induction list generalizing pos with
  | nil => exact ⟨[], rfl, rfl⟩
  | cons parameter list ih =>
    obtain ⟨tag, payload⟩ := parameter
    rw [List.map_cons, concat_cons, holds_append, Contents.parameterBytes, holds_append, Array.size_append, size_ofInt16] at h
    obtain ⟨⟨htag, hpayload⟩, hrest⟩ := h
    obtain ⟨parameters, hread, hcontents⟩ := ih (fun p hp => hsize p (List.mem_cons_of_mem _ hp)) hrest
    have hlength := parameterLength_of_holds hpayload (hsize _ (List.mem_cons_self ..))
    refine ⟨⟨tag, pos + 2, payload⟩ :: parameters, ?_, by rw [List.map_cons, hcontents]; rfl⟩
    simp only [List.length_cons, readParameters, bind_eq_ok_iff, pure_eq_ok_iff, readInt16_eq_ok_iff, slice_eq_ok_iff]
    exact ⟨tag, htag, payload.size, hlength, payload, ⟨rfl, hpayload⟩, parameters, by rwa [Nat.add_assoc], rfl⟩

/-- A count that is a signed word is read back as it is. -/
theorem toNat_toInt16_ofNat {n : Nat} (h : n ≤ 32767) : (UInt16.ofNat n).toInt16.toInt.toNat = n := by
  have hint : (UInt16.ofNat n).toInt16.toInt = (UInt16.ofNat n).toBitVec.toInt := rfl
  have hnat : (UInt16.ofNat n).toNat = n := by
    rw [UInt16.toNat_ofNat']
    omega
  rw [hint, BitVec.toInt_eq_toNat_cond, UInt16.toNat_toBitVec, hnat, if_pos (by omega), Int.toNat_natCast]

/-- Where contents stand, an instruction with these contents is read. -/
theorem Invocation.exists_read_of_holds {catalog : Catalog} {contents : Contents} (hreadable : contents.Readable catalog)
    {buf : Bytes} {pos : Nat} (h : buf.Holds pos contents.toBytes) :
    ∃ invocation, read buf catalog pos = .ok invocation ∧ invocation.contents = contents := by
  have hroom := h.le_size
  simp only [Contents.toBytes, holds_append, size_ofInt16, size_ofUInt16, Array.size_append, List.size_toArray, List.length_cons,
    List.length_nil] at h hroom
  obtain ⟨hline, hunknown, hopcode, hcount, -, hparameters⟩ := h
  obtain ⟨parameters, hread, hcontents⟩ := exists_readParameters_of_holds hreadable.payload_size hparameters
  obtain ⟨command, hcommand⟩ : ∃ command, catalog.resolve contents.opcode pos = .ok command := by
    rcases hreadable.opcode with hdeleted | hlt
    · exact ⟨.deleted, Catalog.resolve_eq_ok_iff.2 (.inl ⟨hdeleted, rfl⟩)⟩
    · by_cases hdeleted : contents.opcode < 0
      · exact ⟨.deleted, Catalog.resolve_eq_ok_iff.2 (.inl ⟨hdeleted, rfl⟩)⟩
      · exact ⟨_, Catalog.resolve_eq_ok_iff.2 (.inr ⟨hdeleted, List.getElem?_eq_getElem hlt⟩)⟩
  have hword : ofInt16 (UInt16.ofNat contents.parameters.length).toInt16 = ofUInt16 (UInt16.ofNat contents.parameters.length) := rfl
  have hnat := toNat_toInt16_ofNat hreadable.parameters_length
  refine ⟨⟨pos, pos, contents.line, contents.unknown, contents.opcode, command, parameters⟩, ?_, ?_⟩
  · simp only [read, bind_eq_ok_iff, pure_eq_ok_iff, readInt16_eq_ok_iff, ensure_eq_ok_iff, headerSize]
    refine ⟨_, hline, _, hunknown, _, hopcode, (UInt16.ofNat contents.parameters.length).toInt16, by rwa [hword], (), ?_, command,
      hcommand, parameters, ?_, rfl⟩
    · omega
    · rw [hnat]
      simpa only [Nat.add_assoc] using hread
  · simp only [Invocation.contents, hcontents]

/-! ## Reading runs of instructions back -/

/-- Where contents stand one after another up to a trailer, instructions with these contents are read, each at its place. -/
theorem exists_decodes_of_holds {catalog : Catalog} {run : List Contents} (hreadable : ∀ contents ∈ run, contents.Readable catalog)
    {buf : Bytes} {pos stop : Nat} (h : buf.Holds pos (Contents.runBytes run))
    (hstop : stop = pos + (Contents.runBytes run).size + Block.trailerSize) :
    ∃ invocations, Decodes buf catalog stop pos invocations ∧ invocations.map Invocation.contents = run ∧
      invocations.map (·.address) = startsFrom pos (run.map (·.toBytes.size)) := by
  induction run generalizing pos with
  | nil => exact ⟨[], .trailer (by rw [hstop]; exact Nat.le_refl _), rfl, rfl⟩
  | cons contents run ih =>
    rw [Contents.runBytes_cons, holds_append] at h
    rw [Contents.runBytes_cons, Array.size_append] at hstop
    obtain ⟨hcontents, hrest⟩ := h
    obtain ⟨invocation, hread, rfl⟩ := Invocation.exists_read_of_holds (hreadable _ (List.mem_cons_self ..)) hcontents
    rw [Invocation.size_toBytes_contents] at hstop hrest
    obtain ⟨rest, hdecodes, rfl, haddresses⟩ := ih (fun c hc => hreadable c (List.mem_cons_of_mem _ hc)) hrest (by omega)
    have hheader := invocation.headerSize_le_size
    refine ⟨invocation :: rest, .next (by omega) hread (by omega) hdecodes, rfl, ?_⟩
    rw [List.map_cons, List.map_cons, startsFrom, Invocation.size_toBytes_contents, haddresses, Invocation.address_of_read hread]

end SceneScript
