import SceneScript.Proofs.Contents
import SceneScript.Proofs.Image

/-!
# From layouts to images

A layout that can be built is built to the file of an image (`ScriptLayout.toBytes?_eq`): once every jump is given the address that
it names, the body of the image is what the instructions say, block by block.
-/

namespace SceneScript

open Bytes

/-! ## Lists of results -/

theorem mapM_cons_eq_some_iff {α β : Type} {f : α → Option β} {a : α} {rest : List α} {out : List β} :
    (a :: rest).mapM f = some out ↔ ∃ b others, f a = some b ∧ rest.mapM f = some others ∧ out = b :: others := by
  simp only [List.mapM_cons, Option.bind_eq_bind, Option.bind_eq_some_iff, Option.pure_def, Option.some.injEq]
  constructor
  · rintro ⟨b, hb, others, hothers, rfl⟩
    exact ⟨b, others, hb, hothers, rfl⟩
  · rintro ⟨b, others, hb, hothers, rfl⟩
    exact ⟨b, hb, others, hothers, rfl⟩

theorem exists_mapM_eq_some {α β : Type} {f : α → Option β} {list : List α} (h : ∀ a ∈ list, ∃ b, f a = some b) :
    ∃ out, list.mapM f = some out := by
  induction list with
  | nil => exact ⟨[], rfl⟩
  | cons a rest ih =>
    obtain ⟨b, hb⟩ := h a (List.mem_cons_self ..)
    obtain ⟨out, hout⟩ := ih fun a ha => h a (List.mem_cons_of_mem _ ha)
    exact ⟨b :: out, mapM_cons_eq_some_iff.2 ⟨b, out, hb, hout, rfl⟩⟩

theorem exists_of_mem_mapM {α β : Type} {f : α → Option β} {list : List α} {out : List β} (h : list.mapM f = some out) :
    ∀ b ∈ out, ∃ a ∈ list, f a = some b := by
  induction list generalizing out with
  | nil =>
    cases h
    simp
  | cons first rest ih =>
    obtain ⟨b, others, hfirst, hothers, rfl⟩ := mapM_cons_eq_some_iff.1 h
    intro c hc
    rcases List.mem_cons.1 hc with rfl | hc
    · exact ⟨first, List.mem_cons_self .., hfirst⟩
    · obtain ⟨a, ha, hresult⟩ := ih hothers c hc
      exact ⟨a, List.mem_cons_of_mem _ ha, hresult⟩

/-- What is the same of each element and its result is the same of both lists. -/
theorem map_eq_map_of_mapM {α β γ : Type} {f : α → Option β} {g : α → γ} {g' : β → γ} {list : List α} {out : List β}
    (h : list.mapM f = some out) (hsame : ∀ a b, f a = some b → g a = g' b) : list.map g = out.map g' := by
  induction list generalizing out with
  | nil =>
    cases h
    rfl
  | cons a rest ih =>
    obtain ⟨b, others, hb, hothers, rfl⟩ := mapM_cons_eq_some_iff.1 h
    rw [List.map_cons, List.map_cons, hsame a b hb, ih hothers]

theorem length_eq_of_mapM {α β : Type} {f : α → Option β} {list : List α} {out : List β} (h : list.mapM f = some out) :
    list.length = out.length := by
  have hmap : list.map (fun _ => ()) = out.map (fun _ => ()) := map_eq_map_of_mapM h fun _ _ _ => rfl
  simpa using congrArg List.length hmap

/-! ## Jumps as addresses -/

/-- What a parameter says when the instructions stand at certain addresses. -/
def ParameterLayout.resolve? (address? : Nat → Nat → Option Nat) : ParameterLayout → Option (Int16 × Bytes)
  | payload tag bytes => some (tag, bytes)
  | jumpTo block instruction =>
    (address? block instruction).map fun address => (ParameterTag.jumpTarget, ofUInt32 (UInt32.ofNat address))

/-- What an instruction says when the instructions stand at certain addresses. -/
def InstructionLayout.resolve? (address? : Nat → Nat → Option Nat) (instruction : InstructionLayout) : Option Contents :=
  (instruction.parameters.mapM (ParameterLayout.resolve? address?)).map fun parameters =>
    ⟨instruction.line, instruction.unknown, instruction.opcode, parameters⟩

/-- What the instructions of each block say when they stand at certain addresses. -/
def ScriptLayout.resolve? (address? : Nat → Nat → Option Nat) (layout : ScriptLayout) : Option (List (List Contents)) :=
  layout.blocks.mapM fun block => block.instructions.mapM (InstructionLayout.resolve? address?)

/-- A parameter that can be built and read back: a payload is as long as its tag says, and a jump names an instruction. -/
def ParameterLayout.WellFormed (layout : ScriptLayout) : ParameterLayout → Prop
  | payload tag bytes => parameterLength tag bytes 0 = .ok bytes.size
  | jumpTo block instruction => ∃ content, layout.blocks[block]? = some content ∧ instruction < content.instructions.length

/-- An instruction that can be built and read back. -/
structure InstructionLayout.WellFormed (catalog : Catalog) (layout : ScriptLayout) (instruction : InstructionLayout) : Prop where
  opcode : instruction.opcode < 0 ∨ instruction.opcode.toInt.toNat < catalog.size
  parameters_length : instruction.parameters.length ≤ 32767
  parameters : ∀ parameter ∈ instruction.parameters, parameter.WellFormed layout

/-- A layout that can be built and read back, if its name passes for one: the counts are words of two bytes, and every block has a
symbol as its name. -/
structure ScriptLayout.WellFormed (catalog : Catalog) (layout : ScriptLayout) : Prop where
  symbols_length : layout.symbols.length ≤ 65535
  blocks_length : layout.blocks.length ≤ 65535
  nameIndex_lt : ∀ block ∈ layout.blocks, block.nameIndex.toNat < layout.symbols.length
  instructions : ∀ block ∈ layout.blocks, ∀ instruction ∈ block.instructions, instruction.WellFormed catalog layout

instance (layout : ScriptLayout) : DecidablePred (ParameterLayout.WellFormed layout)
  | .payload tag bytes => inferInstanceAs (Decidable (parameterLength tag bytes 0 = .ok bytes.size))
  | .jumpTo block instruction =>
    decidable_of_iff (layout.blocks[block]?.any (fun content => instruction < content.instructions.length) = true)
      (by simp [ParameterLayout.WellFormed, Option.any_eq_true])

instance (catalog : Catalog) (layout : ScriptLayout) : DecidablePred (InstructionLayout.WellFormed catalog layout) := fun instruction =>
  decidable_of_iff ((instruction.opcode < 0 ∨ instruction.opcode.toInt.toNat < catalog.size) ∧
      instruction.parameters.length ≤ 32767 ∧ ∀ parameter ∈ instruction.parameters, parameter.WellFormed layout)
    ⟨fun ⟨h₁, h₂, h₃⟩ => ⟨h₁, h₂, h₃⟩, fun ⟨h₁, h₂, h₃⟩ => ⟨h₁, h₂, h₃⟩⟩

instance (catalog : Catalog) : DecidablePred (ScriptLayout.WellFormed catalog) := fun layout =>
  decidable_of_iff (layout.symbols.length ≤ 65535 ∧ layout.blocks.length ≤ 65535 ∧
      (∀ block ∈ layout.blocks, block.nameIndex.toNat < layout.symbols.length) ∧
      ∀ block ∈ layout.blocks, ∀ instruction ∈ block.instructions, instruction.WellFormed catalog layout)
    ⟨fun ⟨h₁, h₂, h₃, h₄⟩ => ⟨h₁, h₂, h₃, h₄⟩, fun ⟨h₁, h₂, h₃, h₄⟩ => ⟨h₁, h₂, h₃, h₄⟩⟩

section

variable {catalog : Catalog} {layout : ScriptLayout} {address? : Nat → Nat → Option Nat}

theorem ParameterLayout.size_of_resolve? {parameter : ParameterLayout} {said : Int16 × Bytes}
    (h : parameter.resolve? address? = some said) : parameter.size = (Contents.parameterBytes said).size := by
  cases parameter with
  | payload tag bytes =>
    cases h
    simp [Contents.parameterBytes, size]
  | jumpTo block instruction =>
    obtain ⟨address, -, rfl⟩ := Option.map_eq_some_iff.1 h
    rfl

theorem InstructionLayout.size_of_resolve? {instruction : InstructionLayout} {contents : Contents}
    (h : instruction.resolve? address? = some contents) : instruction.size = contents.toBytes.size := by
  obtain ⟨parameters, hparameters, rfl⟩ := Option.map_eq_some_iff.1 h
  have hsizes := map_eq_map_of_mapM hparameters fun _ _ => ParameterLayout.size_of_resolve?
  have hconcat := size_concat (parameters.map Contents.parameterBytes)
  rw [List.map_map] at hconcat
  simp only [Contents.toBytes, Array.size_append, size_ofInt16, size_ofUInt16, hconcat, size, hsizes, Invocation.headerSize,
    List.size_toArray, List.length_cons, List.length_nil, Function.comp_def]
  omega

theorem ParameterLayout.WellFormed.parameterLength_eq {parameter : ParameterLayout} (h : parameter.WellFormed layout)
    {said : Int16 × Bytes} (hsaid : parameter.resolve? address? = some said) :
    parameterLength said.1 said.2 0 = .ok said.2.size := by
  cases parameter with
  | payload tag bytes =>
    cases hsaid
    exact h
  | jumpTo block instruction =>
    obtain ⟨address, -, rfl⟩ := Option.map_eq_some_iff.1 hsaid
    rfl

theorem InstructionLayout.WellFormed.readable {instruction : InstructionLayout} (h : instruction.WellFormed catalog layout)
    {contents : Contents} (hcontents : instruction.resolve? address? = some contents) : contents.Readable catalog := by
  obtain ⟨parameters, hparameters, rfl⟩ := Option.map_eq_some_iff.1 hcontents
  have hlength := length_eq_of_mapM hparameters
  refine ⟨h.opcode, ?_, fun said hsaid => ?_⟩
  · rw [← hlength]
    exact h.parameters_length
  · obtain ⟨parameter, hparameter, hresolved⟩ := exists_of_mem_mapM hparameters said hsaid
    exact (h.parameters parameter hparameter).parameterLength_eq hresolved

/-- The instructions of a well-formed layout can be read back. -/
theorem ScriptLayout.WellFormed.readable (h : layout.WellFormed catalog) {runs : List (List Contents)}
    (hruns : layout.resolve? address? = some runs) : ∀ run ∈ runs, ∀ contents ∈ run, contents.Readable catalog := by
  intro run hrun contents hcontents
  obtain ⟨block, hblock, hresolved⟩ := exists_of_mem_mapM hruns run hrun
  obtain ⟨instruction, hinstruction, hsaid⟩ := exists_of_mem_mapM hresolved contents hcontents
  exact (h.instructions block hblock instruction hinstruction).readable hsaid

/-- Every jump of a well-formed layout can be given an address. -/
theorem ScriptLayout.WellFormed.exists_resolve? (h : layout.WellFormed catalog)
    (haddress : ∀ block content instruction, layout.blocks[block]? = some content → instruction < content.instructions.length →
      ∃ address, address? block instruction = some address) :
    ∃ runs, layout.resolve? address? = some runs := by
  refine exists_mapM_eq_some fun block hblock => exists_mapM_eq_some fun instruction hinstruction => ?_
  have hparameters : ∃ parameters, instruction.parameters.mapM (ParameterLayout.resolve? address?) = some parameters := by
    refine exists_mapM_eq_some fun parameter hparameter => ?_
    have hwell := (h.instructions block hblock instruction hinstruction).parameters parameter hparameter
    cases parameter with
    | payload tag bytes => exact ⟨_, rfl⟩
    | jumpTo block instruction =>
      obtain ⟨content, hcontent, hlt⟩ := hwell
      obtain ⟨address, haddress⟩ := haddress block content instruction hcontent hlt
      exact ⟨_, by rw [ParameterLayout.resolve?, haddress, Option.map_some]⟩
  obtain ⟨parameters, hparameters⟩ := hparameters
  exact ⟨_, by rw [InstructionLayout.resolve?, hparameters, Option.map_some]⟩

/-- The instructions take the bytes that the layout says. -/
theorem ScriptLayout.map_size_of_resolve? {runs : List (List Contents)} (hruns : layout.resolve? address? = some runs) :
    layout.blocks.map (fun block => block.instructions.map InstructionLayout.size) = runs.map (·.map (·.toBytes.size)) :=
  map_eq_map_of_mapM hruns fun _ _ hrun => map_eq_map_of_mapM hrun fun _ _ => InstructionLayout.size_of_resolve?

end

/-! ## The image of a layout -/

/-- The stored form of a text in an encoding, with the terminator. -/
def StoredText.stored (encoding : Encoding) (text : String) : Bytes :=
  (encoding.encode text).toArray.push 0

/-- The texts of a layout. -/
def ScriptLayout.texts (layout : ScriptLayout) (encoding : Encoding) : Texts where
  name := StoredText.stored encoding layout.name
  room := StoredText.stored encoding layout.room
  time := StoredText.stored encoding layout.time
  symbols := layout.symbols.map (StoredText.stored encoding)

/-- The entries of blocks that follow one another from a place in the body on. -/
def blockEntries : Nat → List BlockLayout → List BlockEntry
  | _, [] => []
  | pos, block :: rest =>
    ⟨block.nameIndex, UInt16.ofNat block.instructions.length, pos⟩ :: blockEntries (pos + block.size) rest

/-- The bytes of a block with its trailer. -/
def regionBytes (run : List Contents) : Bytes :=
  Contents.runBytes run ++ Array.replicate Block.trailerSize 0

/-- The image of a layout whose instructions say `runs`. -/
def ScriptLayout.image (layout : ScriptLayout) (encoding : Encoding) (runs : List (List Contents)) : Image where
  texts := layout.texts encoding
  entries := blockEntries 0 layout.blocks
  body := concat (runs.map regionBytes)

/-- Things that are written one after another are what they say, one after another. -/
theorem ScriptLayout.concat?_eq {α β : Type} {write : α → Option Bytes} {say : α → Option β} {bytes : β → Bytes}
    (h : ∀ a, write a = (say a).map bytes) (list : List α) :
    concat? write list = (list.mapM say).map fun said => concat (said.map bytes) := by
  induction list with
  | nil => rfl
  | cons a rest ih =>
    rw [concat?, h a, ih, List.mapM_cons]
    cases say a <;> cases rest.mapM say <;> rfl

theorem ScriptLayout.parameterBytes?_eq (layout : ScriptLayout) (encoding : Encoding) (parameter : ParameterLayout) :
    layout.parameterBytes? encoding parameter =
      (parameter.resolve? (layout.addressOf? encoding)).map Contents.parameterBytes := by
  cases parameter with
  | payload tag bytes => rfl
  | jumpTo block instruction =>
    rw [parameterBytes?, ParameterLayout.resolve?]
    cases layout.addressOf? encoding block instruction <;> rfl

theorem ScriptLayout.instructionBytes?_eq (layout : ScriptLayout) (encoding : Encoding) (instruction : InstructionLayout) :
    layout.instructionBytes? encoding instruction =
      (instruction.resolve? (layout.addressOf? encoding)).map Contents.toBytes := by
  rw [instructionBytes?, concat?_eq (layout.parameterBytes?_eq encoding), InstructionLayout.resolve?]
  cases hparameters : instruction.parameters.mapM (ParameterLayout.resolve? (layout.addressOf? encoding)) with
  | none => rfl
  | some parameters =>
    simp only [Option.map_some, Option.bind_eq_bind, Option.bind_some, Contents.toBytes, length_eq_of_mapM hparameters,
      Array.append_assoc]

theorem ScriptLayout.blockBytes?_eq (layout : ScriptLayout) (encoding : Encoding) (block : BlockLayout) :
    layout.blockBytes? encoding block =
      (block.instructions.mapM (InstructionLayout.resolve? (layout.addressOf? encoding))).map regionBytes := by
  rw [blockBytes?, concat?_eq (layout.instructionBytes?_eq encoding)]
  cases block.instructions.mapM (InstructionLayout.resolve? (layout.addressOf? encoding)) <;> rfl

theorem startsFrom_add (base pos : Nat) (sizes : List Nat) :
    startsFrom (base + pos) sizes = (startsFrom pos sizes).map (base + ·) := by
  induction sizes generalizing pos with
  | nil => rfl
  | cons size rest ih => rw [startsFrom, startsFrom, List.map_cons, Nat.add_assoc, ih]

section

variable (layout : ScriptLayout) (encoding : Encoding) (runs : List (List Contents))

theorem ScriptLayout.identityBytes_eq : layout.identityBytes encoding = (layout.texts encoding).identityBytes := by
  simp only [identityBytes, StoredText.ofString, StoredText.ofBytes_eq_written, Array.append_assoc]
  rfl

theorem ScriptLayout.symbolBytes_eq : layout.symbolBytes encoding = (layout.texts encoding).symbolBytes := by
  have hfold := foldl_append_eq_concat (StoredText.ofString encoding) layout.symbols #[]
  have hmap : layout.symbols.map (StoredText.ofString encoding) =
      (layout.symbols.map (StoredText.stored encoding)).map StoredText.written := by
    rw [List.map_map]
    exact List.map_congr_left fun text _ => StoredText.ofBytes_eq_written _
  rw [symbolBytes, hfold, Array.empty_append, hmap]
  rfl

theorem ScriptLayout.symbolTableEnd_eq : layout.symbolTableEnd encoding = (layout.texts encoding).symbolsEnd := by
  rw [symbolTableEnd, identityBytes_eq, symbolBytes_eq]
  rfl

theorem length_blockEntries (pos : Nat) (blocks : List BlockLayout) : (blockEntries pos blocks).length = blocks.length := by
  induction blocks generalizing pos with
  | nil => rfl
  | cons block rest ih => rw [blockEntries, List.length_cons, List.length_cons, ih]

theorem ScriptLayout.blockTableEnd_eq : layout.blockTableEnd encoding = (layout.image encoding runs).base := by
  rw [blockTableEnd, symbolTableEnd_eq, Image.base]
  simp only [image, length_blockEntries]

/-- The block table gives the starts of the regions, counted from the start of the file. -/
theorem foldl_entryBytes_eq (base pos : Nat) (blocks : List BlockLayout) (out : Bytes) :
    (blocks.zip (startsFrom (base + pos) (blocks.map BlockLayout.size))).foldl
        (fun out (block, start) => out ++ ScriptLayout.entryBytes block start) out =
      out ++ tableBytes base (blockEntries pos blocks) := by
  induction blocks generalizing pos out with
  | nil => exact Array.append_empty.symm
  | cons block rest ih =>
    have hentry : ScriptLayout.entryBytes block (base + pos) =
        (BlockEntry.mk block.nameIndex (UInt16.ofNat block.instructions.length) pos).bytesWith
          (BlockEntry.startWord base ⟨block.nameIndex, UInt16.ofNat block.instructions.length, pos⟩) :=
      Array.append_assoc ..
    rw [List.map_cons, startsFrom, List.zip_cons_cons, List.foldl_cons, Nat.add_assoc, ih, blockEntries, tableBytes_cons]
    simp only [hentry, Array.append_assoc]

theorem ScriptLayout.headBytes_eq :
    layout.headBytes encoding = (layout.image encoding runs).headBytes ++
      SceneScript.tableBytes (layout.image encoding runs).base (layout.image encoding runs).entries := by
  have htable := foldl_entryBytes_eq (layout.blockTableEnd encoding) 0 layout.blocks #[]
  rw [Nat.add_zero, Array.empty_append] at htable
  rw [headBytes, tableBytes, blockStarts, htable, blockTableEnd_eq layout encoding runs, symbolTableEnd_eq, identityBytes_eq,
    symbolBytes_eq]
  have hsymbols : (layout.texts encoding).symbols.length = layout.symbols.length := List.length_map ..
  have hentries : (layout.image encoding runs).entries.length = layout.blocks.length := length_blockEntries ..
  have htexts : (layout.image encoding runs).texts = layout.texts encoding := rfl
  simp only [Image.headBytes, Texts.headBytes, hsymbols, hentries, htexts, Array.append_assoc]
  rfl

end

/-- A layout is built to the file of its image. -/
theorem ScriptLayout.toBytes?_eq (layout : ScriptLayout) (encoding : Encoding) :
    layout.toBytes? encoding =
      (layout.resolve? (layout.addressOf? encoding)).map fun runs => (layout.image encoding runs).toBytes := by
  rw [toBytes?, concat?_eq (layout.blockBytes?_eq encoding), resolve?]
  cases layout.blocks.mapM fun block => block.instructions.mapM (InstructionLayout.resolve? (layout.addressOf? encoding)) with
  | none => rfl
  | some runs =>
    simp only [Option.map_some, Option.bind_eq_bind, Option.bind_some, headBytes_eq layout encoding runs, Image.toBytes]
    rfl

end SceneScript
