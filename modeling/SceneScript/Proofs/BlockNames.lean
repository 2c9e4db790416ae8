import SceneScript.Decompilation
import SceneScript.Proofs.Reload

/-!
# Names of blocks after edits

A block has the name that it was read with, also when an edit gives the symbol that it names another text. So the names of an edited
script are those of its symbol table exactly when the symbols that name blocks still read as they did
(`Script.namesInStep_runEdits_iff`). `Script.namesInStep_edit_false` is an edit after which they do not.
-/

namespace SceneScript

/-- What the table entry of a block says about its name, and the name that the block has. -/
def Block.heading (block : Block) : UInt16 × String :=
  (block.nameIndex, block.name)

namespace Script

/-- Every block has the name that the symbol table has for it. -/
def NamesInStep (script : Script) : Prop :=
  ∀ block ∈ script.blocks, script.symbols.get block.nameIndex.toNat = .ok block.name

/-- Whether names are in step is a matter of what the entries say and what the names are. -/
theorem namesInStep_iff {script : Script} :
    script.NamesInStep ↔
      ∀ heading ∈ script.blocks.map Block.heading, script.symbols.get heading.1.toNat = .ok heading.2 := by
  rw [List.forall_mem_map]
  exact Iff.rfl

end Script

/-- Blocks that name the same symbols of a table and have the names of these symbols have the same names. -/
theorem Block.map_heading_eq_of_get {symbols : SymbolTable} {blocks others : List Block}
    (hindices : blocks.map (·.nameIndex) = others.map (·.nameIndex))
    (hblocks : ∀ block ∈ blocks, symbols.get block.nameIndex.toNat = .ok block.name)
    (hothers : ∀ block ∈ others, symbols.get block.nameIndex.toNat = .ok block.name) :
    blocks.map heading = others.map heading := by
  induction blocks generalizing others with
  | nil =>
    rw [List.map_nil, eq_comm, List.map_eq_nil_iff] at hindices
    rw [hindices]
  | cons block blocks ih =>
    cases others with
    | nil => nomatch hindices
    | cons other others =>
      simp only [List.map_cons, List.cons.injEq] at hindices
      obtain ⟨hindex, hindices⟩ := hindices
      have hrest := ih hindices (fun b hb => hblocks b (List.mem_cons_of_mem _ hb)) fun b hb => hothers b (List.mem_cons_of_mem _ hb)
      have hname := hblocks block (List.mem_cons_self ..)
      rw [hindex, hothers other (List.mem_cons_self ..), Except.ok.injEq] at hname
      rw [List.map_cons, List.map_cons, hrest, heading, heading, hindex, hname]

/-! ## Names that have just been read -/

/-- The blocks of a table that is read have the names of the symbols. -/
theorem Block.get_nameIndex_of_readAll {buf : Bytes} {catalog : Catalog} {symbols : SymbolTable}
    {tableEnd count entry first : Nat} {blocks : List Block} {invocations : List Invocation}
    (h : readAll buf catalog symbols tableEnd count entry first = .ok (blocks, invocations)) :
    ∀ block ∈ blocks, symbols.get block.nameIndex.toNat = .ok block.name := by
  intro block hblock
  obtain ⟨_, -, _, _, hread⟩ := exists_read_of_mem h block hblock
  obtain ⟨_, _, _, _, _, -, hname, -, -, rfl⟩ := read_eq_ok_iff.1 hread
  exact hname

namespace Script

variable {bytes : Bytes} {catalog : Catalog} {encoding : Encoding} {script : Script}

/-- The names of a script that has just been read are in step. -/
theorem namesInStep_of_parse? (h : parse? bytes catalog encoding = .ok (some script)) : script.NamesInStep := by
  obtain ⟨header, symbols, blocks, invocations, -, htable, rfl⟩ := parse?_eq_ok_some_iff.1 h
  exact Block.get_nameIndex_of_readAll htable

/-! ## Names after edits -/

theorem map_heading_rebase (script : Script) (patch : Patch) (bytes : Bytes) :
    (script.rebase patch bytes).blocks.map Block.heading = script.blocks.map Block.heading := by
  simp only [rebase, List.map_map]
  rfl

/-- Requests change no name. -/
theorem map_heading_runEdits (script : Script) (requests : List EditRequest) :
    (script.runEdits requests).blocks.map Block.heading = script.blocks.map Block.heading :=
  runEdits_keep (fun script => script.blocks.map Block.heading) map_heading_rebase script requests

/-- If two scripts find the same and the names of one are in step, then their names are the same exactly if those of the other are in
step, too. -/
theorem SameFinds.map_heading_eq_iff {fresh other : Script} (h : fresh.SameFinds other) (hfresh : fresh.NamesInStep) :
    fresh.blocks.map Block.heading = other.blocks.map Block.heading ↔ other.NamesInStep := by
  constructor
  · intro heq
    rw [namesInStep_iff, ← heq, ← h.symbols]
    exact namesInStep_iff.1 hfresh
  · intro hother
    have hindices := congrArg (List.map Block.nameIndex) h.blocks
    rw [List.map_map, List.map_map] at hindices
    unfold NamesInStep at hfresh
    rw [h.symbols] at hfresh
    exact Block.map_heading_eq_of_get hindices hfresh hother

/-- The names of an edited script are in step exactly when the symbols that name blocks read as they did when the script was read. -/
theorem namesInStep_runEdits_iff_get (h : parse? bytes catalog encoding = .ok (some script)) (requests : List EditRequest) :
    (script.runEdits requests).NamesInStep ↔ ∀ block ∈ script.blocks,
      (script.runEdits requests).symbols.get block.nameIndex.toNat = script.symbols.get block.nameIndex.toNat := by
  have hnames := namesInStep_of_parse? h
  rw [namesInStep_iff, map_heading_runEdits, List.forall_mem_map]
  refine forall₂_congr fun block hblock => ?_
  rw [hnames block hblock]
  exact Iff.rfl

/-- The names of an edited script are in step exactly when the symbols that name blocks read as they did when the script was read.
Where reading the edited file finds what the edited script holds, it finds the same names exactly when they are in step. -/
theorem namesInStep_runEdits_iff (h : parse? bytes catalog encoding = .ok (some script)) (requests : List EditRequest) :
    ((script.runEdits requests).NamesInStep ↔ ∀ block ∈ script.blocks,
      (script.runEdits requests).symbols.get block.nameIndex.toNat = script.symbols.get block.nameIndex.toNat) ∧
    ∀ fresh, parse? (script.runEdits requests).bytes catalog encoding = .ok (some fresh) →
      fresh.SameFinds (script.runEdits requests) →
      (fresh.blocks.map Block.heading = (script.runEdits requests).blocks.map Block.heading ↔
        (script.runEdits requests).NamesInStep) := by
  refine ⟨namesInStep_runEdits_iff_get h requests, ?_⟩
  intro fresh hfresh hfinds
  exact hfinds.map_heading_eq_iff (namesInStep_of_parse? hfresh)

/-- The names of the sample after requests that leave the symbol that names its block. -/
theorem namesInStep_sample :
    parse? sample.bytes Catalog.sample sample.encoding = .ok (some sample) ∧
      ((sample.runEdits sampleRequests).NamesInStep ↔ ∀ block ∈ sample.blocks,
        (sample.runEdits sampleRequests).symbols.get block.nameIndex.toNat = sample.symbols.get block.nameIndex.toNat) ∧
      ∀ fresh, parse? (sample.runEdits sampleRequests).bytes Catalog.sample sample.encoding = .ok (some fresh) →
        fresh.SameFinds (sample.runEdits sampleRequests) →
        (fresh.blocks.map Block.heading = (sample.runEdits sampleRequests).blocks.map Block.heading ↔
          (sample.runEdits sampleRequests).NamesInStep) :=
  ⟨consistent_sample.parsed, namesInStep_runEdits_iff consistent_sample.parsed sampleRequests⟩

end Script

/-! ## A name that is spoken -/

/-- The sample with a block that is named by its first line. -/
def Image.sampleSpoken : Image :=
  { sample with entries := [⟨1, 2, 0⟩] }

/-- What is known of it besides its file. -/
def View.sampleSpoken : View :=
  { View.sample with units := View.sample.units.map fun unit => ("Hi.", unit.2) }

theorem Image.valid_sampleSpoken : Image.sampleSpoken.Valid .shiftJis := by
  refine ⟨valid_sample.name, valid_sample.symbols_length, by decide, by decide, ?_⟩
  rw [size_toBytes]
  decide

theorem Image.runs_sampleSpoken :
    Runs sampleSpoken.body Catalog.sample sampleSpoken.entries (View.sampleSpoken.units.map (·.2)) := by
  cases runs_sample with
  | cons hrun _ => exact .cons hrun .nil

theorem Image.named_sampleSpoken :
    Named (sampleSpoken.texts.symbolTable .shiftJis) sampleSpoken.entries View.sampleSpoken.units :=
  .cons (by rfl) .nil

theorem Image.freshView_sampleSpoken : sampleSpoken.freshView .shiftJis View.sampleSpoken.units = View.sampleSpoken := by
  rw [freshView, show sampleSpoken.texts = sample.texts from rfl, marks_sample]
  rfl

/-- The file with another text for its first line. -/
def Image.sampleSpokenEdited : Image :=
  sampleSpoken.retext 1 #[66, 121, 101, 46]

theorem Image.edit?_sampleSpoken :
    sampleSpoken.edit? View.sampleSpoken 0 "Bye." 256 = some (sampleSpokenEdited, ⟨0, 1, none⟩) := by
  rfl

/-- It as a script. -/
def Script.sampleSpoken : Script :=
  Image.sampleSpoken.script View.sampleSpoken

/-- Names need not stay in step: after a successful edit of the line that names its block, the block has a name that the symbol table
no longer has, and reading the edited file again gives another text. -/
theorem Script.namesInStep_edit_false :
    sampleSpoken.Consistent Catalog.sample ∧
      ∃ edited outcome fresh, sampleSpoken.edit 0 "Bye." 256 = .ok (edited, outcome) ∧ ¬ edited.NamesInStep ∧
        parse? edited.bytes Catalog.sample sampleSpoken.encoding = .ok (some fresh) ∧
        edited.decompile .semantic ≠ fresh.decompile .semantic := by
  have hconsistent := Image.consistent Image.valid_sampleSpoken Image.runs_sampleSpoken Image.named_sampleSpoken (by decide)
  have hfits := Image.fits_freshView Image.runs_sampleSpoken Image.named_sampleSpoken
  rw [Image.freshView_sampleSpoken] at hconsistent hfits
  have hsize : Image.sampleSpokenEdited.toBytes.size < sizeLimit := by
    rw [Image.size_toBytes]
    decide +kernel
  have hvalid := Image.valid_sampleSpoken.retext hsize
  obtain ⟨edited, hedit, -, heq⟩ := Image.exists_edit_script Image.valid_sampleSpoken hfits Image.edit?_sampleSpoken
  obtain rfl := heq hsize
  -- The edited file is read with the same instructions and another name.
  have hruns : Runs Image.sampleSpokenEdited.body Catalog.sample Image.sampleSpokenEdited.entries
      ((View.sample.units.map fun unit => ("Bye.", unit.2)).map (·.2)) := Image.runs_sampleSpoken
  have hnamed : Named (Image.sampleSpokenEdited.texts.symbolTable .shiftJis) Image.sampleSpokenEdited.entries
      (View.sample.units.map fun unit => ("Bye.", unit.2)) := .cons (by decide +kernel) .nil
  have hparse := (Image.parse?_eq_ok_some_iff hvalid).2 ⟨_, hruns, hnamed, rfl⟩
  refine ⟨hconsistent, _, _, _, hedit, ?_, hparse, by decide +kernel⟩
  intro hstep
  have hname := hstep _ (List.mem_cons_self ..)
  revert hname
  decide +kernel

end SceneScript
