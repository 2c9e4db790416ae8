import SceneScript.Proofs.Alignment
import SceneScript.Proofs.Templates

/-!
# The text of a script after edits

No edit changes the template of a script (`Script.template_runEdits`): instructions move, and what they say, the names of blocks, the
number of symbols and the lines that jumps lead to stay. So the text of an edited script is that of the script which was read, unless
it shows a symbol whose text an edit has replaced (`Script.ExactTables.decompile_runEdits`). A fault in the operands of an instruction
stays as well, and is reported where the instruction stands after the edits.
-/

namespace SceneScript

/-! ## Templates after edits -/

theorem invocationsTemplate_map {template : Invocation → Except ScriptError Template} {move : Invocation → Invocation}
    (hline : ∀ invocation, (move invocation).line = invocation.line)
    (htemplate : ∀ invocation, template (move invocation) = template invocation) (current number : Nat)
    (instructions : List Invocation) :
    invocationsTemplate template current number (instructions.map move) = invocationsTemplate template current number instructions := by
  induction instructions generalizing current number with
  | nil => rfl
  | cons invocation rest ih => simp only [List.map_cons, invocationsTemplate, hline, htemplate, ih]

theorem blocksTemplate_map {template : Invocation → Except ScriptError Template} {move : Invocation → Invocation} {moveBlock : Block → Block}
    (hline : ∀ invocation, (move invocation).line = invocation.line)
    (htemplate : ∀ invocation, template (move invocation) = template invocation)
    (hname : ∀ block, (moveBlock block).name = block.name)
    (hrange : ∀ block, (moveBlock block).first = block.first ∧ (moveBlock block).past = block.past) (instructions : List Invocation)
    (current : Nat) (blocks : List Block) :
    blocksTemplate template (instructions.map move) current (blocks.map moveBlock) = blocksTemplate template instructions current blocks := by
  induction blocks generalizing current with
  | nil => rfl
  | cons block rest ih =>
    obtain ⟨hfirst, hpast⟩ := hrange block
    have hslice : (moveBlock block).slice (instructions.map move) = (block.slice instructions).map move := by
      rw [Block.slice, Block.slice, hfirst, hpast, List.map_take, List.map_drop]
    simp only [List.map_cons, blocksTemplate, hname, hfirst, hpast, hslice, invocationsTemplate_map hline htemplate, ih]

namespace Script

theorem contents_rebaseInvocation (patch : Patch) (invocation : Invocation) :
    (rebaseInvocation patch invocation).contents = invocation.contents := by
  simp only [Invocation.contents, rebaseInvocation, List.map_map]
  rfl

theorem renderRaw_rebaseInvocation (patch : Patch) (invocation : Invocation) :
    (rebaseInvocation patch invocation).renderRaw = invocation.renderRaw := by
  simp only [Invocation.renderRaw, rebaseInvocation, List.map_map]
  rfl

/-- Moving an instruction leaves its template. -/
theorem template_rebaseInvocation (patch : Patch) (count : Nat) (target : Int32 → String) (mode : RenderMode) (invocation : Invocation) :
    (rebaseInvocation patch invocation).template count target mode = invocation.template count target mode := by
  unfold Invocation.template
  rw [contents_rebaseInvocation, renderRaw_rebaseInvocation]
  rfl

/-- Jumps find their targets by where these stood when the script was read, so moving instructions leaves the lines they lead to. -/
theorem jumpTarget_map_rebaseInvocation (patch : Patch) (instructions : List Invocation) (word : Int32) :
    jumpTarget (instructions.map (rebaseInvocation patch)) word = jumpTarget instructions word := by
  have hfind : (instructions.map (rebaseInvocation patch)).find? (fun i => Int64.ofNat i.parsedAddress = word.toInt64) =
      (instructions.find? fun i => Int64.ofNat i.parsedAddress = word.toInt64).map (rebaseInvocation patch) := by
    rw [List.find?_map]
    rfl
  rw [jumpTarget, hfind, jumpTarget]
  cases instructions.find? fun i => Int64.ofNat i.parsedAddress = word.toInt64 <;> rfl

theorem template_rebase (script : Script) (patch : Patch) (bytes : Bytes) (mode : RenderMode) :
    (script.rebase patch bytes).template mode = script.template mode := by
  have hsize : (script.rebase patch bytes).symbols.size = script.symbols.size := by
    rw [rebase, SymbolTable.size, List.length_map, SymbolTable.size]
  have htarget : jumpTarget (script.rebase patch bytes).invocations = jumpTarget script.invocations := by
    funext word
    exact jumpTarget_map_rebaseInvocation patch script.invocations word
  rw [template, hsize, htarget]
  show blocksTemplate _ (script.invocations.map (rebaseInvocation patch)) 1 (script.blocks.map (rebaseBlock patch)) = _
  refine blocksTemplate_map ?_ (template_rebaseInvocation patch _ _ mode) ?_ ?_ _ 1 _
  · exact fun _ => rfl
  · exact fun _ => rfl
  · exact fun _ => ⟨rfl, rfl⟩

/-- Requests leave the template of a script. -/
theorem template_runEdits (script : Script) (requests : List EditRequest) (mode : RenderMode) :
    (script.runEdits requests).template mode = script.template mode :=
  runEdits_keep (template · mode) (fun script patch bytes => template_rebase script patch bytes mode) script requests

/-- Requests leave the lines that jumps lead to. -/
theorem jumpTarget_runEdits (script : Script) (requests : List EditRequest) (word : Int32) :
    jumpTarget (script.runEdits requests).invocations word = jumpTarget script.invocations word :=
  runEdits_keep (fun script => jumpTarget script.invocations word)
    (fun script patch _ => jumpTarget_map_rebaseInvocation patch script.invocations word) script requests

/-! ## Where instructions stand -/

/-- Every instruction stands between the end of the block table and the end of the file. -/
def InstructionsBehind (script : Script) : Prop :=
  ∀ invocation ∈ script.invocations, script.header.blockTableEnd.toNat ≤ invocation.address ∧ invocation.address ≤ script.bytes.size

/-- The instructions of a script with exact tables stand behind its block table. -/
theorem ExactTables.instructionsBehind {catalog : Catalog} {script : Script} (h : script.ExactTables catalog)
    (hsize : script.bytes.size < sizeLimit) : script.InstructionsBehind := by
  obtain ⟨image, units, hreadable, hruns, hnamed, hscript⟩ := h.exists_readable hsize
  have hbytes : script.bytes.size = image.base + image.body.size := by
    rw [hscript, Image.script, Image.size_toBytes]
  have hend : script.header.blockTableEnd.toNat = image.base := by
    have hbase : image.base < sizeLimit := by omega
    rw [hscript]
    exact toNat_ofNat_of_lt hbase
  intro invocation hinvocation
  rw [hscript] at hinvocation
  obtain ⟨inner, hinner, rfl⟩ := List.mem_map.1 hinvocation
  have hle := (Invocation.within_of_read (hruns.read_of_mem hinner)).address_le
  rw [hend, hbytes, Invocation.place]
  constructor
  · exact Nat.le_add_right ..
  · exact Nat.add_le_add_left hle _

namespace LaidOut

variable {script edited : Script} {image : Image} {start : BlockEntry → UInt32} {requests : List EditRequest}

theorem toNat_blockTableEnd (h : script.LaidOut image start) (hsize : script.bytes.size < sizeLimit) :
    script.header.blockTableEnd.toNat = image.base := by
  rw [h.header]
  exact toNat_ofNat_of_lt (h.base_lt hsize)

/-- Storing a text for a symbol moves what stands behind the block table by as much as the file grows. -/
theorem moved_of_le (h : script.LaidOut image start) (hsize : script.bytes.size < sizeLimit) {patch : Patch} {number : Nat}
    {bytes : Bytes} (hstores : patch.Stores image number bytes)
    (hfile : (image.storing number bytes :: script.repairs patch).foldlM Change.perform script.bytes = .ok edited.bytes)
    (hsize' : edited.bytes.size < UInt64.size) {address : Nat} (hle : script.header.blockTableEnd.toNat ≤ address)
    (hle' : address ≤ script.bytes.size) :
    (patch.moved address : Int) = address + ((edited.bytes.size : Int) - script.bytes.size) := by
  have hgrown := h.size_edited hstores hfile
  have hbase := Image.base_retext bytes hstores.index_lt hstores.size_pos
  rw [h.toNat_blockTableEnd hsize] at hle
  rw [Image.size_toBytes, Image.body_retext] at hgrown
  rw [h.size_eq, Image.size_toBytes] at hle' ⊢
  have hmoved := hstores.moved_base_add (address - image.base) (by omega)
  rw [Nat.add_sub_cancel' hle] at hmoved
  rw [hmoved]
  omega

/-- Storing a text for a symbol moves the end of the block table with the file. -/
theorem toNat_blockTableEnd_rebase (h : script.LaidOut image start) (hsize : script.bytes.size < sizeLimit) {patch : Patch} {number : Nat}
    {bytes : Bytes} (hstores : patch.Stores image number bytes)
    (hfile : (image.storing number bytes :: script.repairs patch).foldlM Change.perform script.bytes = .ok edited.bytes)
    (hsize' : edited.bytes.size < sizeLimit) (file : Bytes) :
    ((script.rebase patch file).header.blockTableEnd.toNat : Int) =
      script.header.blockTableEnd.toNat + ((edited.bytes.size : Int) - script.bytes.size) := by
  have hgrown := h.size_edited hstores hfile
  have hbase := Image.base_retext bytes hstores.index_lt hstores.size_pos
  have hsizes := Image.size_toBytes_retext bytes hstores.index_lt hstores.size_pos
  have hlt : (image.retext number bytes).base < sizeLimit := by
    rw [Image.size_toBytes] at hgrown
    omega
  have hheader : (script.rebase patch file).header.blockTableEnd = UInt32.ofNat (image.retext number bytes).base :=
    congrArg Header.blockTableEnd (h.rebase hstores (h.base_lt hsize) hlt).header
  rw [hheader, toNat_ofNat_of_lt hlt, h.toNat_blockTableEnd hsize, hbase, hgrown, h.size_eq]
  omega

/-- An edit moves every instruction by as much as the file grows, and they still stand behind the block table. -/
theorem map_address_of_edit (h : script.LaidOut image start) (hsize : script.bytes.size < sizeLimit)
    (hbehind : script.InstructionsBehind) {index cap : Nat} {text : String} {outcome : EditOutcome}
    (hedit : script.edit index text cap = .ok (edited, outcome)) (hsize' : edited.bytes.size < sizeLimit) :
    edited.InstructionsBehind ∧
      edited.invocations.map (fun invocation => (invocation.address : Int)) =
        script.invocations.map fun invocation => invocation.address + ((edited.bytes.size : Int) - script.bytes.size) := by
  obtain ⟨line, hline, ⟨-, rfl, -⟩ | hnew⟩ := exists_line_of_edit hedit
  · simp only [Int.sub_self, Int.add_zero]
    exact ⟨hbehind, trivial⟩
  · obtain ⟨patch, hstores, hfile, hedited, -⟩ := h.exists_stores hsize hline hnew hedit
    have hend := h.toNat_blockTableEnd_rebase hsize hstores hfile hsize' edited.bytes
    rw [← hedited] at hend
    have hmoved : ∀ {address : Nat}, script.header.blockTableEnd.toNat ≤ address → address ≤ script.bytes.size →
        (patch.moved address : Int) = address + ((edited.bytes.size : Int) - script.bytes.size) :=
      h.moved_of_le hsize hstores hfile (by simp only [sizeLimit, UInt64.size] at *; omega)
    have hinvocations : edited.invocations = script.invocations.map (rebaseInvocation patch) := by rw [hedited]; rfl
    rw [InstructionsBehind, hinvocations, List.map_map]
    constructor
    · intro invocation hinvocation
      obtain ⟨before, hbefore, rfl⟩ := List.mem_map.1 hinvocation
      obtain ⟨hle, hle'⟩ := hbehind before hbefore
      have haddress := hmoved hle hle'
      have hplace : (rebaseInvocation patch before).address = patch.moved before.address := rfl
      rw [hplace]
      omega
    · refine List.map_congr_left fun invocation hinvocation => ?_
      obtain ⟨hle, hle'⟩ := hbehind invocation hinvocation
      exact hmoved hle hle'

/-- Requests move every instruction by as much as the file grows. -/
theorem map_address_runEdits (h : script.LaidOut image start) (hbehind : script.InstructionsBehind)
    (hsmall : script.StaysSmall requests) :
    (script.runEdits requests).invocations.map (fun invocation => (invocation.address : Int)) =
      script.invocations.map fun invocation =>
        invocation.address + (((script.runEdits requests).bytes.size : Int) - script.bytes.size) := by
  refine (h.runEdits_induction (P := fun state => state.InstructionsBehind ∧ state.invocations.map (fun invocation =>
    (invocation.address : Int)) = script.invocations.map fun invocation =>
      invocation.address + ((state.bytes.size : Int) - script.bytes.size)) hsmall ?_ ?_).1.2
  · simp only [Int.sub_self, Int.add_zero]
    exact ⟨hbehind, trivial⟩
  · rintro state edited image start index cap text outcome hlaid hsize ⟨hbehind', hmoved⟩ hedit hsize'
    obtain ⟨hbehind'', hmoved'⟩ := hlaid.map_address_of_edit hsize hbehind' hedit hsize'
    have hsum := congrArg (List.map (· + ((edited.bytes.size : Int) - state.bytes.size))) hmoved
    simp only [List.map_map, Function.comp_def] at hsum
    refine ⟨hbehind'', ?_⟩
    rw [hmoved', hsum]
    refine List.map_congr_left fun invocation _ => ?_
    omega

end LaidOut

/-! ## The text of an edited script -/

/-- The symbols that the text of a script shows. -/
def shownNames (script : Script) (mode : RenderMode) : List Nat :=
  match script.template mode with
  | .ok template => template.names
  | .error _ => []

/-- A fault of a template is one of the semantic form, and of an instruction. -/
theorem exists_getElem?_of_template_eq_error {script : Script} {mode : RenderMode} {number : Nat} {cause : ScriptError}
    (h : script.template mode = .error (number, cause)) :
    mode = .semantic ∧ ∃ invocation, script.invocations[number]? = some invocation := by
  refine ⟨?_, exists_getElem?_of_blocksTemplate_eq_error h⟩
  cases mode with
  | semantic => rfl
  | raw =>
    obtain ⟨template, htemplate, -⟩ := exists_blocksTemplate_raw script.symbols.size (jumpTarget script.invocations) script.invocations 1
      script.blocks
    rw [Script.template, htemplate] at h
    nomatch h

/-- Requests that edit no symbol which the text of a script shows leave the text as it is. Where an instruction cannot be shown, it
still cannot, for the same reason, which is reported with its new address. Either way every jump leads to the line that it led to. -/
theorem ExactTables.decompile_runEdits {catalog : Catalog} {script : Script} (h : script.ExactTables catalog)
    {requests : List EditRequest} (hsmall : script.StaysSmall requests) (mode : RenderMode)
    (hnames : ∀ number ∈ script.shownNames mode, number ∉ script.editedSymbols requests) :
    ((∃ text, script.decompile mode = .ok text ∧ (script.runEdits requests).decompile mode = .ok text) ∨
      ∃ (number : Nat) (before after : Invocation) (cause : ScriptError), mode = .semantic ∧ script.invocations[number]? = some before ∧
        (script.runEdits requests).invocations[number]? = some after ∧
        (after.address : Int) = before.address + (((script.runEdits requests).bytes.size : Int) - script.bytes.size) ∧
        script.decompile mode = .error (.rendering before.address cause) ∧
        (script.runEdits requests).decompile mode = .error (.rendering after.address cause)) ∧
    ∀ word, jumpTarget (script.runEdits requests).invocations word = jumpTarget script.invocations word := by
  obtain ⟨image, start, hlaid⟩ := h.exists_laidOut hsmall.size_lt
  have htext : ∀ number ∈ script.shownNames mode, (script.runEdits requests).symbols.textAt number = script.symbols.textAt number :=
    fun number hnumber =>
      congrArg (Option.getD · "") (hlaid.map_text_runEdits (h.aligned hsmall.size_lt) hsmall (hnames number hnumber))
  have haddress := hlaid.map_address_runEdits (h.instructionsBehind hsmall.size_lt) hsmall
  refine ⟨?_, script.jumpTarget_runEdits requests⟩
  simp only [decompile_eq_finish, script.template_runEdits]
  rw [shownNames] at htext
  cases htemplate : script.template mode with
  | ok template =>
    rw [htemplate] at htext
    refine .inl ⟨template.fill script.symbols, rfl, ?_⟩
    rw [Renderer.finish, Template.fill_congr htext]
  | error fault =>
    obtain ⟨number, cause⟩ := fault
    obtain ⟨hmode, before, hbefore⟩ := exists_getElem?_of_template_eq_error htemplate
    have hplaces := congrArg (·[number]?) haddress
    simp only [List.getElem?_map, hbefore, Option.map_some, Option.map_eq_some_iff] at hplaces
    obtain ⟨after, hafter, hmoved⟩ := hplaces
    refine .inr ⟨number, before, after, cause, hmode, hbefore, hafter, hmoved, ?_, ?_⟩
    · simp only [Renderer.finish, renderer, hbefore, Option.map_some, Option.getD_some]
    · simp only [Renderer.finish, renderer, hafter, Option.map_some, Option.getD_some]

end Script

/-! ## A sample that shows a symbol -/

/-- The file of a script with two spoken lines, whose one instruction shows the second. -/
def Image.sampleTopic : Image where
  texts := sample.texts
  entries := [⟨0, 1, 0⟩]
  body := #[0, 2, 255, 255, 0, 8, 0, 1, 0, 0, 0, 0, 0, 21, 0, 3, 0, 0, 0, 0, 0, 0, 0, 0]

/-- What is known of it besides its file. -/
def View.sampleTopic : View where
  encoding := .shiftJis
  units := [("MAIN", [⟨0, 0, 2, -1, 8, ⟨8, "TOPIC_GET", [0x15, 0x0A, 0x19, 0x05]⟩, [⟨ParameterTag.symbolIndex, 14, #[0, 3]⟩]⟩])]
  origin := 99
  marks := View.sample.marks

/-- It as a script. -/
def Script.sampleTopic : Script :=
  Image.sampleTopic.script View.sampleTopic

theorem Image.valid_sampleTopic : Image.sampleTopic.Valid .shiftJis := by
  refine ⟨valid_sample.name, by decide, by decide, by decide, ?_⟩
  rw [size_toBytes]
  decide

theorem Image.runs_sampleTopic :
    Runs Image.sampleTopic.body Catalog.sample Image.sampleTopic.entries (View.sampleTopic.units.map (·.2)) :=
  .cons (.next (by decide) (by rfl) (by decide) (.trailer (by decide))) .nil

theorem Image.named_sampleTopic :
    Named (Image.sampleTopic.texts.symbolTable .shiftJis) Image.sampleTopic.entries View.sampleTopic.units :=
  .cons (by rfl) .nil

theorem Image.freshView_sampleTopic : Image.sampleTopic.freshView .shiftJis View.sampleTopic.units = View.sampleTopic := by
  have hmarks : (Image.sampleTopic.texts.symbolTable .shiftJis).marks = View.sampleTopic.marks := marks_sample
  rw [freshView, hmarks]
  rfl

theorem Script.consistent_sampleTopic : sampleTopic.Consistent Catalog.sample := by
  rw [sampleTopic, ← Image.freshView_sampleTopic]
  exact Image.consistent Image.valid_sampleTopic Image.runs_sampleTopic Image.named_sampleTopic (by decide)

theorem Script.staysSmall_sampleTopic : sampleTopic.StaysSmall sampleRequests := by
  refine Image.staysSmall_script Image.valid_sampleTopic ?_ ?_
  · rw [← Image.freshView_sampleTopic]
    exact Image.fits_freshView Image.runs_sampleTopic Image.named_sampleTopic
  · rw [Image.size_toBytes]
    decide

/-- The text of this script shows the second line and stays when the first one is edited. -/
theorem Script.decompile_sampleTopic :
    sampleTopic.ExactTables Catalog.sample ∧ sampleTopic.StaysSmall sampleRequests ∧ sampleTopic.shownNames .semantic = [3] ∧
      (∀ number ∈ sampleTopic.shownNames .semantic, number ∉ sampleTopic.editedSymbols sampleRequests) ∧
      sampleTopic.decompile .semantic = .ok "== MAIN ==\nTOPIC_GET(Bye.)\n" ∧
      (sampleTopic.runEdits sampleRequests).decompile .semantic = .ok "== MAIN ==\nTOPIC_GET(Bye.)\n" := by
  have hshown : sampleTopic.shownNames .semantic = [3] := by rfl
  have hnames : ∀ number ∈ sampleTopic.shownNames .semantic, number ∉ sampleTopic.editedSymbols sampleRequests := by
    rw [hshown]
    intro number hnumber hedited
    obtain ⟨request, hrequest, hindex⟩ := exists_of_mem_editedSymbols hedited
    rw [List.mem_singleton.1 hnumber] at hindex
    revert request
    decide
  have htext : sampleTopic.decompile .semantic = .ok "== MAIN ==\nTOPIC_GET(Bye.)\n" := by rfl
  refine ⟨consistent_sampleTopic.toExactTables, staysSmall_sampleTopic, hshown, hnames, htext, ?_⟩
  obtain ⟨⟨text, hbefore, hafter⟩ | ⟨_, _, _, _, -, -, -, -, hbefore, -⟩, -⟩ :=
    consistent_sampleTopic.toExactTables.decompile_runEdits staysSmall_sampleTopic .semantic hnames
  · rw [htext, Except.ok.injEq] at hbefore
    rw [hafter, hbefore]
  · rw [htext] at hbefore
    nomatch hbefore

end SceneScript
