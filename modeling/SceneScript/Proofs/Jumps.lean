import SceneScript.Decompilation
import SceneScript.Proofs.Reload

/-!
# Jumps after edits

An edit moves instructions and leaves the targets of jumps as they are. An edited script still knows where its instructions stood
when it was read, so its jumps lead where they led. The file does not say, and reading it again takes a target for an address in
the edited file: a jump leads where the instruction stood that was further up by as much as the file has grown
(`Script.ExactTables.showsJump_runEdits`).
-/

namespace SceneScript

/-! ## Rendering jumps -/

/-- The word that a jump gives as its target. -/
def Invocation.targetWord? (invocation : Invocation) : Option Int32 := do
  let parameter ← invocation.parameter? ParameterTag.jumpTarget 0
  (parameter.payload.readWord 0).toOption

/-- The condition of a jump, if it has one. -/
def Renderer.jumpCondition (renderer : Renderer) (jump : Invocation) : RuleResult (List String) :=
  optional (jump.parameter? ParameterTag.condition 0) fun parameter => do
    let terms ← ofScript (Condition.read renderer.symbols parameter.payload)
    pure s!"if {Condition.render terms}"

/-- The semantic form of a jump with a target that has been worked out. -/
def Renderer.renderJump (renderer : Renderer) (jump : Invocation) (target : String) : Except ScriptError String :=
  match renderer.jumpCondition jump with
  | .ok condition => .ok (jump.head ++ "(" ++ ", ".intercalate (target :: condition) ++ ")")
  | .error (.missing _ _) => .ok jump.renderRaw
  | .error (.fault error) => .error (.rendering jump.address error)

theorem Renderer.render_jump {renderer : Renderer} {jump : Invocation} {word : Int32} (hmode : renderer.mode = .semantic)
    (hcommand : KnownCommand.ofName? jump.command.name = some .jump) (hword : jump.targetWord? = some word) :
    renderer.render jump = renderer.renderJump jump (jumpTarget renderer.invocations word) := by
  simp only [Invocation.targetWord?, Option.bind_eq_bind, Option.bind_eq_some_iff] at hword
  obtain ⟨parameter, hparameter, hread⟩ := hword
  have hpayload : parameter.payload.readWord 0 = .ok word := by
    cases hresult : parameter.payload.readWord 0 with
    | error e => simp [hresult, Except.toOption] at hread
    | ok read => simpa [hresult, Except.toOption] using hread
  have harguments : renderer.arguments .jump jump =
      (renderer.jumpCondition jump).map (jumpTarget renderer.invocations word :: ·) := by
    simp only [arguments, Invocation.required, hparameter, hpayload, ofScript, bind, Except.bind, jumpCondition]
    cases optional (jump.parameter? ParameterTag.condition 0) _ <;> rfl
  simp only [render, hmode, hcommand, harguments, renderJump]
  cases renderer.jumpCondition jump with
  | ok condition => rfl
  | error failure => cases failure <;> rfl

/-! ## Where jumps lead -/

/-- The line of the first instruction at an address. -/
def lineAt? (instructions : List Invocation) (address : Int) : Option Int16 :=
  (instructions.find? fun instruction => (instruction.address : Int) = address).map (·.line)

/-- What a jump shows as its target: a line, or its word where there is none. -/
def jumpText (line? : Option Int16) (word : Int32) : String :=
  match line? with
  | some line => toString line.toInt
  | none => s!"@0x{Hex.fixed 8 word.toUInt32.toNat}"

theorem lineAt?_map_place (instructions : List Invocation) (base origin : Nat) (address : Int) :
    lineAt? (instructions.map (Invocation.place base origin)) address = lineAt? instructions (address - base) := by
  have hsame : ∀ instruction : Invocation, ((instruction.place base origin).address : Int) = address ↔
      (instruction.address : Int) = address - base := by
    intro instruction
    simp only [Invocation.place]
    omega
  simp only [lineAt?, List.find?_map, Function.comp_def, hsame, Option.map_map]
  rfl

/-- A jump looks for the place that its target had when the instructions were read. -/
theorem jumpTarget_map_place (instructions : List Invocation) (base origin : Nat) (word : Int32)
    (hparsed : ∀ instruction ∈ instructions, instruction.parsedAddress = instruction.address)
    (hlt : ∀ instruction ∈ instructions, origin + instruction.address < sizeLimit) :
    jumpTarget (instructions.map (Invocation.place base origin)) word = jumpText (lineAt? instructions (word.toInt - origin)) word := by
  induction instructions with
  | nil => rfl
  | cons instruction rest ih =>
    have hfirst : origin + instruction.address < 2 ^ 63 := by
      have hsmall := hlt instruction (List.mem_cons_self ..)
      simp only [sizeLimit] at hsmall
      omega
    have hsame : Int64.ofNat (instruction.place base origin).parsedAddress = word.toInt64 ↔
        (instruction.address : Int) = word.toInt - origin := by
      have haddress := hparsed instruction (List.mem_cons_self ..)
      rw [← Int64.toInt_inj, Int32.toInt_toInt64, Invocation.place, haddress, Int64.toInt_ofNat_of_lt hfirst]
      omega
    have ih' := ih (fun i hi => hparsed i (List.mem_cons_of_mem _ hi)) (fun i hi => hlt i (List.mem_cons_of_mem _ hi))
    by_cases hhit : (instruction.address : Int) = word.toInt - origin
    · simp only [jumpTarget, lineAt?, List.map_cons, List.find?_cons, decide_eq_true (hsame.2 hhit), decide_eq_true hhit, jumpText,
        Option.map_some]
      rfl
    · simp only [jumpTarget, lineAt?, List.map_cons, List.find?_cons, decide_eq_false (mt hsame.1 hhit), decide_eq_false hhit] at ih' ⊢
      exact ih'

/-- Instructions that are read at the same address are the same, so a line is found whichever of them comes first. -/
theorem lineAt?_address {buf : Bytes} {catalog : Catalog} {instructions : List Invocation} {target : Invocation}
    (hread : ∀ instruction ∈ instructions, Invocation.read buf catalog instruction.address = .ok instruction)
    (htarget : target ∈ instructions) : lineAt? instructions target.address = some target.line := by
  have hsome : (instructions.find? fun instruction => (instruction.address : Int) = target.address).isSome :=
    List.find?_isSome.2 ⟨target, htarget, by simp⟩
  obtain ⟨first, hfirst⟩ := Option.isSome_iff_exists.1 hsome
  have haddress : first.address = target.address := Int.ofNat.inj (by simpa using List.find?_some hfirst)
  have hsame := hread first (List.mem_of_find?_eq_some hfirst)
  rw [haddress, hread target htarget, Except.ok.injEq] at hsame
  rw [lineAt?, hfirst, hsame, Option.map_some]

theorem Invocation.parameter?_place (base origin : Nat) (invocation : Invocation) (tag : Int16) (nth : Nat) :
    (invocation.place base origin).parameter? tag nth = (invocation.parameter? tag nth).map (Parameter.moveBy base) := by
  simp only [parameter?, parametersWith, place, List.filter_map, List.getElem?_map]
  rfl

/-- Moving a jump leaves its target. -/
theorem Invocation.targetWord?_place (base origin : Nat) (invocation : Invocation) :
    (invocation.place base origin).targetWord? = invocation.targetWord? := by
  simp only [targetWord?, parameter?_place, Option.bind_eq_bind, Option.bind_map]
  rfl

/-! ## Jumps of edited scripts -/

/-- A jump of a script: the instruction at a place, whose target word is the address of another. -/
structure Script.HasJump (script : Script) (number : Nat) (target : Invocation) (word : Int32) : Prop where
  exists_jump : ∃ jump, script.invocations[number]? = some jump ∧ jump.command.name = "JUMP" ∧ jump.targetWord? = some word
  target_mem : target ∈ script.invocations
  word_eq : word.toInt = target.address

/-- The script shows the instruction at a place as a jump with a target. -/
def Script.ShowsJump (script : Script) (number : Nat) (target : String) : Prop :=
  ∃ jump, script.invocations[number]? = some jump ∧
    (script.renderer .semantic).render jump = (script.renderer .semantic).renderJump jump target

/-- The script of an image shows a jump with the line that stands where its target stood when the instructions were read. -/
theorem Image.showsJump_script {image : Image} {catalog : Catalog} (view : View) {number : Nat} {jump : Invocation} {word : Int32}
    (hruns : Runs image.body catalog image.entries (view.units.map (·.2))) (hlt : view.origin + image.body.size < sizeLimit)
    (hjump : (view.units.flatMap (·.2))[number]? = some jump) (hcommand : jump.command.name = "JUMP")
    (hword : jump.targetWord? = some word) :
    (image.script view).ShowsJump number (jumpText (lineAt? (view.units.flatMap (·.2)) (word.toInt - view.origin)) word) := by
  have htarget := jumpTarget_map_place (view.units.flatMap (·.2)) image.base view.origin word
    (fun _ hmem => Invocation.parsedAddress_of_read (hruns.read_of_mem hmem))
    (fun _ hmem => by
      have hle := (Invocation.within_of_read (hruns.read_of_mem hmem)).address_le
      omega)
  refine ⟨jump.place image.base view.origin, by simp [script, hjump], ?_⟩
  rw [← htarget]
  refine Renderer.render_jump rfl ?_ ((Invocation.targetWord?_place ..).trans hword)
  simp only [Invocation.place, hcommand]
  rfl

/-- A jump to where an instruction stood when the instructions were read shows the line of that instruction. -/
theorem Image.showsJump_script_of_mem {image : Image} {catalog : Catalog} (view : View) (target : Invocation) {number : Nat}
    {jump : Invocation} {word : Int32} (hruns : Runs image.body catalog image.entries (view.units.map (·.2)))
    (hlt : view.origin + image.body.size < sizeLimit) (hjump : (view.units.flatMap (·.2))[number]? = some jump)
    (hcommand : jump.command.name = "JUMP") (hword : jump.targetWord? = some word) (htarget : target ∈ view.units.flatMap (·.2))
    (hword_eq : word.toInt = view.origin + target.address) :
    (image.script view).ShowsJump number (toString target.line.toInt) := by
  have hline : lineAt? (view.units.flatMap (·.2)) target.address = some target.line :=
    lineAt?_address (fun _ hmem => hruns.read_of_mem hmem) htarget
  have hshown := Image.showsJump_script view hruns hlt hjump hcommand hword
  rw [show word.toInt - view.origin = target.address by omega, hline] at hshown
  exact hshown

/-- A jump of the script of an image and its target are instructions of its body. -/
theorem Image.exists_of_hasJump {image : Image} {view : View} {number : Nat} {target : Invocation} {word : Int32}
    (h : (image.script view).HasJump number target word) :
    ∃ jump inner, (view.units.flatMap (·.2))[number]? = some jump ∧ jump.command.name = "JUMP" ∧ jump.targetWord? = some word ∧
      inner ∈ view.units.flatMap (·.2) ∧ target = inner.place image.base view.origin ∧ word.toInt = image.base + inner.address := by
  obtain ⟨⟨placed, hplaced, hcommand, hword⟩, hmem, hword_eq⟩ := h
  obtain ⟨inner, htarget, rfl⟩ := List.mem_map.1 hmem
  simp only [script, List.getElem?_map, Option.map_eq_some_iff] at hplaced
  obtain ⟨jump, hjump, rfl⟩ := hplaced
  rw [Invocation.targetWord?_place] at hword
  exact ⟨jump, inner, hjump, hcommand, hword, htarget, rfl, hword_eq⟩

/-- The instruction that the sample jumps to. -/
def Invocation.sampleTarget : Invocation :=
  ⟨117, 117, 3, -1, 0, ⟨0, "NOP", []⟩, []⟩

theorem Script.hasJump_sample : sample.HasJump 0 .sampleTarget 117 :=
  ⟨⟨_, rfl, rfl, by rfl⟩, by decide +kernel, by decide⟩

/-- The sample with a first line that is nine bytes longer. -/
def Image.sampleEdited : Image :=
  Image.sample.retext 1 #[72, 101, 108, 108, 111, 32, 116, 104, 101, 114, 101, 46]

theorem Image.edit?_sample :
    Image.sample.edit? View.sample 0 "Hello there." 256 = some (Image.sampleEdited, ⟨0, 9, none⟩) := by
  rfl

end SceneScript
