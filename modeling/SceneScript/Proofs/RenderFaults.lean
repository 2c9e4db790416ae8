import SceneScript.Decompilation
import SceneScript.Proofs.EditFrame
import SceneScript.Proofs.Rules
import SceneScript.Proofs.Tiling

/-!
# What rendering can fail at

The payloads of a script that has been read are as long as their tags say (`Parameter.Sized`), and edits change no payload. The rules
of the semantic form read words of payloads, and of parameters of every kind but one no word that is missing. The exception is a
condition, which tells its own length: it may be shorter than the number of its terms asks for (`Condition.BreaksOff`). So an
instruction can be rendered unless one of its operands makes no sense, or it is a jump with such a condition
(`Script.renderFault_of_render`).
-/

namespace SceneScript

open Bytes

/-! ## Payloads as long as their tags say -/

/-- The payload is as long as the rule says. A payload with a count of operands starts with this count; one that tells its own length
may be too short for the word that tells it. -/
def LengthRule.Gives : LengthRule → Bytes → Prop
  | .fixed length, payload => payload.size = length
  | .counted, payload => ∃ count, payload.readInt32 0 = .ok count ∧ (payload.size : Int) = 8 * count.toInt + 4
  | .halfWord, payload => ∀ length, payload.readInt16 0 = .ok length → (payload.size : Int) = length.toInt
  | .word, payload => ∀ length, payload.readInt32 0 = .ok length → (payload.size : Int) = length.toInt

/-- The payload of the parameter is as long as its tag says. -/
def Parameter.Sized (parameter : Parameter) : Prop :=
  ∀ rule, LengthRule.ofTag? parameter.tag = some rule → rule.Gives parameter.payload

theorem LengthRule.gives_of_holds {rule : LengthRule} {buf payload : Bytes} {pos : Nat} (h : buf.Holds pos payload)
    (hlength : rule.length buf pos = .ok (payload.size : Int)) : rule.Gives payload := by
  cases rule with
  | fixed length =>
    rw [LengthRule.length, pure_eq_ok_iff] at hlength
    exact (Int.ofNat_inj.1 hlength).symm
  | counted =>
    simp only [LengthRule.length, bind_eq_ok_iff, pure_eq_ok_iff, readInt32_eq_ok_iff] at hlength
    obtain ⟨count, hcount, hsize⟩ := hlength
    have hword : (ofInt32 count).size = 4 := rfl
    exact ⟨count, readInt32_eq_ok_iff.2 (h.inner hcount (by omega)), hsize.symm⟩
  | halfWord =>
    intro length hread
    have hinFile : buf.readInt16 pos = .ok length := readInt16_eq_ok_iff.2 (h.trans (readInt16_eq_ok_iff.1 hread))
    rw [LengthRule.length, hinFile] at hlength
    exact (pure_eq_ok_iff.1 hlength).symm
  | word =>
    intro length hread
    have hinFile : buf.readInt32 pos = .ok length := readInt32_eq_ok_iff.2 (h.trans (readInt32_eq_ok_iff.1 hread))
    rw [LengthRule.length, hinFile] at hlength
    exact (pure_eq_ok_iff.1 hlength).symm

theorem sized_of_readParameters {buf : Bytes} {count pos : Nat} {parameters : List Parameter}
    (h : readParameters buf count pos = .ok parameters) : ∀ parameter ∈ parameters, parameter.Sized := by
  induction count generalizing pos parameters with
  | zero =>
    rw [readParameters, pure_eq_ok_iff] at h
    simp [← h]
  | succ count ih =>
    simp only [readParameters, bind_eq_ok_iff, pure_eq_ok_iff, slice_eq_ok_iff, parameterLength_eq_ok_iff] at h
    obtain ⟨tag, -, _, ⟨rule, hrule, hlength⟩, payload, ⟨rfl, hpayload⟩, rest, hrest, rfl⟩ := h
    intro parameter hparameter
    rcases List.mem_cons.1 hparameter with rfl | hparameter
    · intro other hother
      rw [hrule, Option.some.injEq] at hother
      subst hother
      exact LengthRule.gives_of_holds hpayload hlength
    · exact ih hrest parameter hparameter

/-- All parameters of the instruction are as long as their tags say. -/
def Invocation.Sized (invocation : Invocation) : Prop :=
  ∀ parameter ∈ invocation.parameters, parameter.Sized

theorem Invocation.sized_of_read {buf : Bytes} {catalog : Catalog} {pos : Nat} {invocation : Invocation}
    (h : read buf catalog pos = .ok invocation) : invocation.Sized := by
  obtain ⟨count, -, -, -, -, -, -, hparameters⟩ := exists_count_of_read h
  exact sized_of_readParameters hparameters

namespace Script

/-- The instructions of a script that has just been read are as long as their tags say. -/
theorem sized_of_parse? {bytes : Bytes} {catalog : Catalog} {encoding : Encoding} {script : Script}
    (h : parse? bytes catalog encoding = .ok (some script)) : ∀ invocation ∈ script.invocations, invocation.Sized := by
  obtain ⟨header, symbols, blocks, invocations, -, htable, rfl⟩ := parse?_eq_ok_some_iff.1 h
  obtain ⟨runs, hruns, rfl⟩ := Block.exists_blockRuns_of_readTable htable
  exact fun invocation hmem => Invocation.sized_of_read (hruns.read_of_mem invocation hmem)

/-- Bringing a script in line with a patch changes no payload. -/
theorem sized_rebase (script : Script) (patch : Patch) (bytes : Bytes) (h : ∀ invocation ∈ script.invocations, invocation.Sized) :
    ∀ invocation ∈ (script.rebase patch bytes).invocations, invocation.Sized := by
  intro invocation hmem
  obtain ⟨before, hbefore, rfl⟩ := List.mem_map.1 hmem
  intro parameter hparameter
  obtain ⟨unmoved, hunmoved, rfl⟩ := List.mem_map.1 hparameter
  exact h before hbefore unmoved hunmoved

/-- Requests change no payload. -/
theorem sized_runEdits {script : Script} (h : ∀ invocation ∈ script.invocations, invocation.Sized) (requests : List EditRequest) :
    ∀ invocation ∈ (script.runEdits requests).invocations, invocation.Sized :=
  runEdits_of_rebase (P := fun script => ∀ invocation ∈ script.invocations, invocation.Sized) sized_rebase h requests

end Script

/-! ## Operands -/

/-- A word that a payload has room for can be read. -/
theorem Bytes.exists_readWord {payload : Bytes} {k : Nat} (h : 4 * k + 4 ≤ payload.size) : ∃ word, payload.readWord k = .ok word := by
  have hpos : wordOffset k + 4 ≤ payload.size := by
    have hle : wordOffset k ≤ 4 * k := Nat.mod_le ..
    omega
  obtain ⟨part, hpart⟩ : ∃ part, payload.slice (wordOffset k) 4 = .ok part :=
    ⟨_, by rw [slice, ensure, if_pos hpos]; rfl⟩
  exact ⟨_, by rw [readWord, readInt32, readUInt32, hpart]; rfl⟩

/-- What an operand can be refused for, whatever its payload: a memory cell among the system flags, or a symbol that is not in the
table. -/
inductive OperandFault (symbols : SymbolTable) : ScriptError → Prop where
  | memory {index : Int32} (h : index < Operand.memoryBase) : OperandFault symbols (.illegalMemoryCell index)
  | symbol {index : Int} (h : index < 0 ∨ symbols.size ≤ index.toNat) :
    OperandFault symbols (.symbolOutOfRange index symbols.size)

namespace Operand

variable {symbols : SymbolTable} {payload : Bytes}

theorem failsOnly_get (symbols : SymbolTable) (index : Int) : FailsOnly (OperandFault symbols) (symbols.get index) := by
  unfold SymbolTable.get
  split
  next hneg => exact .throw (.symbol (.inl hneg))
  next =>
    split
    next symbol _ => exact .of_ok rfl
    next hnone => exact .throw (.symbol (.inr (List.getElem?_eq_none_iff.1 hnone)))

theorem failsOnly_resolve (symbols : SymbolTable) (control value : Int32) :
    FailsOnly (OperandFault symbols) (resolve symbols control value) := by
  unfold resolve
  split
  · exact .of_ok rfl
  · split
    next hcell => exact .throw (.memory hcell)
    next => exact .of_ok rfl
  · exact .of_ok rfl
  · exact (failsOnly_get symbols _).bind fun name _ => .pure _
  · exact .of_ok rfl

theorem failsOnly_resolveAt {word : Nat} (h : 4 * word + 8 ≤ payload.size) :
    FailsOnly (OperandFault symbols) (resolveAt symbols payload word) := by
  obtain ⟨control, hcontrol⟩ := exists_readWord (k := word) (show _ ≤ payload.size by omega)
  obtain ⟨value, hvalue⟩ := exists_readWord (k := word + 1) (show _ ≤ payload.size by omega)
  exact (FailsOnly.of_ok hcontrol).bind fun _ _ => (FailsOnly.of_ok hvalue).bind fun _ _ => failsOnly_resolve symbols _ _

theorem failsOnly_time (h : payload.size = 12) : FailsOnly (OperandFault symbols) (time symbols payload) := by
  obtain ⟨unit, hunit⟩ := exists_readWord (k := 0) (show _ ≤ payload.size by omega)
  exact (FailsOnly.of_ok hunit).bind fun _ _ => (failsOnly_resolveAt (by omega)).bind fun _ _ => .pure _

theorem failsOnly_vector (h : payload.size = 24) : FailsOnly (OperandFault symbols) (vector symbols payload) :=
  (failsOnly_resolveAt (by omega)).bind fun _ _ => (failsOnly_resolveAt (by omega)).bind fun _ _ =>
    (failsOnly_resolveAt (by omega)).bind fun _ _ => .pure _

theorem failsOnly_resolveMany {count word : Nat} (h : 4 * word + 8 * count ≤ payload.size) :
    FailsOnly (OperandFault symbols) (resolveMany symbols payload count word) := by
  induction count generalizing word with
  | zero => exact .pure _
  | succ count ih =>
    exact (failsOnly_resolveAt (by omega)).bind fun _ _ => (ih (by omega)).bind fun _ _ => .pure _

/-- A list has room for as many operands as it says. -/
theorem failsOnly_list (h : LengthRule.counted.Gives payload) : FailsOnly (OperandFault symbols) (list symbols payload) := by
  obtain ⟨count, hcount, hsize⟩ := h
  refine (FailsOnly.of_ok (show payload.readWord 0 = .ok count from hcount)).bind fun found hfound => ?_
  rw [show payload.readWord 0 = .ok count from hcount, Except.ok.injEq] at hfound
  subst hfound
  exact (failsOnly_resolveMany (by omega)).bind fun _ _ => .pure _

end Operand

/-! ## Conditions -/

namespace Condition

/-- The condition is shorter than its header, or than its terms ask for, and this is the fault that reading it ends with. -/
inductive BreaksOff (payload : Bytes) : ScriptError → Prop where
  | inHeader (h : payload.size < headerSize) : BreaksOff payload (.unexpectedEnd 2 2 payload.size)
  | inTerm {count : Int16} {nth : Nat} (hcount : payload.readInt16 2 = .ok count) (hnth : nth < count.toInt.toNat)
    (h : payload.size < headerSize + termSize * (nth + 1)) :
    BreaksOff payload (.unexpectedEnd (headerSize + termSize * nth) termSize payload.size)

variable {symbols : SymbolTable} {payload : Bytes}

theorem failsOnly_slice (buf : Bytes) (offset count : Nat) :
    FailsOnly (fun e => buf.size < offset + count ∧ e = .unexpectedEnd offset count buf.size) (buf.slice offset count) := by
  unfold slice ensure
  split
  next => exact .of_ok rfl
  next hpast => exact .throw ⟨by omega, rfl⟩

/-- A term that is there has room for its operands. -/
theorem failsOnly_readTerm (offset : Nat) :
    FailsOnly (fun e => OperandFault symbols e ∨
        (payload.size < offset + termSize ∧ e = .unexpectedEnd offset termSize payload.size))
      (readTerm symbols payload offset) := by
  refine ((failsOnly_slice payload offset termSize).mono fun _ h => .inr h).bind fun term hterm => ?_
  obtain ⟨hsize, -⟩ := slice_eq_ok_iff.1 hterm
  have hpairs : (term.extract 2 termSize).size = 16 := by
    rw [Array.size_extract, hsize]
    rfl
  have hoperand : ∀ word, 4 * word + 8 ≤ 16 → FailsOnly (fun e => OperandFault symbols e ∨
      (payload.size < offset + termSize ∧ e = .unexpectedEnd offset termSize payload.size))
      (Operand.resolveAt symbols (term.extract 2 termSize) word) := fun word hword =>
    (Operand.failsOnly_resolveAt (by omega)).mono fun _ h => .inl h
  exact (hoperand 0 (by omega)).bind fun _ _ => (hoperand 2 (by omega)).bind fun _ _ => .pure _

/-- Terms fail at an operand, or at the first one that the payload has no room for. -/
theorem failsOnly_readTerms (count offset : Nat) :
    FailsOnly (fun e => OperandFault symbols e ∨ ∃ nth < count, payload.size < offset + termSize * (nth + 1) ∧
        e = .unexpectedEnd (offset + termSize * nth) termSize payload.size)
      (readTerms symbols payload count offset) := by
  induction count generalizing offset with
  | zero => exact .pure _
  | succ count ih =>
    refine FailsOnly.bind ((failsOnly_readTerm offset).mono ?_) fun term _ => FailsOnly.bind ((ih (offset + termSize)).mono ?_) fun rest _ =>
      .pure _
    · rintro e (h | ⟨hsize, rfl⟩)
      · exact .inl h
      · exact .inr ⟨0, by omega, by simpa using hsize, by simp⟩
    · rintro e (h | ⟨nth, hnth, hsize, rfl⟩)
      · exact .inl h
      · refine .inr ⟨nth + 1, by omega, ?_, ?_⟩
        · simp only [termSize] at hsize ⊢
          omega
        · simp only [Nat.mul_add, Nat.mul_one, Nat.add_assoc, Nat.add_comm termSize]

/-- A condition fails at an operand, or where it breaks off. -/
theorem failsOnly_read : FailsOnly (fun e => OperandFault symbols e ∨ BreaksOff payload e) (read symbols payload) := by
  refine FailsOnly.bind ?_ fun count hcount => (failsOnly_readTerms _ _).mono ?_
  · -- Only the two bytes of the count are read from the header.
    refine FailsOnly.bind (FailsOnly.bind ((failsOnly_slice payload 2 2).mono ?_) fun _ _ => .pure _) fun _ _ => .pure _
    rintro e ⟨hsize, rfl⟩
    exact .inr (.inHeader hsize)
  · rintro e (h | ⟨nth, hnth, hsize, rfl⟩)
    · exact .inl h
    · exact .inr (.inTerm hcount hnth hsize)

end Condition

/-! ## Rules -/

/-- The rule that gives payloads with pairs their length. -/
def PairLayout.rule : PairLayout → LengthRule
  | single => .fixed 8
  | time => .fixed 12
  | vector => .fixed 24
  | list => .counted
  | condition => .halfWord

/-- Pairs are read from parameters whose tag says that they have them. -/
theorem KnownCommand.ofTag?_of_mem_pairSources {known : KnownCommand} {source : PairSource} (h : source ∈ known.pairSources) :
    LengthRule.ofTag? source.tag = some source.layout.rule := by
  revert source
  cases known <;> decide

/-- Words that are shown on their own are their whole parameter. -/
theorem KnownCommand.ofTag?_of_mem_words {known : KnownCommand} {tag : Int16} (h : tag ∈ known.words) :
    LengthRule.ofTag? tag = some (.fixed 4) := by
  cases known with
  | evMode | jump | flag | topicGet | appear =>
    obtain rfl := List.mem_singleton.1 h
    rfl
  | sceneSet | wait | set | fi | evStart | turn => exact absurd h List.not_mem_nil

/-- Only jumps have conditions. -/
theorem KnownCommand.eq_jump_of_mem_pairSources {known : KnownCommand} {tag : Int16} {nth? : Option Nat}
    (h : ⟨tag, nth?, .condition⟩ ∈ known.pairSources) : known = .jump ∧ tag = ParameterTag.condition ∧ nth? = some 0 := by
  cases known <;> simp_all [pairSources]

/-- The parameters with a tag are as long as the tag says. -/
theorem Invocation.Sized.gives {invocation : Invocation} {tag : Int16} (h : invocation.Sized) {rule : LengthRule}
    (hrule : LengthRule.ofTag? tag = some rule) {parameter : Parameter} (hmem : parameter ∈ invocation.parametersWith tag) :
    rule.Gives parameter.payload := by
  obtain ⟨hparameter, htag⟩ := List.mem_filter.1 hmem
  rw [decide_eq_true_eq] at htag
  exact h parameter hparameter rule (htag ▸ hrule)

/-- Reading the pairs of a payload with enough room fails at an operand, or where a condition breaks off. -/
theorem PairLayout.fault_of_failsAt {layout : PairLayout} {symbols : SymbolTable} {payload : Bytes} {cause : ScriptError}
    (hgives : layout.rule.Gives payload) (h : layout.FailsAt symbols payload cause) :
    OperandFault symbols cause ∨ layout = .condition ∧ Condition.BreaksOff payload cause := by
  cases layout with
  | single => exact .inl (Operand.failsOnly_resolveAt (Nat.le_of_eq hgives.symm) cause h)
  | time => exact .inl (Operand.failsOnly_time hgives cause h)
  | vector => exact .inl (Operand.failsOnly_vector hgives cause h)
  | list => exact .inl (Operand.failsOnly_list hgives cause h)
  | condition => exact (Condition.failsOnly_read cause h).imp_right fun hbreaks => ⟨rfl, hbreaks⟩

/-! ## Invocations -/

/-- What the semantic form of an instruction can fail at, with the address of the instruction: an operand that makes no sense, or, for
a jump, its condition, whose declared length is too short for its header or its terms. -/
inductive Invocation.RenderFault (symbols : SymbolTable) (invocation : Invocation) : ScriptError → Prop where
  | operand {cause : ScriptError} (h : OperandFault symbols cause) : RenderFault symbols invocation (.rendering invocation.address cause)
  | condition {parameter : Parameter} {cause : ScriptError} (hjump : KnownCommand.ofName? invocation.command.name = some .jump)
    (hparameter : invocation.parameter? ParameterTag.condition 0 = some parameter) (hlength : LengthRule.halfWord.Gives parameter.payload)
    (h : Condition.BreaksOff parameter.payload cause) :
    RenderFault symbols invocation (.rendering invocation.address cause)

/-- If the rule of an instruction whose payloads are as long as their tags say fails at something that is there, it fails for one of
these reasons. -/
theorem Invocation.Fails.renderFault {invocation : Invocation} {known : KnownCommand} {symbols : SymbolTable} {cause : ScriptError}
    (h : invocation.Fails known symbols (.fault cause)) (hsized : invocation.Sized)
    (hknown : KnownCommand.ofName? invocation.command.name = some known) :
    invocation.RenderFault symbols (.rendering invocation.address cause) := by
  cases h with
  | word htag hparameter h =>
    have hgives := hsized.gives (KnownCommand.ofTag?_of_mem_words htag) hparameter
    obtain ⟨word, hword⟩ := exists_readWord (k := 0) (Nat.le_of_eq hgives.symm)
    rw [hword] at h
    cases h
  | @pairs source parameter _ hsource hparameter h =>
    have hmem := PairSource.mem_parametersWith hparameter
    have hgives := hsized.gives (KnownCommand.ofTag?_of_mem_pairSources hsource) hmem
    rcases PairLayout.fault_of_failsAt hgives h with hoperand | ⟨hlayout, hbreaks⟩
    · exact .operand hoperand
    · obtain ⟨tag, nth?, layout⟩ := source
      subst hlayout
      obtain ⟨rfl, rfl, rfl⟩ := KnownCommand.eq_jump_of_mem_pairSources hsource
      exact .condition hknown (Option.mem_toList.1 hparameter) hgives hbreaks
  | topicIndex _ hparameter h =>
    have hgives : LengthRule.Gives (.fixed 2) _ := hsized.gives rfl (Invocation.mem_of_parameter? hparameter)
    rw [readInt16, readUInt16, slice, ensure, if_pos (Nat.le_of_eq hgives.symm)] at h
    cases h
  | topic _ _ _ h => exact .operand (Operand.failsOnly_get symbols _ cause h)

/-- An instruction whose payloads are as long as their tags say fails to be rendered only for these reasons. -/
theorem Renderer.fault_of_render {renderer : Renderer} {invocation : Invocation} (hsized : invocation.Sized) {e : ScriptError}
    (h : renderer.render invocation = .error e) : invocation.RenderFault renderer.symbols e := by
  unfold render at h
  split at h
  next known _ hknown =>
    split at h
    next => nomatch h
    next => nomatch h
    next cause hcause =>
      cases h
      exact (failsOnly_arguments _ hcause).renderFault hsized hknown
  next => nomatch h

/-- Whatever edits a script has seen since it was read, every instruction has its raw form, and its semantic form fails only at an
operand that makes no sense, or at the condition of a jump that is shorter than its header or its terms ask for. -/
theorem Script.renderFault_of_render {bytes : Bytes} {catalog : Catalog} {encoding : Encoding} {script : Script}
    (h : parse? bytes catalog encoding = .ok (some script)) (requests : List EditRequest) :
    ∀ invocation ∈ (script.runEdits requests).invocations,
      ((script.runEdits requests).renderer .raw).render invocation = .ok invocation.renderRaw ∧
      ∀ e, ((script.runEdits requests).renderer .semantic).render invocation = .error e →
        invocation.RenderFault (script.runEdits requests).symbols e := by
  intro invocation hmem
  exact ⟨rfl, fun e he => Renderer.fault_of_render (sized_runEdits (sized_of_parse? h) requests invocation hmem) he⟩

/-! ## A sample with a condition that breaks off -/

/-- The file of a script with two spoken lines, whose one instruction is a jump. The condition of the jump has two bytes, which say that
it has two. -/
def Image.sampleBroken : Image where
  texts := sample.texts
  entries := [⟨0, 1, 0⟩]
  body := #[0, 2, 255, 255, 0, 1, 0, 2, 0, 0, 0, 0, 0, 0, 0, 0, 0, 99, 0, 2, 0, 2, 0, 0, 0, 0, 0, 0, 0, 0]

/-- What is known of it besides its file. -/
def View.sampleBroken : View where
  encoding := .shiftJis
  units := [("MAIN", [⟨0, 0, 2, -1, 1, ⟨1, "JUMP", [0x00, 0x02]⟩,
    [⟨ParameterTag.jumpTarget, 14, #[0, 0, 0, 99]⟩, ⟨ParameterTag.condition, 20, #[0, 2]⟩]⟩])]
  origin := 99
  marks := View.sample.marks

/-- It as a script. -/
def Script.sampleBroken : Script :=
  Image.sampleBroken.script View.sampleBroken

theorem Image.valid_sampleBroken : Image.sampleBroken.Valid .shiftJis := by
  refine ⟨valid_sample.name, by decide, by decide, by decide, ?_⟩
  rw [size_toBytes]
  decide

theorem Image.runs_sampleBroken :
    Runs Image.sampleBroken.body Catalog.sample Image.sampleBroken.entries (View.sampleBroken.units.map (·.2)) :=
  .cons (.next (by decide) (by rfl) (by decide) (.trailer (by decide))) .nil

theorem Image.named_sampleBroken :
    Named (Image.sampleBroken.texts.symbolTable .shiftJis) Image.sampleBroken.entries View.sampleBroken.units :=
  .cons (by rfl) .nil

theorem Image.freshView_sampleBroken : Image.sampleBroken.freshView .shiftJis View.sampleBroken.units = View.sampleBroken := by
  have hmarks : (Image.sampleBroken.texts.symbolTable .shiftJis).marks = View.sampleBroken.marks := marks_sample
  rw [freshView, hmarks]
  rfl

theorem Script.consistent_sampleBroken : sampleBroken.Consistent Catalog.sample := by
  rw [sampleBroken, ← Image.freshView_sampleBroken]
  exact Image.consistent Image.valid_sampleBroken Image.runs_sampleBroken Image.named_sampleBroken (by decide)

theorem Image.fits_sampleBroken : View.sampleBroken.Fits sampleBroken := by
  rw [← freshView_sampleBroken]
  exact fits_freshView runs_sampleBroken named_sampleBroken

theorem Script.staysSmall_sampleBroken : sampleBroken.StaysSmall sampleRequests := by
  refine Image.staysSmall_script Image.valid_sampleBroken Image.fits_sampleBroken ?_
  rw [Image.size_toBytes]
  decide

/-- The file of the sample once the requests for its first line are through. -/
def Image.sampleBrokenGreeting : Image :=
  sampleBroken.retext 1 #[72, 101, 108, 108, 111, 32, 116, 104, 101, 114, 101, 46]

theorem Image.runEdits_sampleBroken : sampleBroken.runEdits View.sampleBroken Script.sampleRequests = sampleBrokenGreeting := by
  rfl

/-- Its jump. -/
def Invocation.sampleBroken : Invocation :=
  ⟨108, 99, 2, -1, 1, ⟨1, "JUMP", [0x00, 0x02]⟩,
    [⟨ParameterTag.jumpTarget, 122, #[0, 0, 0, 99]⟩, ⟨ParameterTag.condition, 128, #[0, 2]⟩]⟩

/-- The jump has its raw form, and the semantic one breaks off in the header of the condition. -/
theorem Script.renderFault_sampleBroken :
    parse? sampleBroken.bytes Catalog.sample sampleBroken.encoding = .ok (some sampleBroken) ∧
      .sampleBroken ∈ (sampleBroken.runEdits sampleRequests).invocations ∧
      ((sampleBroken.runEdits sampleRequests).renderer .raw).render .sampleBroken = .ok Invocation.sampleBroken.renderRaw ∧
      ((sampleBroken.runEdits sampleRequests).renderer .semantic).render .sampleBroken = .error (.rendering 108 (.unexpectedEnd 2 2 2)) ∧
      Invocation.sampleBroken.RenderFault (sampleBroken.runEdits sampleRequests).symbols (.rendering 108 (.unexpectedEnd 2 2 2)) := by
  have hrun : sampleBroken.runEdits sampleRequests = Image.sampleBrokenGreeting.script View.sampleBroken := by
    rw [← Image.runEdits_sampleBroken]
    exact (Image.runEdits_script Image.valid_sampleBroken Image.fits_sampleBroken staysSmall_sampleBroken).1
  have hmem : .sampleBroken ∈ (sampleBroken.runEdits sampleRequests).invocations := by
    rw [hrun]
    exact List.mem_cons_self ..
  have hfault : ((sampleBroken.runEdits sampleRequests).renderer .semantic).render .sampleBroken =
      .error (.rendering 108 (.unexpectedEnd 2 2 2)) := by
    rw [hrun]
    rfl
  obtain ⟨hraw, hsemantic⟩ := renderFault_of_render consistent_sampleBroken.parsed sampleRequests _ hmem
  exact ⟨consistent_sampleBroken.parsed, hmem, hraw, hfault, hsemantic _ hfault⟩

end SceneScript
