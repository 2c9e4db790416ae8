import SceneScript.Proofs.RenderFaults

/-!
# Illegal operands

A pair of words is no operand if it means a memory cell among the system flags or a symbol that is not in the table (`IllegalPair`).
The rules of the semantic form read pairs in several ways: on their own, behind the unit of a time, three in a vector, in lists, and in
the terms of a condition; the destination of `SET` has a check of its own. Whatever the way, an instruction with an illegal pair is not
rendered, and an instruction without one is, unless a payload ends too early or a topic is not in the table
(`Renderer.render_of_illegalPair`).
-/

namespace SceneScript

open Bytes

/-! ## Pairs -/

/-- A pair of control code and value that names no operand: a memory cell among the system flags, or a symbol that is not in the table. -/
inductive IllegalPair (symbols : SymbolTable) : Int32 → Int32 → Prop where
  | memory {cell : Int32} (h : cell < 0x124F) : IllegalPair symbols 0x302 cell
  | symbol {index : Int32} (h : index.toInt < 0 ∨ symbols.size ≤ index.toInt) : IllegalPair symbols 0x304 index

namespace Control

/-- The code of a meaning. -/
def code : Control → Int32
  | literal => 0x300
  | memory => 0x302
  | moduleMemory => 0x303
  | symbol => 0x304

theorem ofCode?_eq_some_iff {control : Control} {code : Int32} : ofCode? code = some control ↔ code = control.code := by
  constructor
  · intro h
    unfold ofCode? at h
    split at h <;> cases h
    all_goals
      next hcode => exact Int32.toInt_inj.1 hcode
  · rintro rfl
    cases control <;> decide

end Control

theorem SymbolTable.exists_get_iff {symbols : SymbolTable} {index : Int} :
    (∃ text, symbols.get index = .ok text) ↔ ¬(index < 0 ∨ symbols.size ≤ index) := by
  rw [get]
  split
  next hneg => simp [hneg]
  next hpos =>
    have hlt : symbols.size ≤ index ↔ symbols.symbols.length ≤ index.toNat := by
      rw [size]
      omega
    rw [hlt, or_iff_right hpos]
    cases hread : symbols.symbols[index.toNat]? with
    | none => exact iff_of_false nofun (not_not_intro (List.getElem?_eq_none_iff.1 hread))
    | some symbol => exact iff_of_true ⟨_, rfl⟩ (Nat.not_le_of_lt (List.getElem?_eq_some_iff.1 hread).1)

/-- Illegal pairs are those that cannot be resolved. -/
theorem Operand.exists_resolve_iff {symbols : SymbolTable} {control value : Int32} :
    (∃ operand, resolve symbols control value = .ok operand) ↔ ¬IllegalPair symbols control value := by
  constructor
  · rintro ⟨operand, h⟩ (hcell | hindex)
    · rw [resolve, show Control.ofCode? 0x302 = some .memory by decide] at h
      change (if value < memoryBase then .error (.illegalMemoryCell value) else .ok (memory value) : Except ScriptError Operand) = _ at h
      rw [if_pos (show value < memoryBase from hcell)] at h
      cases h
    · rw [resolve, show Control.ofCode? 0x304 = some .symbol by decide] at h
      simp only [bind_eq_ok_iff] at h
      obtain ⟨text, hget, -⟩ := h
      exact SymbolTable.exists_get_iff.1 ⟨text, hget⟩ hindex
  · intro hlegal
    unfold resolve
    split
    · exact ⟨_, rfl⟩
    next hmemory =>
      obtain rfl := Control.ofCode?_eq_some_iff.1 hmemory
      have hcell : ¬value < memoryBase := fun hcell => hlegal (.memory hcell)
      rw [if_neg hcell]
      exact ⟨_, rfl⟩
    · exact ⟨_, rfl⟩
    next hsymbol =>
      obtain rfl := Control.ofCode?_eq_some_iff.1 hsymbol
      obtain ⟨text, hget⟩ := SymbolTable.exists_get_iff.2 fun hindex => hlegal (.symbol hindex)
      rw [hget]
      exact ⟨_, rfl⟩
    · exact ⟨_, rfl⟩

/-! ## Where pairs are read -/

/-- The positions of the pairs in a payload. Counts may promise more than there is. -/
def PairLayout.offsets (payload : Bytes) : PairLayout → List Nat
  | single => [0]
  | time => [4]
  | vector => [0, 8, 16]
  | list =>
    match payload.readInt32 0 with
    | .ok count => (List.range count.toInt.toNat).map fun nth => 4 + 8 * nth
    | .error _ => []
  | condition =>
    match payload.readInt16 2 with
    | .ok count => (List.range count.toInt.toNat).flatMap fun nth => [4 + 18 * nth + 2, 4 + 18 * nth + 10]
    | .error _ => []

/-- The rule of the command reads the pair from the instruction. -/
def Invocation.Consumes (invocation : Invocation) (known : KnownCommand) (control value : Int32) : Prop :=
  ∃ source ∈ known.pairSources, ∃ parameter ∈ source.parameters invocation, ∃ offset ∈ source.layout.offsets parameter.payload,
    parameter.payload.readInt32 offset = .ok control ∧ parameter.payload.readInt32 (offset + 4) = .ok value

/-- The rule of the command reads an illegal pair from the instruction. -/
def Invocation.HasIllegalPair (invocation : Invocation) (known : KnownCommand) (symbols : SymbolTable) : Prop :=
  ∃ control value, invocation.Consumes known control value ∧ IllegalPair symbols control value

/-! ## Legal payloads

A payload whose pairs are legal is read unless it ends too early, and only such a payload is read. -/

/-- If there is a pair at the position, it is legal. -/
def LegalAt (symbols : SymbolTable) (payload : Bytes) (offset : Nat) : Prop :=
  ∀ control value, payload.readInt32 offset = .ok control → payload.readInt32 (offset + 4) = .ok value →
    ¬IllegalPair symbols control value

/-- All pairs of the payload are legal. -/
def PairLayout.Legal (layout : PairLayout) (symbols : SymbolTable) (payload : Bytes) : Prop :=
  ∀ offset ∈ layout.offsets payload, LegalAt symbols payload offset

/-- The fault of a read past the end. -/
def ScriptError.IsEnd (e : ScriptError) : Prop :=
  ∃ offset needed size, e = .unexpectedEnd offset needed size

theorem Bytes.failsOnly_slice_isEnd (buf : Bytes) (offset count : Nat) : FailsOnly ScriptError.IsEnd (buf.slice offset count) :=
  (Condition.failsOnly_slice buf offset count).mono fun _ h => ⟨_, _, _, h.2⟩

theorem Bytes.failsOnly_readInt16_isEnd (buf : Bytes) (offset : Nat) : FailsOnly ScriptError.IsEnd (buf.readInt16 offset) :=
  ((buf.failsOnly_slice_isEnd offset 2).bind fun _ _ => .pure _).bind fun _ _ => .pure _

theorem Bytes.failsOnly_readWord_isEnd (payload : Bytes) (k : Nat) : FailsOnly ScriptError.IsEnd (payload.readWord k) :=
  ((payload.failsOnly_slice_isEnd (wordOffset k) 4).bind fun _ _ => .pure _).bind fun _ _ => .pure _

section

variable {symbols : SymbolTable} {payload : Bytes}

/-- A pair of a part of a payload is one of the payload. -/
theorem legalAt_iff_of_holds {part : Bytes} {start offset : Nat} (hpart : payload.Holds start part) (hfit : offset + 8 ≤ part.size) :
    LegalAt symbols part offset ↔ LegalAt symbols payload (start + offset) := by
  have hread : ∀ {word inner}, inner + 4 ≤ part.size → (part.readInt32 inner = .ok word ↔ payload.readInt32 (start + inner) = .ok word) := by
    intro word inner hinner
    rw [readInt32_eq_ok_iff, readInt32_eq_ok_iff]
    exact ⟨hpart.trans, fun h => hpart.inner h hinner⟩
  simp only [LegalAt, hread (show offset + 4 ≤ part.size by omega), hread (show offset + 4 + 4 ≤ part.size by omega), Nat.add_assoc]

namespace Operand

theorem legalAt_of_resolveAt {word : Nat} {operand : Operand} (hword : 4 * word + 4 < UInt64.size)
    (h : resolveAt symbols payload word = .ok operand) : LegalAt symbols payload (4 * word) := by
  simp only [resolveAt, bind_eq_ok_iff, readWord, wordOffset] at h
  rw [Nat.mod_eq_of_lt (by omega), Nat.mod_eq_of_lt (by omega)] at h
  obtain ⟨control, hcontrol, value, hvalue, hresolve⟩ := h
  intro control' value' hcontrol' hvalue'
  obtain rfl : control = control' := Except.ok.inj (hcontrol.symm.trans hcontrol')
  obtain rfl : value = value' := Except.ok.inj (hvalue.symm.trans hvalue')
  exact exists_resolve_iff.1 ⟨operand, hresolve⟩

theorem failsOnly_resolveAt_of_legalAt {word : Nat} (hword : 4 * word + 4 < UInt64.size) (h : LegalAt symbols payload (4 * word)) :
    FailsOnly ScriptError.IsEnd (resolveAt symbols payload word) := by
  refine (payload.failsOnly_readWord_isEnd _).bind fun control hcontrol => (payload.failsOnly_readWord_isEnd _).bind fun value hvalue => ?_
  rw [readWord, wordOffset, Nat.mod_eq_of_lt (by omega)] at hcontrol hvalue
  obtain ⟨operand, hresolve⟩ := exists_resolve_iff.2 (h control value hcontrol hvalue)
  exact .of_ok hresolve

theorem legal_of_time {text : String} (h : time symbols payload = .ok text) : PairLayout.time.Legal symbols payload := by
  simp only [time, bind_eq_ok_iff] at h
  obtain ⟨_, -, amount, hamount, -⟩ := h
  exact List.forall_mem_singleton.2 (legalAt_of_resolveAt (by decide) hamount)

theorem failsOnly_time_of_legal (h : PairLayout.time.Legal symbols payload) : FailsOnly ScriptError.IsEnd (time symbols payload) := by
  refine (payload.failsOnly_readWord_isEnd 0).bind fun _ _ => ?_
  exact (failsOnly_resolveAt_of_legalAt (by decide) (h 4 (List.mem_singleton.2 rfl))).bind fun _ _ => .pure _

theorem legal_of_vector {text : String} (h : vector symbols payload = .ok text) : PairLayout.vector.Legal symbols payload := by
  simp only [vector, bind_eq_ok_iff] at h
  obtain ⟨x, hx, y, hy, z, hz, -⟩ := h
  refine List.forall_mem_cons.2 ⟨legalAt_of_resolveAt (by decide) hx, List.forall_mem_cons.2 ⟨?_, List.forall_mem_singleton.2 ?_⟩⟩
  · exact legalAt_of_resolveAt (by decide) hy
  · exact legalAt_of_resolveAt (by decide) hz

theorem failsOnly_vector_of_legal (h : PairLayout.vector.Legal symbols payload) : FailsOnly ScriptError.IsEnd (vector symbols payload) := by
  simp only [PairLayout.Legal, PairLayout.offsets, List.forall_mem_cons, List.not_mem_nil, false_imp_iff, implies_true, and_true] at h
  obtain ⟨hx, hy, hz⟩ := h
  refine (failsOnly_resolveAt_of_legalAt (by decide) hx).bind fun _ _ => ?_
  refine (failsOnly_resolveAt_of_legalAt (by decide) hy).bind fun _ _ => ?_
  exact (failsOnly_resolveAt_of_legalAt (by decide) hz).bind fun _ _ => .pure _

theorem legalAt_of_resolveMany {count word : Nat} {operands : List Operand} (hword : 4 * (word + 2 * count) < UInt64.size)
    (h : resolveMany symbols payload count word = .ok operands) : ∀ nth < count, LegalAt symbols payload (4 * (word + 2 * nth)) := by
  induction count generalizing word operands with
  | zero => simp
  | succ count ih =>
    simp only [resolveMany, bind_eq_ok_iff] at h
    obtain ⟨first, hfirst, rest, hrest, -⟩ := h
    intro nth hnth
    cases nth with
    | zero => exact legalAt_of_resolveAt (by omega) hfirst
    | succ nth =>
      have hlegal := ih (by omega) hrest nth (by omega)
      rwa [show word + 2 + 2 * nth = word + 2 * (nth + 1) by omega] at hlegal

theorem failsOnly_resolveMany_of_legalAt {count word : Nat} (hword : 4 * (word + 2 * count) < UInt64.size)
    (h : ∀ nth < count, LegalAt symbols payload (4 * (word + 2 * nth))) :
    FailsOnly ScriptError.IsEnd (resolveMany symbols payload count word) := by
  induction count generalizing word with
  | zero => exact .pure _
  | succ count ih =>
    have hfirst : LegalAt symbols payload (4 * word) := h 0 (by omega)
    refine (failsOnly_resolveAt_of_legalAt (by omega) hfirst).bind fun _ _ => FailsOnly.bind (ih (by omega) ?_) fun _ _ => .pure _
    intro nth hnth
    have hlegal := h (nth + 1) (by omega)
    rwa [show word + 2 * (nth + 1) = word + 2 + 2 * nth by omega] at hlegal

/-- The pairs of a list are as many as its count says. -/
theorem legal_list_iff {count : Int32} (hcount : payload.readWord 0 = .ok count) : PairLayout.list.Legal symbols payload ↔
    4 * (1 + 2 * count.toInt.toNat) < UInt64.size ∧ ∀ nth < count.toInt.toNat, LegalAt symbols payload (4 * (1 + 2 * nth)) := by
  change payload.readInt32 0 = .ok count at hcount
  have hlt := count.toInt_lt
  have hoffset : ∀ nth, 4 * (1 + 2 * nth) = 4 + 8 * nth := by omega
  rw [and_iff_right (by simp only [UInt64.size]; omega)]
  simp only [PairLayout.Legal, PairLayout.offsets, hcount, List.forall_mem_map, List.mem_range, hoffset]

theorem legal_of_list {text : String} (h : list symbols payload = .ok text) : PairLayout.list.Legal symbols payload := by
  simp only [list, bind_eq_ok_iff] at h
  obtain ⟨count, hcount, operands, hoperands, -⟩ := h
  have hlt := count.toInt_lt
  have hroom : 4 * (1 + 2 * count.toInt.toNat) < UInt64.size := by
    simp only [UInt64.size]
    omega
  exact (legal_list_iff hcount).2 ⟨hroom, legalAt_of_resolveMany hroom hoperands⟩

theorem failsOnly_list_of_legal (h : PairLayout.list.Legal symbols payload) : FailsOnly ScriptError.IsEnd (list symbols payload) := by
  refine (payload.failsOnly_readWord_isEnd 0).bind fun count hcount => ?_
  obtain ⟨hroom, hlegal⟩ := (legal_list_iff hcount).1 h
  exact (failsOnly_resolveMany_of_legalAt hroom hlegal).bind fun _ _ => .pure _

end Operand

namespace Condition

/-- The pairs of a term, which are read from a copy of its bytes. -/
theorem holds_pairs_of_slice {offset : Nat} {bytes : Bytes} (h : payload.slice offset termSize = .ok bytes) :
    payload.Holds (offset + 2) (bytes.extract 2 termSize) ∧ (bytes.extract 2 termSize).size = 16 := by
  obtain ⟨hsize, hholds⟩ := slice_eq_ok_iff.1 h
  have hpairs : (bytes.extract 2 termSize).size = 16 := by
    rw [Array.size_extract, hsize]
    rfl
  refine ⟨hholds.trans ⟨?_, ?_⟩, hpairs⟩
  · rw [hpairs, hsize]
    decide
  · rw [hpairs]
    rfl

theorem legalAt_of_readTerm {offset : Nat} {term : ConditionTerm} (h : readTerm symbols payload offset = .ok term) :
    LegalAt symbols payload (offset + 2) ∧ LegalAt symbols payload (offset + 10) := by
  simp only [readTerm, bind_eq_ok_iff] at h
  obtain ⟨bytes, hbytes, left, hleft, right, hright, -⟩ := h
  obtain ⟨hholds, hsize⟩ := holds_pairs_of_slice hbytes
  constructor
  · exact (legalAt_iff_of_holds hholds (by omega)).1 (Operand.legalAt_of_resolveAt (by decide) hleft)
  · exact (legalAt_iff_of_holds hholds (by omega)).1 (Operand.legalAt_of_resolveAt (by decide) hright)

theorem failsOnly_readTerm_of_legalAt {offset : Nat} (hleft : LegalAt symbols payload (offset + 2))
    (hright : LegalAt symbols payload (offset + 10)) : FailsOnly ScriptError.IsEnd (readTerm symbols payload offset) := by
  refine (payload.failsOnly_slice_isEnd _ _).bind fun bytes hbytes => ?_
  obtain ⟨hholds, hsize⟩ := holds_pairs_of_slice hbytes
  refine (Operand.failsOnly_resolveAt_of_legalAt (by decide) ((legalAt_iff_of_holds hholds (by omega)).2 hleft)).bind fun _ _ => ?_
  exact (Operand.failsOnly_resolveAt_of_legalAt (by decide) ((legalAt_iff_of_holds hholds (by omega)).2 hright)).bind fun _ _ => .pure _

theorem legalAt_of_readTerms {count offset : Nat} {terms : List ConditionTerm} (h : readTerms symbols payload count offset = .ok terms) :
    ∀ nth < count, LegalAt symbols payload (offset + 18 * nth + 2) ∧ LegalAt symbols payload (offset + 18 * nth + 10) := by
  induction count generalizing offset terms with
  | zero => simp
  | succ count ih =>
    simp only [readTerms, bind_eq_ok_iff] at h
    obtain ⟨first, hfirst, rest, hrest, -⟩ := h
    intro nth hnth
    cases nth with
    | zero => exact legalAt_of_readTerm hfirst
    | succ nth =>
      have hlegal := ih hrest nth (by omega)
      rwa [termSize, show offset + 18 + 18 * nth = offset + 18 * (nth + 1) by omega] at hlegal

theorem failsOnly_readTerms_of_legalAt {count offset : Nat}
    (h : ∀ nth < count, LegalAt symbols payload (offset + 18 * nth + 2) ∧ LegalAt symbols payload (offset + 18 * nth + 10)) :
    FailsOnly ScriptError.IsEnd (readTerms symbols payload count offset) := by
  induction count generalizing offset with
  | zero => exact .pure _
  | succ count ih =>
    obtain ⟨hleft, hright⟩ := h 0 (by omega)
    refine (failsOnly_readTerm_of_legalAt hleft hright).bind fun _ _ => FailsOnly.bind (ih ?_) fun _ _ => .pure _
    intro nth hnth
    have hlegal := h (nth + 1) (by omega)
    rwa [show offset + 18 * (nth + 1) = offset + termSize + 18 * nth by rw [termSize]; omega] at hlegal

/-- The pairs of a condition are two for every term. -/
theorem legal_condition_iff {count : Int16} (hcount : payload.readInt16 2 = .ok count) : PairLayout.condition.Legal symbols payload ↔
    ∀ nth < count.toInt.toNat, LegalAt symbols payload (headerSize + 18 * nth + 2) ∧ LegalAt symbols payload (headerSize + 18 * nth + 10) := by
  simp only [PairLayout.Legal, PairLayout.offsets, hcount, List.forall_mem_flatMap, List.mem_range, List.forall_mem_cons, List.not_mem_nil,
    false_imp_iff, implies_true, and_true, headerSize]

theorem legal_of_read {terms : List ConditionTerm} (h : read symbols payload = .ok terms) :
    PairLayout.condition.Legal symbols payload := by
  simp only [read, bind_eq_ok_iff] at h
  obtain ⟨count, hcount, hterms⟩ := h
  exact (legal_condition_iff hcount).2 (legalAt_of_readTerms hterms)

theorem failsOnly_read_of_legal (h : PairLayout.condition.Legal symbols payload) : FailsOnly ScriptError.IsEnd (read symbols payload) :=
  (payload.failsOnly_readInt16_isEnd 2).bind fun _ hcount => failsOnly_readTerms_of_legalAt ((legal_condition_iff hcount).1 h)

end Condition

/-- Legal pairs can be read unless the payload ends too early. -/
theorem PairLayout.isEnd_of_failsAt {layout : PairLayout} {cause : ScriptError} (hlegal : layout.Legal symbols payload)
    (h : layout.FailsAt symbols payload cause) : cause.IsEnd := by
  cases layout with
  | single => exact Operand.failsOnly_resolveAt_of_legalAt (by decide) (hlegal 0 (List.mem_singleton.2 rfl)) cause h
  | time => exact Operand.failsOnly_time_of_legal hlegal cause h
  | vector => exact Operand.failsOnly_vector_of_legal hlegal cause h
  | list => exact Operand.failsOnly_list_of_legal hlegal cause h
  | condition => exact Condition.failsOnly_read_of_legal hlegal cause h

end

/-! ## Rules that succeed -/

section

variable {symbols : SymbolTable} {invocation : Invocation}

theorem Parameter.legal_of_operand {parameter : Parameter} {text : String} (h : parameter.operand symbols = .ok text) :
    PairLayout.single.Legal symbols parameter.payload := by
  simp only [operand, bind_eq_ok_iff, ofScript_eq_ok_iff] at h
  obtain ⟨found, hfound, -⟩ := h
  exact List.forall_mem_singleton.2 (Operand.legalAt_of_resolveAt (by decide) hfound)

theorem legal_of_operandsWith {lead : String} {parameters : List Parameter} {texts : List String}
    (h : operandsWith symbols lead parameters = .ok texts) :
    ∀ parameter ∈ parameters, PairLayout.single.Legal symbols parameter.payload := by
  induction parameters generalizing texts with
  | nil => simp
  | cons parameter rest ih =>
    simp only [operandsWith, bind_eq_ok_iff] at h
    obtain ⟨text, htext, others, hothers, -⟩ := h
    exact List.forall_mem_cons.2 ⟨Parameter.legal_of_operand htext, ih hothers⟩

/-- What a rule says of the parameter that it may read. -/
theorem forall_mem_of_optional {parameter : Option Parameter} {render : Parameter → RuleResult String} {texts : List String}
    {P : Parameter → Prop} (h : optional parameter render = .ok texts) (hrender : ∀ found text, render found = .ok text → P found) :
    ∀ found ∈ parameter.toList, P found := by
  cases parameter with
  | none => simp
  | some found =>
    simp only [optional, bind_eq_ok_iff] at h
    obtain ⟨text, htext, -⟩ := h
    exact List.forall_mem_singleton.2 (hrender found text htext)

/-- The destination of `SET` is checked like an operand. -/
theorem not_illegalPair_of_assignment {control index : Int32} {value text : String}
    (h : assignment symbols control index value = .ok text) : ¬IllegalPair symbols control index := by
  rintro (hcell | hindex)
  · rw [assignment, show Control.ofCode? 0x302 = some .memory by decide] at h
    simp only [] at h
    rw [if_pos (show index < Operand.memoryBase from hcell)] at h
    cases h
  · rw [assignment, show Control.ofCode? 0x304 = some .symbol by decide] at h
    simp only [bind_eq_ok_iff, ofScript_eq_ok_iff] at h
    obtain ⟨name, hname, -⟩ := h
    exact SymbolTable.exists_get_iff.1 ⟨name, hname⟩ hindex

end

namespace Renderer

variable {renderer : Renderer} {invocation : Invocation} {known : KnownCommand}

/-- A rule that renders an instruction has found all pairs of it legal. -/
theorem legal_of_arguments {texts : List String} (h : renderer.arguments known invocation = .ok texts) :
    ∀ source ∈ known.pairSources, ∀ parameter ∈ source.parameters invocation,
      source.layout.Legal renderer.symbols parameter.payload := by
  cases known <;> simp only [arguments, bind_eq_ok_iff, ofScript_eq_ok_iff, Invocation.required_eq_ok_iff] at h <;>
    simp only [KnownCommand.pairSources, PairSource.parameters, List.forall_mem_cons, List.not_mem_nil, false_imp_iff, implies_true, and_true]
  case evMode =>
    obtain ⟨_, -, _, -, values, hvalues, -⟩ := h
    exact legal_of_operandsWith hvalues
  case sceneSet =>
    obtain ⟨first, hfirst, _, hleft, second, hsecond, _, hright, -⟩ := h
    rw [hfirst, hsecond]
    exact ⟨List.forall_mem_singleton.2 (Parameter.legal_of_operand hleft), List.forall_mem_singleton.2 (Parameter.legal_of_operand hright)⟩
  case wait =>
    exact forall_mem_of_optional h fun _ _ htext => Operand.legal_of_time (ofScript_eq_ok_iff.1 htext)
  case jump =>
    obtain ⟨_, -, _, -, condition, hcondition, -⟩ := h
    refine forall_mem_of_optional hcondition fun found text htext => ?_
    obtain ⟨terms, hterms, -⟩ := bind_eq_ok_iff.1 htext
    exact Condition.legal_of_read (ofScript_eq_ok_iff.1 hterms)
  case set =>
    obtain ⟨destination, hdestination, value, hvalue, _, hright, control, hcontrol, index, hindex, _, hassignment, -⟩ := h
    rw [hdestination, hvalue]
    refine ⟨List.forall_mem_singleton.2 (List.forall_mem_singleton.2 ?_), List.forall_mem_singleton.2 (Parameter.legal_of_operand hright)⟩
    intro control' index' hcontrol' hindex'
    obtain rfl : control = control' := Except.ok.inj (hcontrol.symm.trans hcontrol')
    obtain rfl : index = index' := Except.ok.inj (hindex.symm.trans hindex')
    exact not_illegalPair_of_assignment hassignment
  case topicGet =>
    obtain ⟨_, -, _, -, _, -, _, -, first, hfirst, second, hsecond, -⟩ := h
    exact ⟨legal_of_operandsWith hfirst, legal_of_operandsWith hsecond⟩
  case fi =>
    obtain ⟨time, htime, _, hamount, values, hvalues, -⟩ := h
    rw [htime]
    exact ⟨List.forall_mem_singleton.2 (Operand.legal_of_time hamount), legal_of_operandsWith hvalues⟩
  case evStart =>
    obtain ⟨event, hevent, _, hfirst, list, hlist, values, hvalues, -⟩ := h
    refine ⟨?_, forall_mem_of_optional hlist fun _ _ htext => Operand.legal_of_list (ofScript_eq_ok_iff.1 htext)⟩
    -- The first value is the event, and the others are read behind the list.
    have hall : invocation.parametersWith ParameterTag.value = event :: (invocation.parametersWith ParameterTag.value).drop 1 := by
      rw [Invocation.parameter?] at hevent
      cases hvalues : invocation.parametersWith ParameterTag.value with
      | nil => simp [hvalues] at hevent
      | cons first rest => simpa [hvalues] using hevent
    rw [hall]
    exact List.forall_mem_cons.2 ⟨Parameter.legal_of_operand hfirst, legal_of_operandsWith hvalues⟩
  case turn =>
    obtain ⟨first, hfirst, second, hsecond, vector, hvector, third, hthird, fourth, hfourth, -⟩ := h
    exact ⟨legal_of_operandsWith hfirst, legal_of_operandsWith hsecond,
      forall_mem_of_optional hvector fun _ _ htext => Operand.legal_of_vector (ofScript_eq_ok_iff.1 htext),
      legal_of_operandsWith hthird, legal_of_operandsWith hfourth⟩

end Renderer

/-! ## Rules that fail -/

/-- The topic of the instruction is not in the table. -/
def Invocation.LacksTopic (invocation : Invocation) (symbols : SymbolTable) : Prop :=
  ∃ parameter index, invocation.parameter? ParameterTag.symbolIndex 0 = some parameter ∧ parameter.payload.readInt16 0 = .ok index ∧
    (index.toInt < 0 ∨ symbols.size ≤ index.toInt)

/-- If no illegal pair is read, the pairs of each parameter are legal. -/
theorem Invocation.legal_of_not_hasIllegalPair {invocation : Invocation} {known : KnownCommand} {symbols : SymbolTable}
    (h : ¬invocation.HasIllegalPair known symbols) {source : PairSource} (hsource : source ∈ known.pairSources) {parameter : Parameter}
    (hparameter : parameter ∈ source.parameters invocation) : source.layout.Legal symbols parameter.payload := by
  intro offset hoffset control value hcontrol hvalue hillegal
  exact h ⟨control, value, ⟨source, hsource, parameter, hparameter, offset, hoffset, hcontrol, hvalue⟩, hillegal⟩

/-- If no illegal pair is read, a rule that needs no missing parameter fails only at a payload that ends too early, or at a topic that is
not in the table. -/
theorem Invocation.Fails.isEnd_or_lacksTopic {invocation : Invocation} {known : KnownCommand} {symbols : SymbolTable} {cause : ScriptError}
    (h : invocation.Fails known symbols (.fault cause)) (hlegal : ¬invocation.HasIllegalPair known symbols) :
    cause.IsEnd ∨ known = .topicGet ∧ invocation.LacksTopic symbols := by
  cases h with
  | @word _ parameter _ _ _ h => exact .inl (parameter.payload.failsOnly_readWord_isEnd 0 cause h)
  | pairs hsource hparameter h =>
    exact .inl (PairLayout.isEnd_of_failsAt (Invocation.legal_of_not_hasIllegalPair hlegal hsource hparameter) h)
  | @topicIndex parameter _ _ _ h => exact .inl (parameter.payload.failsOnly_readInt16_isEnd 0 cause h)
  | @topic parameter index _ hknown hparameter hindex h =>
    refine .inr ⟨hknown, parameter, index, hparameter, hindex, ?_⟩
    by_contra hinside
    obtain ⟨text, htext⟩ := SymbolTable.exists_get_iff.2 hinside
    rw [h] at htext
    nomatch htext

namespace Renderer

variable {renderer : Renderer} {invocation : Invocation} {known : KnownCommand}

/-- An instruction that has the parameters its rule needs is not rendered if one of the pairs that the rule reads is illegal. If all of
them are legal, the only faults are payloads that end too early and topics that are not in the table. -/
theorem render_of_illegalPair (hmode : renderer.mode = .semantic) (hknown : KnownCommand.ofName? invocation.command.name = some known)
    (hrequired : ∀ place ∈ known.required, (invocation.parameter? place.1 place.2).isSome) :
    (invocation.HasIllegalPair known renderer.symbols →
      ∃ cause, renderer.render invocation = .error (.rendering invocation.address cause)) ∧
    (¬invocation.HasIllegalPair known renderer.symbols → ∀ e, renderer.render invocation = .error e →
      ∃ cause, e = .rendering invocation.address cause ∧ (cause.IsEnd ∨ known = .topicGet ∧ invocation.LacksTopic renderer.symbols)) := by
  cases harguments : renderer.arguments known invocation with
  | ok texts =>
    simp only [render, hmode, hknown, harguments]
    refine ⟨?_, fun _ _ he => nomatch he⟩
    rintro ⟨control, value, ⟨source, hsource, parameter, hparameter, offset, hoffset, hcontrol, hvalue⟩, hillegal⟩
    exact absurd hillegal (legal_of_arguments harguments source hsource parameter hparameter offset hoffset control value hcontrol hvalue)
  | error failure =>
    have hfails := failsOnly_arguments failure harguments
    cases failure with
    | missing tag nth =>
      cases hfails with
      | missing hplace hnone =>
        have hsome := hrequired (tag, nth) hplace
        rw [hnone] at hsome
        nomatch hsome
    | fault cause =>
      simp only [render, hmode, hknown, harguments]
      refine ⟨fun _ => ⟨cause, rfl⟩, fun hlegal e he => ⟨cause, ?_, hfails.isEnd_or_lacksTopic hlegal⟩⟩
      exact (Except.error.inj he).symm

end Renderer

/-! ## Samples -/

/-- A renderer that knows two symbols. -/
def Renderer.sampleNarrow : Renderer :=
  ⟨⟨[⟨0, "MAIN"⟩, ⟨9, "EVENT"⟩]⟩, [], .semantic⟩

/-- An event with a list of two operands: the number 7, and a symbol that the renderer does not know. -/
def Invocation.sampleEvent : Invocation :=
  ⟨99, 99, 2, -1, 10, ⟨10, "EV_START", [0x05, 0x16, 0x05]⟩,
    [⟨ParameterTag.value, 113, #[0, 0, 3, 4, 0, 0, 0, 1]⟩,
      ⟨ParameterTag.valueList, 123, #[0, 0, 0, 2, 0, 0, 3, 0, 0, 0, 0, 7, 0, 0, 3, 4, 0, 0, 0, 2]⟩]⟩

/-- A time that ends behind its unit. -/
def Invocation.sampleWait : Invocation :=
  ⟨99, 99, 2, -1, 0, ⟨0, "WAIT", [0x03]⟩, [⟨ParameterTag.time, 113, #[0, 0, 0, 1]⟩]⟩

theorem Invocation.not_hasIllegalPair_sampleWait (symbols : SymbolTable) : ¬sampleWait.HasIllegalPair .wait symbols := by
  rintro ⟨control, value, ⟨source, hsource, parameter, hparameter, offset, hoffset, hcontrol, -⟩, -⟩
  obtain rfl := List.mem_singleton.1 hsource
  obtain rfl := List.mem_singleton.1 hparameter
  obtain rfl := List.mem_singleton.1 hoffset
  cases hcontrol

/-- The event is not rendered for its pair, and the time because it ends too early. -/
theorem Renderer.render_sampleEvent : sampleNarrow.mode = .semantic ∧
    (KnownCommand.ofName? Invocation.sampleEvent.command.name = some .evStart ∧
      (∀ place ∈ KnownCommand.evStart.required, (Invocation.sampleEvent.parameter? place.1 place.2).isSome) ∧
      Invocation.sampleEvent.HasIllegalPair .evStart sampleNarrow.symbols ∧
      ∃ cause, sampleNarrow.render .sampleEvent = .error (.rendering 99 cause)) ∧
    (KnownCommand.ofName? Invocation.sampleWait.command.name = some .wait ∧
      (∀ place ∈ KnownCommand.wait.required, (Invocation.sampleWait.parameter? place.1 place.2).isSome) ∧
      ¬Invocation.sampleWait.HasIllegalPair .wait sampleNarrow.symbols ∧
      ∃ e, sampleNarrow.render .sampleWait = .error e ∧
        ∃ cause, e = .rendering 99 cause ∧
          (cause.IsEnd ∨ KnownCommand.wait = .topicGet ∧ Invocation.sampleWait.LacksTopic sampleNarrow.symbols)) := by
  have hevent : ∀ place ∈ KnownCommand.evStart.required, (Invocation.sampleEvent.parameter? place.1 place.2).isSome := by decide
  have hpair : Invocation.sampleEvent.HasIllegalPair .evStart sampleNarrow.symbols := by
    refine ⟨0x304, 2, ⟨⟨ParameterTag.valueList, some 0, .list⟩, by decide, _, List.mem_singleton.2 rfl, 12, by decide, by rfl, by rfl⟩, ?_⟩
    exact .symbol (.inr (by decide))
  have hwait : ∀ place ∈ KnownCommand.wait.required, (Invocation.sampleWait.parameter? place.1 place.2).isSome := by decide
  have hnone := Invocation.not_hasIllegalPair_sampleWait sampleNarrow.symbols
  have hfault : sampleNarrow.render .sampleWait = .error (.rendering 99 (.unexpectedEnd 4 4 4)) := by rfl
  refine ⟨rfl, ⟨by decide, hevent, hpair, (render_of_illegalPair rfl (by decide) hevent).1 hpair⟩, by decide, hwait, hnone, _, hfault, ?_⟩
  exact (render_of_illegalPair rfl (by decide) hwait).2 hnone _ hfault

end SceneScript
