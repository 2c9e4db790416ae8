import SceneScript.Rendering

/-!
# How rules fail

The rule of a command puts together what it reads from the parameters of an instruction. `Invocation.Fails` lists what it can fail at: a
parameter may be missing that the rule needs, a word that it shows on its own may not be there, pairs may make no operands, and a topic
may not be in the table. Whatever a rule fails at is in this list (`Renderer.failsOnly_arguments`).
-/

namespace SceneScript

/-! ## Computations and the ways they fail -/

/-- If the computation fails, its fault has the property. -/
def FailsOnly {ε α : Type} (P : ε → Prop) (x : Except ε α) : Prop :=
  ∀ e, x = .error e → P e

namespace FailsOnly

variable {ε α β : Type} {P Q : ε → Prop}

theorem of_ok {x : Except ε α} {a : α} (h : x = .ok a) : FailsOnly P x := by
  intro e he
  rw [h] at he
  cases he

theorem pure (a : α) : FailsOnly P (pure a : Except ε α) :=
  of_ok rfl

theorem throw {e : ε} (h : P e) : FailsOnly P (.error e : Except ε α) := by
  rintro _ ⟨⟩
  exact h

/-- What a sequence fails at is what one of its parts fails at. -/
theorem bind {x : Except ε α} {f : α → Except ε β} (hx : FailsOnly P x) (hf : ∀ a, x = .ok a → FailsOnly P (f a)) :
    FailsOnly P (x >>= f) := by
  cases x with
  | error e =>
    rintro _ ⟨⟩
    exact hx e rfl
  | ok a => exact hf a rfl

theorem mono {x : Except ε α} (h : FailsOnly P x) (himp : ∀ e, P e → Q e) : FailsOnly Q x :=
  fun e he => himp e (h e he)

theorem ofScript {Q : RuleFailure → Prop} {x : Except ScriptError α} (h : FailsOnly (fun e => Q (.fault e)) x) :
    FailsOnly Q (ofScript x) := by
  cases x with
  | ok a => exact .of_ok rfl
  | error e => exact .throw (h e rfl)

end FailsOnly

/-! ## What rules read -/

/-- How a payload holds pairs. -/
inductive PairLayout where
  /-- One pair. -/
  | single
  /-- A pair behind the unit of a time. -/
  | time
  | vector
  /-- A count, and so many pairs. -/
  | list
  /-- Two pairs in each of the terms that the header counts. -/
  | condition
  deriving DecidableEq, Repr

/-- Parameters that pairs are read from: one of those with a tag, or all of them. -/
structure PairSource where
  tag : Int16
  nth? : Option Nat
  layout : PairLayout
  deriving DecidableEq, Repr

/-- The parameters of an instruction that a source means. -/
def PairSource.parameters (source : PairSource) (invocation : Invocation) : List Parameter :=
  match source.nth? with
  | some nth => (invocation.parameter? source.tag nth).toList
  | none => invocation.parametersWith source.tag

namespace KnownCommand

/-- The parameters that the rule of a command reads pairs from. -/
def pairSources : KnownCommand → List PairSource
  | evMode => [⟨ParameterTag.value19, none, .single⟩]
  | sceneSet | set => [⟨ParameterTag.value, some 0, .single⟩, ⟨ParameterTag.value, some 1, .single⟩]
  | wait => [⟨ParameterTag.time, some 0, .time⟩]
  | jump => [⟨ParameterTag.condition, some 0, .condition⟩]
  | flag | appear => []
  | topicGet => [⟨ParameterTag.value19, some 0, .single⟩, ⟨ParameterTag.value, some 0, .single⟩]
  | fi => [⟨ParameterTag.time, some 0, .time⟩, ⟨ParameterTag.value19, none, .single⟩]
  | evStart => [⟨ParameterTag.value, none, .single⟩, ⟨ParameterTag.valueList, some 0, .list⟩]
  | turn =>
    [⟨ParameterTag.value08, some 0, .single⟩, ⟨ParameterTag.value0D, some 0, .single⟩, ⟨ParameterTag.vector, some 0, .vector⟩,
      ⟨ParameterTag.value10, some 0, .single⟩, ⟨ParameterTag.value, some 0, .single⟩]

/-- The parameters that an instruction needs for the rule of its command. -/
def required : KnownCommand → List (Int16 × Nat)
  | evMode | flag => [(ParameterTag.boolean, 0)]
  | sceneSet | set => [(ParameterTag.value, 0), (ParameterTag.value, 1)]
  | wait | appear | turn => []
  | jump => [(ParameterTag.jumpTarget, 0)]
  | topicGet => [(ParameterTag.symbolIndex, 0)]
  | fi => [(ParameterTag.time, 0)]
  | evStart => [(ParameterTag.value, 0)]

/-- The tags of the parameters whose first word the rule of a command shows on its own. -/
def words : KnownCommand → List Int16
  | evMode | flag | topicGet | appear => [ParameterTag.boolean]
  | jump => [ParameterTag.jumpTarget]
  | sceneSet | wait | set | fi | evStart | turn => []

end KnownCommand

/-- What reading the pairs of a payload fails at. -/
def PairLayout.FailsAt (symbols : SymbolTable) (payload : Bytes) (cause : ScriptError) : PairLayout → Prop
  | single => Operand.resolveAt symbols payload 0 = .error cause
  | time => Operand.time symbols payload = .error cause
  | vector => Operand.vector symbols payload = .error cause
  | list => Operand.list symbols payload = .error cause
  | condition => Condition.read symbols payload = .error cause

/-- What the rule of a command fails at. The destination of `SET` is among the pairs. -/
inductive Invocation.Fails (invocation : Invocation) (known : KnownCommand) (symbols : SymbolTable) : RuleFailure → Prop where
  | missing {tag : Int16} {nth : Nat} (hplace : (tag, nth) ∈ known.required) (hnone : invocation.parameter? tag nth = none) :
    Fails invocation known symbols (.missing tag nth)
  | word {tag : Int16} {parameter : Parameter} {cause : ScriptError} (htag : tag ∈ known.words)
    (hparameter : parameter ∈ invocation.parametersWith tag) (h : parameter.payload.readWord 0 = .error cause) :
    Fails invocation known symbols (.fault cause)
  | pairs {source : PairSource} {parameter : Parameter} {cause : ScriptError} (hsource : source ∈ known.pairSources)
    (hparameter : parameter ∈ source.parameters invocation) (h : source.layout.FailsAt symbols parameter.payload cause) :
    Fails invocation known symbols (.fault cause)
  | topicIndex {parameter : Parameter} {cause : ScriptError} (hknown : known = .topicGet)
    (hparameter : invocation.parameter? ParameterTag.symbolIndex 0 = some parameter) (h : parameter.payload.readInt16 0 = .error cause) :
    Fails invocation known symbols (.fault cause)
  | topic {parameter : Parameter} {index : Int16} {cause : ScriptError} (hknown : known = .topicGet)
    (hparameter : invocation.parameter? ParameterTag.symbolIndex 0 = some parameter) (hindex : parameter.payload.readInt16 0 = .ok index)
    (h : symbols.get index.toInt = .error cause) : Fails invocation known symbols (.fault cause)

/-! ## The parts of rules -/

theorem ofScript_eq_ok_iff {α : Type} {x : Except ScriptError α} {a : α} : ofScript x = .ok a ↔ x = .ok a := by
  cases x <;> simp [ofScript]

theorem failsOnly_optional {Q : RuleFailure → Prop} {parameter : Option Parameter} {render : Parameter → RuleResult String}
    (h : ∀ found, parameter = some found → FailsOnly Q (render found)) : FailsOnly Q (optional parameter render) := by
  cases parameter with
  | none => exact .pure _
  | some found => exact (h found rfl).bind fun _ _ => .pure _

/-- A destination is refused for what the operand with its words would be. -/
theorem failsOnly_assignment (symbols : SymbolTable) (control index : Int32) (value : String) :
    FailsOnly (fun failure => ∃ cause, failure = .fault cause ∧ Operand.resolve symbols control index = .error cause)
      (assignment symbols control index value) := by
  unfold assignment Operand.resolve
  cases Control.ofCode? control with
  | none => exact .pure _
  | some kind =>
    cases kind with
    | literal => exact .pure _
    | memory =>
      by_cases hcell : index < Operand.memoryBase
      · simp only [if_pos hcell]
        exact .throw ⟨_, rfl, rfl⟩
      · simp only [if_neg hcell]
        exact .pure _
    | moduleMemory => exact .pure _
    | symbol =>
      refine FailsOnly.bind (FailsOnly.ofScript fun cause hcause => ?_) fun _ _ => .pure _
      simp only [hcause]
      exact ⟨cause, rfl, rfl⟩

/-- `SET` reads its destination word by word, and fails where an operand in the place of the destination would. -/
theorem failsOnly_destination (symbols : SymbolTable) (payload : Bytes) (value : String) :
    FailsOnly (fun failure => ∃ cause, failure = .fault cause ∧ Operand.resolveAt symbols payload 0 = .error cause) (do
      let control ← ofScript (payload.readWord 0)
      let index ← ofScript (payload.readWord 1)
      return [← assignment symbols control index value]) := by
  unfold Operand.resolveAt
  cases payload.readWord 0 with
  | error cause => exact .throw ⟨cause, rfl, rfl⟩
  | ok control =>
    cases payload.readWord 1 with
    | error cause => exact .throw ⟨cause, rfl, rfl⟩
    | ok index => exact (failsOnly_assignment symbols control index value).bind fun _ _ => .pure _

section

variable {known : KnownCommand} {symbols : SymbolTable} {invocation : Invocation} {parameter : Parameter}

namespace Invocation

variable {tag : Int16} {nth : Nat}

theorem required_eq_ok_iff : invocation.required tag nth = .ok parameter ↔ invocation.parameter? tag nth = some parameter := by
  unfold required
  split <;> simp_all

theorem mem_of_parameter? (h : invocation.parameter? tag nth = some parameter) : parameter ∈ invocation.parametersWith tag :=
  List.mem_of_getElem? h

theorem mem_of_required (h : invocation.required tag nth = .ok parameter) : parameter ∈ invocation.parametersWith tag :=
  mem_of_parameter? (required_eq_ok_iff.1 h)

theorem failsOnly_required (h : (tag, nth) ∈ known.required) :
    FailsOnly (invocation.Fails known symbols) (invocation.required tag nth) := by
  unfold required
  split
  next => exact .of_ok rfl
  next hnone => exact .throw (.missing h hnone)

theorem failsOnly_readWord (htag : tag ∈ known.words) (hparameter : parameter ∈ invocation.parametersWith tag) :
    FailsOnly (invocation.Fails known symbols) (ofScript (parameter.payload.readWord 0)) :=
  FailsOnly.ofScript fun _ he => .word htag hparameter he

theorem failsOnly_boolean (htag : ParameterTag.boolean ∈ known.words)
    (hparameter : parameter ∈ invocation.parametersWith ParameterTag.boolean) :
    FailsOnly (invocation.Fails known symbols) parameter.boolean :=
  (failsOnly_readWord htag hparameter).bind fun _ _ => .pure _

end Invocation

namespace PairSource

variable {source : PairSource} {tag : Int16} {nth? : Option Nat}

/-- The parameters of a source have its tag. -/
theorem mem_parametersWith (h : parameter ∈ source.parameters invocation) : parameter ∈ invocation.parametersWith source.tag := by
  unfold parameters at h
  split at h
  next => exact Invocation.mem_of_parameter? (Option.mem_toList.1 h)
  next => exact h

theorem mem_parameters_of_required {nth : Nat} {layout : PairLayout} (h : invocation.required tag nth = .ok parameter) :
    parameter ∈ parameters ⟨tag, some nth, layout⟩ invocation :=
  Option.mem_toList.2 (Invocation.required_eq_ok_iff.1 h)

/-- What fails only where reading the pairs of a parameter does. -/
theorem failsOnly {α : Type} {x : Except ScriptError α} (hsource : source ∈ known.pairSources)
    (hparameter : parameter ∈ source.parameters invocation)
    (h : ∀ cause, x = .error cause → source.layout.FailsAt symbols parameter.payload cause) :
    FailsOnly (invocation.Fails known symbols) (ofScript x) :=
  FailsOnly.ofScript fun cause hcause => .pairs hsource hparameter (h cause hcause)

theorem failsOnly_operand (hsource : ⟨tag, nth?, .single⟩ ∈ known.pairSources)
    (hparameter : parameter ∈ parameters ⟨tag, nth?, .single⟩ invocation) :
    FailsOnly (invocation.Fails known symbols) (parameter.operand symbols) :=
  (failsOnly hsource hparameter fun _ h => h).bind fun _ _ => .pure _

/-- Operands of a source can be shown together, whichever of them. -/
theorem failsOnly_operandsWith (hsource : ⟨tag, nth?, .single⟩ ∈ known.pairSources) {lead : String} {parameters : List Parameter}
    (h : ∀ parameter ∈ parameters, parameter ∈ PairSource.parameters ⟨tag, nth?, .single⟩ invocation) :
    FailsOnly (invocation.Fails known symbols) (operandsWith symbols lead parameters) := by
  induction parameters with
  | nil => exact .pure _
  | cons parameter rest ih =>
    obtain ⟨hfirst, hrest⟩ := List.forall_mem_cons.1 h
    exact (failsOnly_operand hsource hfirst).bind fun _ _ => (ih hrest).bind fun _ _ => .pure _

end PairSource

end

/-! ## Rules -/

namespace Renderer

variable {renderer : Renderer} {invocation : Invocation} {known : KnownCommand}

open Invocation PairSource

/-- What a rule fails at is in the list of its command. -/
theorem failsOnly_arguments : FailsOnly (invocation.Fails known renderer.symbols) (renderer.arguments known invocation) := by
  cases known with
  | evMode =>
    have hvalues : ⟨ParameterTag.value19, none, .single⟩ ∈ KnownCommand.evMode.pairSources := by decide
    refine (failsOnly_required (by decide)).bind fun mode hmode => ?_
    refine (failsOnly_boolean (by decide) (mem_of_required hmode)).bind fun _ _ => ?_
    exact (failsOnly_operandsWith hvalues fun _ h => h).bind fun _ _ => .pure _
  | sceneSet =>
    have hleft : ⟨ParameterTag.value, some 0, .single⟩ ∈ KnownCommand.sceneSet.pairSources := by decide
    have hright : ⟨ParameterTag.value, some 1, .single⟩ ∈ KnownCommand.sceneSet.pairSources := by decide
    refine (failsOnly_required (by decide)).bind fun first hfirst => ?_
    refine (failsOnly_operand hleft (mem_parameters_of_required hfirst)).bind fun _ _ => ?_
    refine (failsOnly_required (by decide)).bind fun second hsecond => ?_
    exact (failsOnly_operand hright (mem_parameters_of_required hsecond)).bind fun _ _ => .pure _
  | wait =>
    have htime : ⟨ParameterTag.time, some 0, .time⟩ ∈ KnownCommand.wait.pairSources := by decide
    exact failsOnly_optional fun time hfound => failsOnly htime (Option.mem_toList.2 hfound) fun _ h => h
  | jump =>
    have hcondition : ⟨ParameterTag.condition, some 0, .condition⟩ ∈ KnownCommand.jump.pairSources := by decide
    refine (failsOnly_required (by decide)).bind fun target htarget => ?_
    refine (failsOnly_readWord (by decide) (mem_of_required htarget)).bind fun _ _ => ?_
    refine (failsOnly_optional fun condition hfound => ?_).bind fun _ _ => .pure _
    exact (failsOnly hcondition (Option.mem_toList.2 hfound) fun _ h => h).bind fun _ _ => .pure _
  | set =>
    have hplace : ⟨ParameterTag.value, some 0, .single⟩ ∈ KnownCommand.set.pairSources := by decide
    have hvalue : ⟨ParameterTag.value, some 1, .single⟩ ∈ KnownCommand.set.pairSources := by decide
    refine (failsOnly_required (by decide)).bind fun destination hdestination => ?_
    refine (failsOnly_required (by decide)).bind fun value hfound => ?_
    refine (failsOnly_operand hvalue (mem_parameters_of_required hfound)).bind fun text _ => ?_
    refine (failsOnly_destination renderer.symbols destination.payload text).mono ?_
    rintro _ ⟨cause, rfl, hcause⟩
    exact .pairs hplace (mem_parameters_of_required hdestination) hcause
  | flag =>
    refine (failsOnly_required (by decide)).bind fun flag hflag => ?_
    exact (failsOnly_boolean (by decide) (mem_of_required hflag)).bind fun _ _ => .pure _
  | topicGet =>
    have hfirst : ⟨ParameterTag.value19, some 0, .single⟩ ∈ KnownCommand.topicGet.pairSources := by decide
    have hsecond : ⟨ParameterTag.value, some 0, .single⟩ ∈ KnownCommand.topicGet.pairSources := by decide
    refine (failsOnly_required (by decide)).bind fun parameter hparameter => ?_
    rw [required_eq_ok_iff] at hparameter
    refine FailsOnly.bind (FailsOnly.ofScript fun _ h => .topicIndex rfl hparameter h) fun index hindex => ?_
    rw [ofScript_eq_ok_iff] at hindex
    refine FailsOnly.bind (FailsOnly.ofScript fun _ h => .topic rfl hparameter hindex h) fun _ _ => ?_
    refine (failsOnly_optional fun flag hflag => failsOnly_boolean (by decide) (mem_of_parameter? hflag)).bind fun _ _ => ?_
    refine (failsOnly_operandsWith hfirst fun _ h => h).bind fun _ _ => ?_
    exact (failsOnly_operandsWith hsecond fun _ h => h).bind fun _ _ => .pure _
  | fi =>
    have htime : ⟨ParameterTag.time, some 0, .time⟩ ∈ KnownCommand.fi.pairSources := by decide
    have hvalues : ⟨ParameterTag.value19, none, .single⟩ ∈ KnownCommand.fi.pairSources := by decide
    refine (failsOnly_required (by decide)).bind fun time hfound => ?_
    refine (failsOnly htime (mem_parameters_of_required hfound) fun _ h => h).bind fun _ _ => ?_
    exact (failsOnly_operandsWith hvalues fun _ h => h).bind fun _ _ => .pure _
  | evStart =>
    have hvalues : ⟨ParameterTag.value, none, .single⟩ ∈ KnownCommand.evStart.pairSources := by decide
    have hlist : ⟨ParameterTag.valueList, some 0, .list⟩ ∈ KnownCommand.evStart.pairSources := by decide
    refine (failsOnly_required (by decide)).bind fun event hevent => ?_
    refine (failsOnly_operand hvalues (mem_of_required hevent)).bind fun _ _ => ?_
    refine (failsOnly_optional fun list hfound => failsOnly hlist (Option.mem_toList.2 hfound) fun _ h => h).bind fun _ _ => ?_
    -- The values behind the event are the others with its tag.
    exact (failsOnly_operandsWith hvalues fun _ h => List.mem_of_mem_drop h).bind fun _ _ => .pure _
  | appear => exact failsOnly_optional fun flag hflag => failsOnly_boolean (by decide) (mem_of_parameter? hflag)
  | turn =>
    have hfirst : ⟨ParameterTag.value08, some 0, .single⟩ ∈ KnownCommand.turn.pairSources := by decide
    have hsecond : ⟨ParameterTag.value0D, some 0, .single⟩ ∈ KnownCommand.turn.pairSources := by decide
    have hvector : ⟨ParameterTag.vector, some 0, .vector⟩ ∈ KnownCommand.turn.pairSources := by decide
    have hthird : ⟨ParameterTag.value10, some 0, .single⟩ ∈ KnownCommand.turn.pairSources := by decide
    have hfourth : ⟨ParameterTag.value, some 0, .single⟩ ∈ KnownCommand.turn.pairSources := by decide
    refine (failsOnly_operandsWith hfirst fun _ h => h).bind fun _ _ => ?_
    refine (failsOnly_operandsWith hsecond fun _ h => h).bind fun _ _ => ?_
    refine (failsOnly_optional fun vector hfound => failsOnly hvector (Option.mem_toList.2 hfound) fun _ h => h).bind fun _ _ => ?_
    refine (failsOnly_operandsWith hthird fun _ h => h).bind fun _ _ => ?_
    exact (failsOnly_operandsWith hfourth fun _ h => h).bind fun _ _ => .pure _

end Renderer

end SceneScript
