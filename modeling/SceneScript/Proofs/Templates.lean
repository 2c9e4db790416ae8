import SceneScript.Decompilation
import SceneScript.Proofs.Contents

/-!
# Templates of texts

The text of a script can be made in two steps. The first one needs to know of the symbols only how many there are; it gives a
`Template`, with places for the texts of symbols. The second one fills these places in. `Template.names` are the symbols that the text
shows, and no other symbol has a part in it.

The operands of an instruction that are resolved and then not shown leave no place in a template: the right one of a term that tests
the left one only, both of a term with an unrecognized comparator, and the value of `SET` where the destination is of no known kind.
-/

namespace SceneScript

/-- A piece of a text: as it stands, or the text of a symbol. -/
inductive Piece where
  | text (text : String)
  | name (index : Nat)
  deriving DecidableEq, Repr

/-- A text with places for the texts of symbols. -/
abbrev Template := List Piece

/-- The text of a symbol, and none if there is no such symbol. -/
def SymbolTable.textAt (table : SymbolTable) (index : Nat) : String :=
  ((table.symbols[index]?).map (·.text)).getD ""

namespace Template

/-- The text of a piece. -/
def fillPiece (table : SymbolTable) : Piece → String
  | .text text => text
  | .name index => table.textAt index

/-- The text that a template becomes. -/
def fill (table : SymbolTable) : Template → String
  | [] => ""
  | piece :: rest => fillPiece table piece ++ fill table rest

/-- The symbols that a template has places for. -/
def names (template : Template) : List Nat :=
  template.filterMap fun
    | .text _ => none
    | .name index => some index

variable {table : SymbolTable}

@[simp] theorem fill_nil : fill table [] = "" := rfl

@[simp] theorem fill_text (text : String) (rest : Template) : fill table (.text text :: rest) = text ++ fill table rest := rfl

@[simp] theorem fill_name (index : Nat) (rest : Template) : fill table (.name index :: rest) = table.textAt index ++ fill table rest :=
  rfl

@[simp] theorem fill_append (first second : Template) : fill table (first ++ second) = fill table first ++ fill table second := by
  induction first with
  | nil => rw [List.nil_append, fill_nil, String.empty_append]
  | cons piece rest ih => rw [List.cons_append, fill, fill, ih, String.append_assoc]

@[simp] theorem names_nil : names [] = [] := rfl

@[simp] theorem names_text (text : String) (rest : Template) : names (.text text :: rest) = names rest := rfl

@[simp] theorem names_append (first second : Template) : names (first ++ second) = names first ++ names second :=
  List.filterMap_append ..

/-- A template becomes the same text in tables that agree on the symbols it has places for. -/
theorem fill_congr {table' : SymbolTable} {template : Template} (h : ∀ index ∈ template.names, table.textAt index = table'.textAt index) :
    fill table template = fill table' template := by
  induction template with
  | nil => rfl
  | cons piece rest ih =>
    rw [fill, fill, ih fun index hindex => h index ?_]
    · cases piece with
      | text text => rfl
      | name index =>
        rw [fillPiece, fillPiece, h index]
        exact List.mem_cons_self ..
    · cases piece with
      | text text => exact hindex
      | name other => exact List.mem_cons_of_mem _ hindex

/-- Templates with a text between them. -/
def intercalate (separator : String) : List Template → Template
  | [] => []
  | [template] => template
  | template :: rest => template ++ .text separator :: intercalate separator rest

theorem fill_intercalate (separator : String) (templates : List Template) :
    fill table (intercalate separator templates) = separator.intercalate (templates.map (fill table)) := by
  induction templates with
  | nil => rfl
  | cons template rest ih =>
    cases rest with
    | nil => rw [intercalate, List.map_cons, List.map_nil, String.intercalate_singleton]
    | cons next rest =>
      rw [intercalate, fill_append, fill_text, ih]
      · simp only [List.map_cons, String.intercalate_cons_cons, String.append_assoc]
      · exact nofun

end Template

/-! ## Operands -/

/-- An operand before its name is looked up. -/
inductive OperandForm where
  | plain (operand : Operand)
  | named (index : Nat)
  deriving DecidableEq, Repr

namespace OperandForm

/-- The operand in a table. -/
def operand (table : SymbolTable) : OperandForm → Operand
  | plain operand => operand
  | named index => .symbol (table.textAt index)

/-- How an operand is shown. -/
def template : OperandForm → Template
  | plain operand => [.text operand.text]
  | named index => [.text "var ", .name index]

@[simp] theorem fill_template (table : SymbolTable) (form : OperandForm) : form.template.fill table = (form.operand table).text := by
  cases form with
  | plain operand => rw [template, Template.fill_text, Template.fill_nil, String.append_empty, OperandForm.operand]
  | named index =>
    rw [template, Template.fill_text, Template.fill_name, Template.fill_nil, String.append_empty, OperandForm.operand]
    rfl

end OperandForm

/-- The number of a symbol, given by an index that may be anything. -/
def symbolNumber (count : Nat) (index : Int) : Except ScriptError Nat :=
  if index < 0 ∨ count ≤ index.toNat then .error (.symbolOutOfRange index count) else .ok index.toNat

theorem SymbolTable.get_eq_map (table : SymbolTable) (index : Int) :
    table.get index = table.textAt <$> symbolNumber table.size index := by
  rw [get, symbolNumber]
  by_cases hnegative : index < 0
  · rw [if_pos hnegative, if_pos (.inl hnegative)]
    rfl
  · rw [if_neg hnegative]
    by_cases hpast : table.size ≤ index.toNat
    · rw [if_pos (.inr hpast), List.getElem?_eq_none hpast]
      rfl
    · have hlt : index.toNat < table.symbols.length := Nat.not_le.1 hpast
      rw [if_neg (not_or.2 ⟨hnegative, hpast⟩), List.getElem?_eq_getElem hlt]
      simp only [textAt, List.getElem?_eq_getElem hlt, Option.map_some, Option.getD_some, Functor.map, Except.map]

namespace Operand

/-- What a control code and a value refer to, in a table with `count` symbols. -/
def resolveForm (count : Nat) (control value : Int32) : Except ScriptError OperandForm :=
  if Control.ofCode? control = some .symbol then .named <$> symbolNumber count value.toInt
  else .plain <$> resolve ⟨[]⟩ control value

/-- What the pair in the words `word` and `word + 1` of a payload refers to. -/
def formAt (count : Nat) (payload : Bytes) (word : Nat) : Except ScriptError OperandForm := do
  let control ← payload.readWord word
  let value ← payload.readWord (word + 1)
  resolveForm count control value

/-- The template of a time. -/
def timeTemplate (count : Nat) (payload : Bytes) : Except ScriptError Template := do
  let unit ← payload.readWord 0
  let amount ← formAt count payload 1
  pure (.text (if unit = framesUnit then "frames " else "time ") :: amount.template)

/-- The template of a vector. -/
def vectorTemplate (count : Nat) (payload : Bytes) : Except ScriptError Template := do
  let x ← formAt count payload 0
  let y ← formAt count payload 2
  let z ← formAt count payload 4
  pure (.text "Vector3(" :: x.template ++ .text ", " :: y.template ++ .text ", " :: z.template ++ [.text ")"])

/-- The next pairs, from a word on. -/
def formsFrom (count : Nat) (payload : Bytes) : (pairs word : Nat) → Except ScriptError (List OperandForm)
  | 0, _ => pure []
  | pairs + 1, word => do
    let form ← formAt count payload word
    let rest ← formsFrom count payload pairs (word + 2)
    pure (form :: rest)

/-- The template of a list. -/
def listTemplate (count : Nat) (payload : Bytes) : Except ScriptError Template := do
  let pairs ← payload.readWord 0
  let forms ← formsFrom count payload pairs.toInt.toNat 1
  pure (.text "[" :: Template.intercalate ", " (forms.map OperandForm.template) ++ [.text "]"])

section

variable (table : SymbolTable) (payload : Bytes)

theorem resolve_eq_map (control value : Int32) :
    resolve table control value = OperandForm.operand table <$> resolveForm table.size control value := by
  rw [resolveForm]
  by_cases hsymbol : Control.ofCode? control = some .symbol
  · rw [if_pos hsymbol, resolve, hsymbol]
    simp only [SymbolTable.get_eq_map, bind_map_left, Functor.map_map, OperandForm.operand]
    rw [bind_pure_comp]
  · rw [if_neg hsymbol, Functor.map_map]
    simp only [resolve, OperandForm.operand, id_map']
    split
    · rfl
    · rfl
    · rfl
    next h => exact absurd h hsymbol
    · rfl

theorem resolveAt_eq_map (word : Nat) :
    resolveAt table payload word = OperandForm.operand table <$> formAt table.size payload word := by
  simp only [resolveAt, formAt, resolve_eq_map, map_bind]

theorem time_eq_map : time table payload = Template.fill table <$> timeTemplate table.size payload := by
  simp only [time, timeTemplate, resolveAt_eq_map, map_bind, bind_map_left, map_pure, Template.fill_text, OperandForm.fill_template]

theorem vector_eq_map : vector table payload = Template.fill table <$> vectorTemplate table.size payload := by
  simp only [vector, vectorTemplate, resolveAt_eq_map, map_bind, bind_map_left, map_pure, Template.fill_text, Template.fill_append,
    Template.fill_nil, OperandForm.fill_template, List.cons_append, String.append_assoc, String.append_empty]
  rfl

theorem resolveMany_eq_map (pairs word : Nat) :
    resolveMany table payload pairs word = List.map (OperandForm.operand table) <$> formsFrom table.size payload pairs word := by
  induction pairs generalizing word with
  | zero => rfl
  | succ pairs ih => simp only [resolveMany, formsFrom, resolveAt_eq_map, ih, map_bind, bind_map_left, map_pure, List.map_cons]

theorem list_eq_map : list table payload = Template.fill table <$> listTemplate table.size payload := by
  simp only [list, listTemplate, resolveMany_eq_map, map_bind, bind_map_left, map_pure, Template.fill_text, Template.fill_append,
    Template.fill_nil, Template.fill_intercalate, List.cons_append, List.map_map, Function.comp_def, OperandForm.fill_template,
    String.append_assoc, String.append_empty]

end

end Operand

/-! ## Conditions -/

/-- A term before the names of its operands are looked up. -/
structure TermForm where
  comparator : Comparator
  combinator : Combinator
  left : OperandForm
  right : OperandForm
  deriving DecidableEq, Repr

namespace TermForm

/-- The term in a table. -/
def term (table : SymbolTable) (form : TermForm) : ConditionTerm where
  comparator := form.comparator
  combinator := form.combinator
  left := form.left.operand table
  right := form.right.operand table

/-- How a term is shown. -/
def template (form : TermForm) : Template :=
  let compare (sign : String) := form.left.template ++ .text s!" {sign} " :: form.right.template
  match form.comparator with
  | .eq => compare "=="
  | .ne => compare "!="
  | .gt => compare ">"
  | .lt => compare "<"
  | .ge => compare ">="
  | .le => compare "<="
  | .bare => form.left.template
  | .unrecognized => []

@[simp] theorem fill_template (table : SymbolTable) (form : TermForm) : form.template.fill table = (form.term table).text := by
  rw [template, ConditionTerm.text, term]
  cases form.comparator <;>
    simp only [Template.fill_append, Template.fill_text, Template.fill_nil, OperandForm.fill_template, String.append_assoc] <;> rfl

end TermForm

namespace Condition

/-- The term at `offset` of a payload. -/
def formAt (count : Nat) (payload : Bytes) (offset : Nat) : Except ScriptError TermForm := do
  let term ← payload.slice offset termSize
  let pairs := term.extract 2 termSize
  let left ← Operand.formAt count pairs 0
  let right ← Operand.formAt count pairs 2
  pure { comparator := .ofCode (term.getD 0 0), combinator := .ofCode (term.getD 1 0), left, right }

/-- The next terms. -/
def formsFrom (count : Nat) (payload : Bytes) : (terms offset : Nat) → Except ScriptError (List TermForm)
  | 0, _ => pure []
  | terms + 1, offset => do
    let form ← formAt count payload offset
    let rest ← formsFrom count payload terms (offset + termSize)
    pure (form :: rest)

/-- How terms are shown, from left to right. -/
def termsTemplate : List TermForm → Template
  | [] => []
  | [form] => form.template
  | form :: rest => form.template ++ .text form.combinator.separator :: termsTemplate rest

/-- The template of a condition. -/
def template (count : Nat) (payload : Bytes) : Except ScriptError Template := do
  let terms ← payload.readInt16 2
  let forms ← formsFrom count payload terms.toInt.toNat headerSize
  pure (termsTemplate forms)

section

variable (table : SymbolTable) (payload : Bytes)

theorem readTerm_eq_map (offset : Nat) : readTerm table payload offset = TermForm.term table <$> formAt table.size payload offset := by
  simp only [readTerm, formAt, Operand.resolveAt_eq_map, map_bind, bind_map_left, map_pure, TermForm.term]

theorem readTerms_eq_map (terms offset : Nat) :
    readTerms table payload terms offset = List.map (TermForm.term table) <$> formsFrom table.size payload terms offset := by
  induction terms generalizing offset with
  | zero => rfl
  | succ terms ih => simp only [readTerms, formsFrom, readTerm_eq_map, ih, map_bind, bind_map_left, map_pure, List.map_cons]

theorem fill_termsTemplate (forms : List TermForm) : (termsTemplate forms).fill table = render (forms.map (TermForm.term table)) := by
  induction forms with
  | nil => rfl
  | cons form rest ih =>
    cases rest with
    | nil => exact form.fill_template table
    | cons next rest =>
      rw [termsTemplate, Template.fill_append, Template.fill_text, ih, TermForm.fill_template]
      · simp only [List.map_cons, render, TermForm.term, String.append_assoc]
      · exact nofun

theorem render_read_eq_map : render <$> read table payload = Template.fill table <$> template table.size payload := by
  simp only [read, template, readTerms_eq_map, map_bind, Functor.map_map, fill_termsTemplate, bind_pure_comp]

end

end Condition

/-! ## Rules

A rule needs the payloads of an instruction, and for a jump the text that stands for its target. -/

/-- The payloads of the parameters with a tag, out of tags and payloads. -/
def payloadsWith (parameters : List (Int16 × Bytes)) (tag : Int16) : List Bytes :=
  (parameters.filter fun parameter => parameter.1 = tag).map (·.2)

/-- A payload that a rule cannot do without. -/
def requiredPayload (parameters : List (Int16 × Bytes)) (tag : Int16) (nth : Nat) : RuleResult Bytes :=
  match (payloadsWith parameters tag)[nth]? with
  | some payload => .ok payload
  | none => .error (.missing tag nth)

/-- What a rule makes of a payload that may be absent. -/
def optionalTemplate (payload : Option Bytes) (template : Bytes → RuleResult Template) : RuleResult (List Template) :=
  match payload with
  | some payload => return [← template payload]
  | none => pure []

/-- A payload as a truth value. -/
def booleanTemplate (payload : Bytes) : RuleResult Template := do
  let word ← ofScript (payload.readWord 0)
  pure [.text (if word = 0 then "FALSE" else "TRUE")]

/-- A payload as an operand. -/
def operandTemplate (count : Nat) (payload : Bytes) : RuleResult Template := do
  pure (← ofScript (Operand.formAt count payload 0)).template

/-- Each payload as an operand, with `lead` in front. -/
def operandTemplates (count : Nat) (lead : String) : List Bytes → RuleResult (List Template)
  | [] => pure []
  | payload :: rest => do
    let template ← operandTemplate count payload
    let templates ← operandTemplates count lead rest
    pure ((.text lead :: template) :: templates)

/-- The two arguments of `SET`. A destination of no known kind hides the value too. -/
def assignmentTemplate (count : Nat) (control index : Int32) (value : Template) : RuleResult Template :=
  match Control.ofCode? control with
  | some .memory =>
    if index < Operand.memoryBase then throw (.fault (.illegalMemoryCell index))
    else pure (if isSettable index then .text s!"memd {index.toInt}, " :: value else [.text "Unknown"])
  | some .moduleMemory => pure (.text s!"mmem {index.toInt}, " :: value)
  | some .symbol => return .text "var " :: .name (← ofScript (symbolNumber count index.toInt)) :: .text ", " :: value
  | _ => pure [.text "Unknown"]

/-- The arguments of an instruction in the semantic form. -/
def KnownCommand.template (known : KnownCommand) (count : Nat) (target : Int32 → String) (parameters : List (Int16 × Bytes)) :
    RuleResult (List Template) := do
  match known with
  | .evMode =>
    let mode ← booleanTemplate (← requiredPayload parameters ParameterTag.boolean 0)
    let values ← operandTemplates count "19" (payloadsWith parameters ParameterTag.value19)
    pure (mode :: values)
  | .sceneSet =>
    let first ← operandTemplate count (← requiredPayload parameters ParameterTag.value 0)
    let second ← operandTemplate count (← requiredPayload parameters ParameterTag.value 1)
    pure [first, second]
  | .wait =>
    optionalTemplate (payloadsWith parameters ParameterTag.time)[0]? fun payload => ofScript (Operand.timeTemplate count payload)
  | .jump =>
    let word ← ofScript ((← requiredPayload parameters ParameterTag.jumpTarget 0).readWord 0)
    let condition ← optionalTemplate (payloadsWith parameters ParameterTag.condition)[0]? fun payload => do
      let condition ← ofScript (Condition.template count payload)
      pure (.text "if " :: condition)
    pure ([.text (target word)] :: condition)
  | .set =>
    let destination ← requiredPayload parameters ParameterTag.value 0
    let value ← operandTemplate count (← requiredPayload parameters ParameterTag.value 1)
    let control ← ofScript (destination.readWord 0)
    let index ← ofScript (destination.readWord 1)
    return [← assignmentTemplate count control index value]
  | .flag =>
    return [← booleanTemplate (← requiredPayload parameters ParameterTag.boolean 0)]
  | .topicGet =>
    let index ← ofScript ((← requiredPayload parameters ParameterTag.symbolIndex 0).readInt16 0)
    let topic ← ofScript (symbolNumber count index.toInt)
    let flag ← optionalTemplate (payloadsWith parameters ParameterTag.boolean)[0]? booleanTemplate
    let first ← operandTemplates count "19" (payloadsWith parameters ParameterTag.value19)[0]?.toList
    let second ← operandTemplates count "19" (payloadsWith parameters ParameterTag.value)[0]?.toList
    pure ([.name topic] :: flag ++ first ++ second)
  | .fi =>
    let time ← ofScript (Operand.timeTemplate count (← requiredPayload parameters ParameterTag.time 0))
    let values ← operandTemplates count "19" (payloadsWith parameters ParameterTag.value19)
    pure (time :: values)
  | .evStart =>
    let event ← operandTemplate count (← requiredPayload parameters ParameterTag.value 0)
    let list ← optionalTemplate (payloadsWith parameters ParameterTag.valueList)[0]? fun payload =>
      ofScript (Operand.listTemplate count payload)
    let values ← operandTemplates count "" ((payloadsWith parameters ParameterTag.value).drop 1)
    pure (event :: list ++ values)
  | .appear =>
    optionalTemplate (payloadsWith parameters ParameterTag.boolean)[0]? booleanTemplate
  | .turn =>
    let first ← operandTemplates count "08" (payloadsWith parameters ParameterTag.value08)[0]?.toList
    let second ← operandTemplates count "0D" (payloadsWith parameters ParameterTag.value0D)[0]?.toList
    let vector ← optionalTemplate (payloadsWith parameters ParameterTag.vector)[0]? fun payload =>
      ofScript (Operand.vectorTemplate count payload)
    let third ← operandTemplates count "10" (payloadsWith parameters ParameterTag.value10)[0]?.toList
    let fourth ← operandTemplates count "" (payloadsWith parameters ParameterTag.value)[0]?.toList
    pure (first ++ second ++ vector ++ third ++ fourth)

theorem ofScript_map {α β : Type} (f : α → β) (result : Except ScriptError α) : ofScript (f <$> result) = f <$> ofScript result := by
  cases result <;> rfl

section

variable (table : SymbolTable) (invocation : Invocation)

theorem payloadsWith_contents (tag : Int16) :
    payloadsWith invocation.contents.parameters tag = (invocation.parametersWith tag).map (·.payload) := by
  rw [payloadsWith, Invocation.contents, Invocation.parametersWith, List.filter_map, List.map_map]
  rfl

theorem requiredPayload_contents (tag : Int16) (nth : Nat) :
    requiredPayload invocation.contents.parameters tag nth = (·.payload) <$> invocation.required tag nth := by
  rw [requiredPayload, payloadsWith_contents, List.getElem?_map, Invocation.required, Invocation.parameter?]
  cases (invocation.parametersWith tag)[nth]? <;> rfl

theorem operand_eq_map (parameter : Parameter) :
    parameter.operand table = Template.fill table <$> operandTemplate table.size parameter.payload := by
  simp only [Parameter.operand, operandTemplate, Operand.resolveAt_eq_map, ofScript_map, map_bind, bind_map_left, map_pure,
    OperandForm.fill_template]

theorem boolean_eq_map (parameter : Parameter) : parameter.boolean = Template.fill table <$> booleanTemplate parameter.payload := by
  simp only [Parameter.boolean, booleanTemplate, map_bind, map_pure, Template.fill_text, Template.fill_nil, String.append_empty]

theorem operandsWith_eq_map (lead : String) (parameters : List Parameter) :
    operandsWith table lead parameters =
      List.map (Template.fill table) <$> operandTemplates table.size lead (parameters.map (·.payload)) := by
  induction parameters with
  | nil => rfl
  | cons parameter rest ih =>
    simp only [operandsWith, List.map_cons, operandTemplates, operand_eq_map, ih, map_bind, bind_map_left, map_pure, Template.fill_text]

theorem optional_eq_map {render : Parameter → RuleResult String} {template : Bytes → RuleResult Template}
    (h : ∀ parameter, render parameter = Template.fill table <$> template parameter.payload) (parameter : Option Parameter) :
    optional parameter render = List.map (Template.fill table) <$> optionalTemplate (parameter.map (·.payload)) template := by
  cases parameter with
  | none => rfl
  | some parameter =>
    simp only [optional, optionalTemplate, Option.map_some, h, map_bind, bind_map_left, map_pure, List.map_cons, List.map_nil]

theorem optional_ofScript_eq_map {render : Bytes → Except ScriptError String} {template : Bytes → Except ScriptError Template}
    (h : ∀ payload, render payload = Template.fill table <$> template payload) (parameter : Option Parameter) :
    (optional parameter fun parameter => ofScript (render parameter.payload)) =
      List.map (Template.fill table) <$> optionalTemplate (parameter.map (·.payload)) fun payload => ofScript (template payload) := by
  refine optional_eq_map table ?_ parameter
  intro parameter
  rw [h, ofScript_map]

/-- The condition of a jump. -/
theorem condition_eq_map (parameter : Option Parameter) :
    (optional parameter fun parameter => do
      let terms ← ofScript (Condition.read table parameter.payload)
      pure s!"if {Condition.render terms}") =
    List.map (Template.fill table) <$> optionalTemplate (parameter.map (·.payload)) fun payload => (do
      let condition ← ofScript (Condition.template table.size payload)
      pure (.text "if " :: condition)) := by
  refine optional_eq_map table ?_ parameter
  intro parameter
  have hread := congrArg (("if " ++ ·) <$> ofScript ·) (Condition.render_read_eq_map table parameter.payload)
  simp only [ofScript_map, Functor.map_map] at hread
  simp only [bind_pure_comp, Functor.map_map, Template.fill_text]
  exact hread

theorem assignment_eq_map (control index : Int32) (value : Template) :
    assignment table control index (value.fill table) = Template.fill table <$> assignmentTemplate table.size control index value := by
  have hunknown : Template.fill table [.text "Unknown"] = "Unknown" := by
    rw [Template.fill_text, Template.fill_nil, String.append_empty]
  rw [assignment, assignmentTemplate]
  rcases Control.ofCode? control with _ | _ | _ | _ | _
  · simp only [map_pure, hunknown]
  · simp only [map_pure, hunknown]
  · by_cases hsystem : index < Operand.memoryBase
    · simp only [if_pos hsystem]
      rfl
    · by_cases hsettable : isSettable index
      · simp only [if_neg hsystem, if_pos hsettable, map_pure, Template.fill_text]
        rfl
      · simp only [if_neg hsystem, if_neg hsettable, map_pure, hunknown]
  · simp only [map_pure, Template.fill_text]
    rfl
  · simp only [SymbolTable.get_eq_map, ofScript_map, map_bind, bind_map_left, map_pure, Template.fill_text, Template.fill_name,
      String.append_assoc]
    rfl

/-- The arguments of an instruction are their templates, filled in. -/
theorem arguments_eq_map (renderer : Renderer) (known : KnownCommand) :
    renderer.arguments known invocation = List.map (Template.fill renderer.symbols) <$>
      known.template renderer.symbols.size (jumpTarget renderer.invocations) invocation.contents.parameters := by
  have hnth : ∀ tag nth, (payloadsWith invocation.contents.parameters tag)[nth]? =
      (invocation.parameter? tag nth).map (·.payload) := by
    intro tag nth
    rw [payloadsWith_contents, List.getElem?_map, Invocation.parameter?]
  have htoList : ∀ parameter : Option Parameter, (parameter.map (·.payload)).toList = parameter.toList.map (·.payload) := by
    intro parameter
    cases parameter <;> rfl
  have hbooleans := optional_eq_map renderer.symbols (boolean_eq_map renderer.symbols)
  cases known with
  | evMode =>
    simp only [Renderer.arguments, KnownCommand.template, requiredPayload_contents, payloadsWith_contents, boolean_eq_map renderer.symbols,
      operandsWith_eq_map, map_bind, bind_map_left, map_pure, List.map_cons]
  | sceneSet =>
    simp only [Renderer.arguments, KnownCommand.template, requiredPayload_contents, operand_eq_map, map_bind, bind_map_left, map_pure,
      List.map_cons, List.map_nil]
  | wait =>
    rw [Renderer.arguments, KnownCommand.template, hnth]
    exact optional_ofScript_eq_map renderer.symbols (Operand.time_eq_map renderer.symbols) _
  | jump =>
    simp only [Renderer.arguments, KnownCommand.template, requiredPayload_contents, hnth, condition_eq_map, map_bind, bind_map_left, map_pure,
      List.map_cons, Template.fill_text, Template.fill_nil, String.append_empty]
  | set =>
    simp only [Renderer.arguments, KnownCommand.template, requiredPayload_contents, operand_eq_map, assignment_eq_map, map_bind,
      bind_map_left, map_pure, List.map_cons, List.map_nil]
  | flag =>
    simp only [Renderer.arguments, KnownCommand.template, requiredPayload_contents, boolean_eq_map renderer.symbols, map_bind,
      bind_map_left, map_pure, List.map_cons, List.map_nil]
  | topicGet =>
    simp only [Renderer.arguments, KnownCommand.template, requiredPayload_contents, hnth, htoList, hbooleans, operandsWith_eq_map,
      SymbolTable.get_eq_map, ofScript_map, map_bind, bind_map_left, map_pure, List.map_cons, List.map_append, Template.fill_name,
      Template.fill_nil, String.append_empty, List.cons_append]
  | fi =>
    simp only [Renderer.arguments, KnownCommand.template, requiredPayload_contents, payloadsWith_contents, operandsWith_eq_map,
      Operand.time_eq_map, ofScript_map, map_bind, bind_map_left, map_pure, List.map_cons]
  | evStart =>
    have hlists := optional_ofScript_eq_map renderer.symbols (Operand.list_eq_map renderer.symbols)
    have hvalues := payloadsWith_contents invocation ParameterTag.value
    simp only [Renderer.arguments, KnownCommand.template, requiredPayload_contents, hvalues, hnth, hlists, operand_eq_map,
      operandsWith_eq_map, List.map_drop, map_bind, bind_map_left, map_pure, List.map_cons, List.map_append]
  | appear =>
    rw [Renderer.arguments, KnownCommand.template, hnth]
    exact hbooleans _
  | turn =>
    have hvectors := optional_ofScript_eq_map renderer.symbols (Operand.vector_eq_map renderer.symbols)
    simp only [Renderer.arguments, KnownCommand.template, hnth, htoList, hvectors, operandsWith_eq_map, map_bind, bind_map_left, map_pure,
      List.map_append]

end

/-! ## Whole scripts

A template does not know addresses, so a fault in the operands of an instruction goes by the number of the instruction in the script. -/

/-- The template of an instruction. -/
def Invocation.template (count : Nat) (target : Int32 → String) (mode : RenderMode) (invocation : Invocation) :
    Except ScriptError Template :=
  match mode, KnownCommand.ofName? invocation.command.name with
  | .semantic, some known =>
    match known.template count target invocation.contents.parameters with
    | .ok arguments => .ok (.text (invocation.head ++ "(") :: Template.intercalate ", " arguments ++ [.text ")"])
    | .error (.missing _ _) => .ok [.text invocation.renderRaw]
    | .error (.fault error) => .error error
  | _, _ => .ok [.text invocation.renderRaw]

/-- The first of some instructions in the middle of all of them, and those behind it. -/
theorem getElem?_of_prefix_drop {all rest : List Invocation} {invocation : Invocation} {number : Nat}
    (h : invocation :: rest <+: all.drop number) : all[number]? = some invocation ∧ rest <+: all.drop (number + 1) := by
  obtain ⟨behind, hbehind⟩ := h
  constructor
  · rw [← List.head?_drop, ← hbehind, List.cons_append, List.head?_cons]
  · refine ⟨behind, ?_⟩
    rw [← List.tail_drop, ← hbehind, List.cons_append, List.tail_cons]

section

variable {α ε ε' : Type} (f : ε → ε')

theorem mapError_ok (a : α) : (Except.ok a : Except ε α).mapError f = .ok a :=
  rfl

theorem mapError_error (e : ε) : (Except.error e : Except ε α).mapError f = .error (f e) :=
  rfl

end

/-- The template of instructions that come after `number` others, when the text so far has come to the start of the line `current`, and
the line that it comes to. -/
def invocationsTemplate (template : Invocation → Except ScriptError Template) :
    (current number : Nat) → List Invocation → Except (Nat × ScriptError) (Template × Nat)
  | current, _, [] => pure ([], current)
  | current, number, invocation :: rest => do
    let blank := (invocation.line.toInt - current).toNat
    let first ← (template invocation).mapError (number, ·)
    let (others, final) ← invocationsTemplate template (current + blank + 1) (number + 1) rest
    pure (.text ("".pushn '\n' blank) :: first ++ .text "\n" :: others, final)

/-- The template of blocks, when the text so far has come to the start of the line `current`. -/
def blocksTemplate (template : Invocation → Except ScriptError Template) (invocations : List Invocation) :
    Nat → List Block → Except (Nat × ScriptError) Template
  | _, [] => pure []
  | current, block :: rest => do
    let gap := if block.first < block.past then 0 else 1
    let (own, next) ← invocationsTemplate template (current + 1 + gap) block.first (block.slice invocations)
    let others ← blocksTemplate template invocations next rest
    pure (.text (s!"== {block.name} ==\n" ++ "".pushn '\n' gap) :: own ++ others)

/-- The template of a script. -/
def Script.template (script : Script) (mode : RenderMode) : Except (Nat × ScriptError) Template :=
  blocksTemplate (Invocation.template script.symbols.size (jumpTarget script.invocations) mode) script.invocations 1 script.blocks

namespace Renderer

variable (renderer : Renderer)

/-- What becomes of a template: its names are looked up, and the address of the instruction is found for a fault. -/
def finish {α β : Type} (fill : α → β) : Except (Nat × ScriptError) α → Except ScriptError β
  | .ok a => .ok (fill a)
  | .error (number, cause) => .error (.rendering (((renderer.invocations[number]?).map (·.address)).getD 0) cause)

theorem render_eq_finish {number : Nat} {invocation : Invocation} (h : renderer.invocations[number]? = some invocation) :
    renderer.render invocation = renderer.finish (Template.fill renderer.symbols)
      ((invocation.template renderer.symbols.size (jumpTarget renderer.invocations) renderer.mode).mapError (number, ·)) := by
  have hraw : Template.fill renderer.symbols [.text invocation.renderRaw] = invocation.renderRaw := by
    rw [Template.fill_text, Template.fill_nil, String.append_empty]
  unfold render Invocation.template
  cases renderer.mode with
  | raw => simp only [mapError_ok, finish, hraw]
  | semantic =>
    cases KnownCommand.ofName? invocation.command.name with
    | none => simp only [mapError_ok, finish, hraw]
    | some known =>
      simp only [arguments_eq_map]
      rcases known.template _ _ invocation.contents.parameters with (_ | error) | arguments
      · simp only [Functor.map, Except.map, mapError_ok, finish, hraw]
      · simp only [Functor.map, Except.map, mapError_error, finish, h, Option.map_some, Option.getD_some]
      · simp only [Functor.map, Except.map, mapError_ok, finish, Template.fill_text, Template.fill_append, Template.fill_nil,
          Template.fill_intercalate, List.cons_append, String.append_assoc, String.append_empty]

theorem renderInvocations_eq_finish {number : Nat} (current : Nat) {instructions : List Invocation}
    (h : instructions <+: renderer.invocations.drop number) :
    renderer.renderInvocations current instructions =
      renderer.finish (fun (template, final) => (template.fill renderer.symbols, final))
        (invocationsTemplate (Invocation.template renderer.symbols.size (jumpTarget renderer.invocations) renderer.mode) current number
          instructions) := by
  induction instructions generalizing number current with
  | nil => rfl
  | cons invocation rest ih =>
    obtain ⟨hfirst, hrest⟩ := getElem?_of_prefix_drop h
    rw [renderInvocations, invocationsTemplate]
    simp only [renderer.render_eq_finish hfirst, ih _ hrest]
    rcases (invocation.template _ _ renderer.mode).mapError (number, ·) with ⟨other, cause⟩ | first
    · rfl
    · rcases invocationsTemplate _ _ (number + 1) rest with ⟨other, cause⟩ | ⟨others, final⟩
      · rfl
      · simp only [finish, bind, Except.bind, pure, Except.pure, Template.fill_text, Template.fill_append, List.cons_append,
          String.append_assoc]

theorem renderFrom_eq_finish (current : Nat) (blocks : List Block) :
    renderer.renderFrom current blocks = renderer.finish (Template.fill renderer.symbols)
      (blocksTemplate (Invocation.template renderer.symbols.size (jumpTarget renderer.invocations) renderer.mode) renderer.invocations
        current blocks) := by
  induction blocks generalizing current with
  | nil => rfl
  | cons block rest ih =>
    have hslice : block.slice renderer.invocations <+: renderer.invocations.drop block.first := List.take_prefix ..
    rw [renderFrom, blocksTemplate]
    simp only [renderer.renderInvocations_eq_finish _ hslice, ih]
    rcases invocationsTemplate _ _ block.first _ with ⟨other, cause⟩ | ⟨own, next⟩
    · rfl
    · simp only [finish, bind, Except.bind]
      rcases blocksTemplate _ _ next rest with ⟨other, cause⟩ | others
      · rfl
      · simp only [pure, Except.pure, Template.fill_text, Template.fill_append, List.cons_append, String.append_assoc]

end Renderer

/-- The raw form of instructions shows no symbol, and has no fault. -/
theorem exists_invocationsTemplate_raw (count : Nat) (target : Int32 → String) (current number : Nat) (instructions : List Invocation) :
    ∃ template final, invocationsTemplate (Invocation.template count target .raw) current number instructions = .ok (template, final) ∧
      template.names = [] := by
  induction instructions generalizing current number with
  | nil => exact ⟨[], current, rfl, rfl⟩
  | cons invocation rest ih =>
    obtain ⟨others, final, hrest, hnames⟩ := ih (current + (invocation.line.toInt - current).toNat + 1) (number + 1)
    refine ⟨.text ("".pushn '\n' (invocation.line.toInt - current).toNat) :: .text invocation.renderRaw :: .text "\n" :: others,
      final, ?_, hnames⟩
    rw [invocationsTemplate, hrest]
    rfl

/-- The raw form of blocks shows no symbol, and has no fault. -/
theorem exists_blocksTemplate_raw (count : Nat) (target : Int32 → String) (instructions : List Invocation) (current : Nat)
    (blocks : List Block) :
    ∃ template, blocksTemplate (Invocation.template count target .raw) instructions current blocks = .ok template ∧
      template.names = [] := by
  induction blocks generalizing current with
  | nil => exact ⟨[], rfl, rfl⟩
  | cons block rest ih =>
    obtain ⟨own, next, hown, hnames⟩ := exists_invocationsTemplate_raw count target
      (current + 1 + if block.first < block.past then 0 else 1) block.first (block.slice instructions)
    obtain ⟨others, hothers, hnames'⟩ := ih next
    rw [blocksTemplate]
    simp only [hown, bind, Except.bind, hothers, pure, Except.pure, Except.ok.injEq, exists_eq_left', List.cons_append,
      Template.names_text, Template.names_append, hnames, hnames', List.append_nil]

/-- A fault goes by the number of one of the instructions. -/
theorem exists_getElem?_of_invocationsTemplate_eq_error {template : Invocation → Except ScriptError Template} {all instructions : List Invocation}
    {current number other : Nat} {cause : ScriptError} (hall : instructions <+: all.drop number)
    (h : invocationsTemplate template current number instructions = .error (other, cause)) :
    ∃ invocation, all[other]? = some invocation := by
  induction instructions generalizing current number with
  | nil => cases h
  | cons invocation rest ih =>
    obtain ⟨hfirst, hrest⟩ := getElem?_of_prefix_drop hall
    rw [invocationsTemplate] at h
    cases htemplate : template invocation with
    | error fault =>
      simp only [htemplate, mapError_error, bind, Except.bind, Except.error.injEq, Prod.mk.injEq] at h
      obtain ⟨rfl, -⟩ := h
      exact ⟨invocation, hfirst⟩
    | ok first =>
      simp only [htemplate, mapError_ok, bind, Except.bind] at h
      cases hothers : invocationsTemplate template (current + (invocation.line.toInt - current).toNat + 1) (number + 1) rest with
      | error fault =>
        simp only [hothers, Except.error.injEq] at h
        subst h
        exact ih hrest hothers
      | ok result =>
        rw [hothers] at h
        cases h

theorem exists_getElem?_of_blocksTemplate_eq_error {template : Invocation → Except ScriptError Template} {instructions : List Invocation}
    {current number : Nat} {blocks : List Block} {cause : ScriptError}
    (h : blocksTemplate template instructions current blocks = .error (number, cause)) :
    ∃ invocation, instructions[number]? = some invocation := by
  induction blocks generalizing current with
  | nil => cases h
  | cons block rest ih =>
    rw [blocksTemplate] at h
    cases hown : invocationsTemplate template (current + 1 + if block.first < block.past then 0 else 1) block.first
        (block.slice instructions) with
    | error fault =>
      simp only [hown, bind, Except.bind, Except.error.injEq] at h
      subst h
      exact exists_getElem?_of_invocationsTemplate_eq_error (List.take_prefix ..) hown
    | ok own =>
      simp only [hown, bind, Except.bind] at h
      cases hothers : blocksTemplate template instructions own.2 rest with
      | error fault =>
        simp only [hothers, Except.error.injEq] at h
        subst h
        exact ih hothers
      | ok others =>
        rw [hothers] at h
        cases h

/-- The text of a script is its template, filled in. -/
theorem Script.decompile_eq_finish (script : Script) (mode : RenderMode) :
    script.decompile mode = (script.renderer mode).finish (Template.fill script.symbols) (script.template mode) :=
  (script.renderer mode).renderFrom_eq_finish 1 script.blocks

end SceneScript
