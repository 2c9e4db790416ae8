import SceneScript.Proofs.ConditionTerms
import SceneScript.Proofs.IllegalOperands
import SceneScript.Proofs.Locality

/-!
# Terms that test their left operand only

A term with the comparator 0x89 is shown as its left operand, and its right-hand pair has no part in the text. Reading resolves this
pair all the same, before the comparator is looked at. So what is shown of a condition does not depend on the right-hand pairs of such
terms as long as they name operands; one that names none makes a condition unreadable that could be shown without it
(`Condition.shown_of_agree`). That these pairs never matter is false (`Condition.shown_of_agree_false`).
-/

namespace SceneScript

open Bytes

/-- Two files of the same size that agree where a part is cut out give the same part, or the same fault. -/
theorem Bytes.slice_of_agree {buf file : Bytes} {pos count : Nat} (hsize : file.size = buf.size)
    (hsame : ∀ i, pos ≤ i → i < pos + count → file[i]? = buf[i]?) : file.slice pos count = buf.slice pos count := by
  by_cases hroom : pos + count ≤ buf.size
  · obtain ⟨part, rfl, hpart⟩ := exists_holds_of_le_size hroom
    rw [slice_eq_ok_iff.2 ⟨rfl, hpart⟩, slice_eq_ok_iff.2 ⟨rfl, hpart.of_agree hsize hsame⟩]
  · rw [slice, slice, ensure, ensure, hsize, if_neg hroom]
    rfl

theorem Bytes.exists_readInt32 {buf : Bytes} {pos : Nat} (h : pos + 4 ≤ buf.size) : ∃ word, buf.readInt32 pos = .ok word := by
  obtain ⟨part, hpart⟩ : ∃ part, buf.slice pos 4 = .ok part := ⟨_, by rw [slice, ensure, if_pos h]; rfl⟩
  exact ⟨_, by rw [readInt32, readUInt32, hpart]; rfl⟩

namespace Condition

/-! ## Bare terms -/

/-- The number of terms that a payload counts. -/
def termCount (payload : Bytes) : Nat :=
  match payload.readInt16 2 with
  | .ok count => count.toInt.toNat
  | .error _ => 0

/-- Where a term stands. -/
def termOffset (nth : Nat) : Nat :=
  headerSize + termSize * nth

/-- Where the right-hand pair of a term stands. -/
def rightOffset (nth : Nat) : Nat :=
  termOffset nth + 10

/-- The term is there, and tests its left operand only. -/
def IsBare (payload : Bytes) (nth : Nat) : Prop :=
  nth < termCount payload ∧ payload[termOffset nth]? = some 0x89

/-- The byte belongs to the right-hand pair of a term that tests its left operand only. -/
def IsUnused (payload : Bytes) (pos : Nat) : Prop :=
  ∃ nth, IsBare payload nth ∧ rightOffset nth ≤ pos ∧ pos < rightOffset nth + 8

/-- Two payloads of the same size that differ at most in the right-hand pairs of terms that test their left operand only. -/
structure AgreeOnUsed (payload other : Bytes) : Prop where
  size_eq : other.size = payload.size
  getElem?_eq : ∀ pos, ¬IsUnused payload pos → other[pos]? = payload[pos]?

/-- What a condition is shown as. -/
def shown (symbols : SymbolTable) (payload : Bytes) : Except ScriptError String :=
  (read symbols payload).map render

/-- The right-hand pairs of all terms that test their left operand only are legal. -/
def UnusedLegal (symbols : SymbolTable) (payload : Bytes) : Prop :=
  ∀ nth, IsBare payload nth → LegalAt symbols payload (rightOffset nth)

/-- The right-hand pair of the term has no part in its text, but names no operand, and this is its fault. -/
def FailsUnused (symbols : SymbolTable) (payload : Bytes) (nth : Nat) (e : ScriptError) : Prop :=
  IsBare payload nth ∧ ∃ control value, payload.readInt32 (rightOffset nth) = .ok control ∧
    payload.readInt32 (rightOffset nth + 4) = .ok value ∧ Operand.resolve symbols control value = .error e

/-! ## The bytes that two payloads share -/

variable {symbols : SymbolTable} {payload other : Bytes}

theorem not_isUnused_of_lt {pos : Nat} (h : pos < termOffset 0 + 10) : ¬IsUnused payload pos := by
  rintro ⟨nth, -, hle, -⟩
  simp only [rightOffset, termOffset, termSize] at h hle
  omega

/-- The right-hand pair is the last part of a term. -/
theorem not_isUnused_of_not_right {nth pos : Nat} (hle : termOffset nth ≤ pos) (hlt : pos < rightOffset nth) : ¬IsUnused payload pos := by
  rintro ⟨other, -, hle', hlt'⟩
  simp only [rightOffset, termOffset, termSize] at hle hlt hle' hlt'
  omega

theorem not_isUnused_of_not_isBare {nth pos : Nat} (hbare : ¬IsBare payload nth) (hle : termOffset nth ≤ pos)
    (hlt : pos < termOffset (nth + 1)) : ¬IsUnused payload pos := by
  rintro ⟨other, hother, hle', hlt'⟩
  simp only [rightOffset, termOffset, termSize] at hle hlt hle' hlt'
  obtain rfl : other = nth := by omega
  exact hbare hother

namespace AgreeOnUsed

theorem holds {part : Bytes} {pos : Nat} (h : AgreeOnUsed payload other) (hpart : payload.Holds pos part)
    (hused : ∀ i, pos ≤ i → i < pos + part.size → ¬IsUnused payload i) : other.Holds pos part :=
  hpart.of_agree h.size_eq fun i hle hlt => h.getElem?_eq i (hused i hle hlt)

/-- Both payloads count the same terms. -/
theorem readCount_eq (h : AgreeOnUsed payload other) : other.readInt16 2 = payload.readInt16 2 := by
  have hslice : other.slice 2 2 = payload.slice 2 2 := slice_of_agree h.size_eq fun i _ hlt => h.getElem?_eq i <|
    not_isUnused_of_lt (by simp only [termOffset, headerSize, termSize]; omega)
  rw [readInt16, readInt16, readUInt16, readUInt16, hslice]

theorem termCount_eq (h : AgreeOnUsed payload other) : termCount other = termCount payload := by
  rw [termCount, termCount, h.readCount_eq]

end AgreeOnUsed

/-! ## Terms that are read from both payloads -/

/-- A part with room for a pair holds one. -/
theorem exists_holds_pairBytes {pos : Nat} (h : pos + 8 ≤ payload.size) : ∃ pair, payload.Holds pos (pairBytes pair) := by
  obtain ⟨control, hcontrol⟩ : ∃ word, payload.readInt32 pos = .ok word := exists_readInt32 (by omega)
  obtain ⟨value, hvalue⟩ : ∃ word, payload.readInt32 (pos + 4) = .ok word := exists_readInt32 (by omega)
  exact ⟨(control, value), holds_append.2 ⟨readInt32_eq_ok_iff.1 hcontrol, readInt32_eq_ok_iff.1 hvalue⟩⟩

/-- A part with room for a term holds one. -/
theorem exists_holds_term {pos : Nat} (h : pos + termSize ≤ payload.size) : ∃ code : TermCode, payload.Holds pos code.toBytes := by
  simp only [termSize] at h
  obtain ⟨⟨codes⟩, hsize, hcodes⟩ : ∃ part : Bytes, part.size = 2 ∧ payload.Holds pos part := exists_holds_of_le_size (by omega)
  obtain ⟨left, hleft⟩ : ∃ pair, payload.Holds (pos + 2) (pairBytes pair) := exists_holds_pairBytes (by omega)
  obtain ⟨right, hright⟩ : ∃ pair, payload.Holds (pos + 10) (pairBytes pair) := exists_holds_pairBytes (by omega)
  obtain ⟨comparator, combinator, rfl⟩ := List.length_eq_two.1 hsize
  exact ⟨⟨comparator, combinator, left, right⟩, holds_append.2 ⟨holds_append.2 ⟨hcodes, hleft⟩, hright⟩⟩

/-- The parts of a term that stands somewhere. -/
theorem holds_termBytes_iff {pos : Nat} {code : TermCode} : payload.Holds pos code.toBytes ↔
    payload.Holds pos (#[code.comparator, code.combinator] ++ pairBytes code.left) ∧ payload.Holds (pos + 10) (pairBytes code.right) :=
  holds_append

/-- The comparator is the first byte of a term. -/
theorem comparator_of_holds {pos : Nat} {code : TermCode} (h : payload.Holds pos code.toBytes) : payload[pos]? = some code.comparator := by
  have hpos : pos < pos + code.toBytes.size := Nat.lt_add_of_pos_right (by rw [size_termBytes]; decide)
  rw [h.getElem?_part (Nat.le_refl pos) hpos, Nat.sub_self, TermCode.toBytes, Array.append_assoc]
  exact Array.getElem?_append_left (Nat.zero_lt_succ _)

/-- A term that stands in one payload stands in the other one, but for a right-hand pair that has no part in its text. -/
theorem AgreeOnUsed.exists_holds_term (h : AgreeOnUsed payload other) {nth : Nat} {code : TermCode}
    (hcode : payload.Holds (termOffset nth) code.toBytes) :
    ∃ right, other.Holds (termOffset nth) { code with right }.toBytes ∧ (code.comparator = 0x89 ∨ right = code.right) := by
  obtain ⟨hfront, hright⟩ := holds_termBytes_iff.1 hcode
  have hsize : (#[code.comparator, code.combinator] ++ pairBytes code.left).size = 10 := rfl
  have hfront' : other.Holds (termOffset nth) (#[code.comparator, code.combinator] ++ pairBytes code.left) :=
    h.holds hfront fun i hle hlt => not_isUnused_of_not_right hle (by rw [rightOffset]; omega)
  by_cases hbare : code.comparator = 0x89
  · have hroom := hright.le_size
    rw [size_pairBytes, ← h.size_eq] at hroom
    obtain ⟨right, hright'⟩ := exists_holds_pairBytes hroom
    exact ⟨right, holds_termBytes_iff.2 ⟨hfront', hright'⟩, .inl hbare⟩
  · refine ⟨code.right, holds_termBytes_iff.2 ⟨hfront', h.holds hright fun i hle hlt => ?_⟩, .inr rfl⟩
    have hcomparator : payload[termOffset nth]? = some code.comparator := comparator_of_holds hcode
    have hnot : ¬IsBare payload nth := fun hnot => hbare (Option.some.inj (hcomparator.symm.trans hnot.2))
    refine not_isUnused_of_not_isBare hnot (by omega) ?_
    rw [size_pairBytes] at hlt
    simp only [termOffset, termSize] at hlt ⊢
    omega

/-! ## What is read from both payloads -/

/-- Two terms have the same text, and are joined to the next term in the same way. -/
def ShownAlike (term other : ConditionTerm) : Prop :=
  term.text = other.text ∧ term.combinator = other.combinator

/-- Both computations end with the same fault, or with terms that are shown alike. -/
inductive SameOutcome : Except ScriptError (List ConditionTerm) → Except ScriptError (List ConditionTerm) → Prop where
  | fault (e : ScriptError) : SameOutcome (.error e) (.error e)
  | shown {terms others : List ConditionTerm} (h : List.Forall₂ ShownAlike terms others) : SameOutcome (.ok terms) (.ok others)

theorem render_eq_of_shownAlike {terms others : List ConditionTerm} (h : List.Forall₂ ShownAlike terms others) :
    render terms = render others := by
  induction h with
  | nil => rfl
  | @cons term other rest others hfirst hrest ih =>
    obtain ⟨htext, hcombinator⟩ := hfirst
    cases hrest with
    | nil => exact htext
    | cons =>
      rw [render_cons_cons, render_cons_cons, htext, hcombinator, ih]

theorem SameOutcome.map_render_eq {x y : Except ScriptError (List ConditionTerm)} (h : SameOutcome x y) : x.map render = y.map render := by
  cases h with
  | fault e => rfl
  | shown h => exact congrArg Except.ok (render_eq_of_shownAlike h)

/-- The right-hand pair of a term that stands somewhere has no part in its text, but names no operand. -/
theorem failsUnused_of_holds {nth : Nat} {code : TermCode} {e : ScriptError} (hnth : nth < termCount payload)
    (hcode : payload.Holds (termOffset nth) code.toBytes) (hbare : code.comparator = 0x89)
    (hfault : Operand.resolvePair symbols code.right = .error e) : FailsUnused symbols payload nth e := by
  obtain ⟨hcontrol, hvalue⟩ := holds_append.1 (holds_termBytes_iff.1 hcode).2
  refine ⟨⟨hnth, hbare ▸ comparator_of_holds hcode⟩, code.right.1, code.right.2, ?_, ?_, hfault⟩
  · exact readInt32_eq_ok_iff.2 hcontrol
  · exact readInt32_eq_ok_iff.2 hvalue

/-- A term is read from both payloads with the same fault or as terms that are shown alike, or reading it from one of the payloads fails
at the right-hand pair that has no part in the text. -/
theorem readTerm_of_agree (h : AgreeOnUsed payload other) (symbols : SymbolTable) {nth : Nat} (hnth : nth < termCount payload) :
    (∃ e, readTerm symbols payload (termOffset nth) = .error e ∧ readTerm symbols other (termOffset nth) = .error e) ∨
    (∃ term term', readTerm symbols payload (termOffset nth) = .ok term ∧ readTerm symbols other (termOffset nth) = .ok term' ∧
      ShownAlike term term') ∨
    (∃ e, FailsUnused symbols payload nth e ∧ readTerm symbols payload (termOffset nth) = .error e) ∨
    (∃ e, FailsUnused symbols other nth e ∧ readTerm symbols other (termOffset nth) = .error e) := by
  by_cases hroom : termOffset nth + termSize ≤ payload.size
  · obtain ⟨code, hcode⟩ := Condition.exists_holds_term hroom
    obtain ⟨right, hcode', hright⟩ := h.exists_holds_term hcode
    rw [readTerm_of_holds hcode, readTerm_of_holds hcode', TermCode.resolve, TermCode.resolve]
    cases hleft : Operand.resolvePair symbols code.left with
    | error e => exact .inl ⟨e, rfl, rfl⟩
    | ok left =>
      rcases hright with hbare | rfl
      · cases hfault : Operand.resolvePair symbols code.right with
        | error e => exact .inr (.inr (.inl ⟨e, failsUnused_of_holds hnth hcode hbare hfault, rfl⟩))
        | ok operand =>
          cases hfault' : Operand.resolvePair symbols right with
          | error e =>
            have hnth' : nth < termCount other := by rwa [h.termCount_eq]
            exact .inr (.inr (.inr ⟨e, failsUnused_of_holds hnth' hcode' hbare hfault', rfl⟩))
          | ok operand' =>
            refine .inr (.inl ⟨_, _, rfl, rfl, ?_, rfl⟩)
            simp only [ConditionTerm.text, hbare]
            rfl
      · cases Operand.resolvePair symbols code.right with
        | error e => exact .inl ⟨e, rfl, rfl⟩
        | ok operand => exact .inr (.inl ⟨_, _, rfl, rfl, rfl, rfl⟩)
  · refine .inl ⟨.unexpectedEnd (termOffset nth) termSize payload.size, ?_, ?_⟩
    · rw [readTerm, slice, ensure, if_neg hroom]
      rfl
    · rw [readTerm, slice, ensure, h.size_eq, if_neg hroom]
      rfl

/-- What holds of one term holds of several that follow one another: they are read from both payloads to the same outcome, or reading
them from one of the payloads ends at a right-hand pair that has no part in the text. -/
theorem readTerms_of_agree (h : AgreeOnUsed payload other) (symbols : SymbolTable) {count start : Nat} (hcount : start + count ≤ termCount payload) :
    SameOutcome (readTerms symbols payload count (termOffset start)) (readTerms symbols other count (termOffset start)) ∨
    (∃ nth e, FailsUnused symbols payload nth e ∧ readTerms symbols payload count (termOffset start) = .error e) ∨
    (∃ nth e, FailsUnused symbols other nth e ∧ readTerms symbols other count (termOffset start) = .error e) := by
  induction count generalizing start with
  | zero => exact .inl (.shown .nil)
  | succ count ih =>
    rw [readTerms, readTerms]
    rcases readTerm_of_agree h symbols (show start < termCount payload by omega) with
      ⟨e, hread, hread'⟩ | ⟨term, term', hread, hread', halike⟩ | ⟨e, hfails, hread⟩ | ⟨e, hfails, hread⟩
    · rw [hread, hread']
      exact .inl (.fault e)
    · rw [hread, hread']
      have hrest := @ih (start + 1) (by omega)
      rw [show termOffset (start + 1) = termOffset start + termSize from rfl] at hrest
      rcases hrest with hsame | ⟨nth, e, hfails, hrest⟩ | ⟨nth, e, hfails, hrest⟩
      · generalize readTerms symbols payload count (termOffset start + termSize) = x at hsame ⊢
        generalize readTerms symbols other count (termOffset start + termSize) = y at hsame ⊢
        cases hsame with
        | fault e => exact .inl (.fault e)
        | shown hterms => exact .inl (.shown (.cons halike hterms))
      · rw [hrest]
        exact .inr (.inl ⟨nth, e, hfails, rfl⟩)
      · rw [hrest]
        exact .inr (.inr ⟨nth, e, hfails, rfl⟩)
    · rw [hread]
      exact .inr (.inl ⟨start, e, hfails, rfl⟩)
    · rw [hread]
      exact .inr (.inr ⟨start, e, hfails, rfl⟩)

theorem read_eq_readTerms {count : Int16} (h : payload.readInt16 2 = .ok count) :
    read symbols payload = readTerms symbols payload (termCount payload) (termOffset 0) := by
  rw [read, termCount, h]
  rfl

/-- Two payloads are shown alike, or one of them ends at a right-hand pair that has no part in its text. -/
theorem shown_eq_or_of_agree (h : AgreeOnUsed payload other) (symbols : SymbolTable) : shown symbols payload = shown symbols other ∨
    (∃ nth e, FailsUnused symbols payload nth e ∧ shown symbols payload = .error e) ∨
    (∃ nth e, FailsUnused symbols other nth e ∧ shown symbols other = .error e) := by
  cases hcount : payload.readInt16 2 with
  | error e =>
    have hcount' : other.readInt16 2 = .error e := h.readCount_eq.trans hcount
    rw [shown, shown, read, read, hcount, hcount']
    exact .inl rfl
  | ok count =>
    rw [shown, shown, read_eq_readTerms hcount, read_eq_readTerms (h.readCount_eq.trans hcount), h.termCount_eq]
    have hall : 0 + termCount payload ≤ termCount payload := Nat.le_of_eq (Nat.zero_add _)
    rcases readTerms_of_agree h symbols hall with
      hsame | ⟨nth, e, hfails, hread⟩ | ⟨nth, e, hfails, hread⟩
    · exact .inl hsame.map_render_eq
    · exact .inr (.inl ⟨nth, e, hfails, by rw [hread]; rfl⟩)
    · exact .inr (.inr ⟨nth, e, hfails, by rw [hread]; rfl⟩)

theorem FailsUnused.not_unusedLegal {nth : Nat} {e : ScriptError} (h : FailsUnused symbols payload nth e) :
    ¬UnusedLegal symbols payload := by
  obtain ⟨hbare, control, value, hcontrol, hvalue, hfault⟩ := h
  intro hlegal
  obtain ⟨operand, hoperand⟩ := Operand.exists_resolve_iff.2 (hlegal nth hbare control value hcontrol hvalue)
  rw [hfault] at hoperand
  cases hoperand

/-- What is shown has legal pairs only, also where they have no part in the text. -/
theorem unusedLegal_of_shown {text : String} (h : shown symbols payload = .ok text) : UnusedLegal symbols payload := by
  obtain ⟨terms, hterms, -⟩ := map_eq_ok_iff.1 h
  intro nth hbare
  have hread := hterms
  simp only [read, bind_eq_ok_iff] at hread
  obtain ⟨count, hcount, -⟩ := hread
  have hnth : nth < count.toInt.toNat := by
    have hlt := hbare.1
    rwa [termCount, hcount] at hlt
  exact ((legal_condition_iff hcount).1 (legal_of_read hterms) nth hnth).2

/-- Two payloads that differ at most in the right-hand pairs of terms that test their left operand only are shown alike, as the same text
or with the same fault, unless one of them ends with the fault of such a pair. If one of them is shown as a text, the other one is shown
as the same text exactly if all of these pairs of it are legal. -/
theorem shown_of_agree (h : AgreeOnUsed payload other) (symbols : SymbolTable) :
    (shown symbols payload = shown symbols other ∨
      (∃ nth e, FailsUnused symbols payload nth e ∧ shown symbols payload = .error e) ∨
      (∃ nth e, FailsUnused symbols other nth e ∧ shown symbols other = .error e)) ∧
    ∀ text, shown symbols other = .ok text → (shown symbols payload = .ok text ↔ UnusedLegal symbols payload) := by
  have hsame := shown_eq_or_of_agree h symbols
  refine ⟨hsame, fun text htext => ⟨unusedLegal_of_shown, fun hlegal => ?_⟩⟩
  rcases hsame with hsame | ⟨nth, e, hfails, -⟩ | ⟨nth, e, -, hfault⟩
  · exact hsame.trans htext
  · exact absurd hlegal hfails.not_unusedLegal
  · rw [htext] at hfault
    cases hfault

/-! ## Samples -/

/-- A term that tests whether the number 7 is true, with a given right-hand pair. -/
def sampleBare (right : Int32 × Int32) : Bytes :=
  toBytes [⟨0x89, 0x80, (0x300, 7), right⟩]

theorem size_sampleBare (right : Int32 × Int32) : (sampleBare right).size = 22 :=
  size_toBytes _

theorem agreeOnUsed_sampleBare : AgreeOnUsed (sampleBare (0x302, 0)) (sampleBare (0x300, 0)) where
  size_eq := by rw [size_sampleBare, size_sampleBare]
  getElem?_eq := by
    intro pos hused
    by_cases hfront : pos < 14
    · have hsame : ∀ pos < 14, (sampleBare (0x300, 0))[pos]? = (sampleBare (0x302, 0))[pos]? := by decide
      exact hsame pos hfront
    · by_cases hpair : pos < 22
      · exact absurd ⟨0, ⟨by decide, by decide⟩, Nat.not_lt.1 hfront, hpair⟩ hused
      · rw [Array.getElem?_eq_none, Array.getElem?_eq_none] <;> rw [size_sampleBare] <;> exact Nat.not_lt.1 hpair

/-- The condition with a legal pair in the place that has no part in the text is shown, and the other one is not. -/
theorem shown_sampleBare : AgreeOnUsed (sampleBare (0x302, 0)) (sampleBare (0x300, 0)) ∧
    shown sampleSymbols (sampleBare (0x300, 0)) = .ok "lit 7" ∧
    ¬UnusedLegal sampleSymbols (sampleBare (0x302, 0)) ∧
    (shown sampleSymbols (sampleBare (0x302, 0)) = .ok "lit 7" ↔ UnusedLegal sampleSymbols (sampleBare (0x302, 0))) ∧
    shown sampleSymbols (sampleBare (0x302, 0)) = .error (.illegalMemoryCell 0) := by
  have hshown : shown sampleSymbols (sampleBare (0x300, 0)) = .ok "lit 7" := by rfl
  have hfault : shown sampleSymbols (sampleBare (0x302, 0)) = .error (.illegalMemoryCell 0) := by rfl
  have hiff := (shown_of_agree agreeOnUsed_sampleBare sampleSymbols).2 "lit 7" hshown
  refine ⟨agreeOnUsed_sampleBare, hshown, fun hlegal => ?_, hiff, hfault⟩
  have htext := hiff.2 hlegal
  rw [hfault] at htext
  cases htext

/-- That right-hand pairs of terms that test their left operand only never matter is false. -/
theorem shown_of_agree_false :
    ¬∀ (symbols : SymbolTable) (payload other : Bytes), AgreeOnUsed payload other → shown symbols payload = shown symbols other := by
  intro h
  have hsame := h sampleSymbols _ _ agreeOnUsed_sampleBare
  rw [show shown sampleSymbols (sampleBare (0x302, 0)) = .error (.illegalMemoryCell 0) by rfl,
    show shown sampleSymbols (sampleBare (0x300, 0)) = .ok "lit 7" by rfl] at hsame
  cases hsame

end Condition

end SceneScript
