import SceneScript.Proofs.Contents
import SceneScript.Proofs.Listings

/-!
# Conditions read back

A condition tells its own length and the number of its terms, and then gives the terms one after another, eighteen bytes each. So the
payload of a condition is found again among other bytes, and its terms are read back in order: reading resolves one pair of words after
another and ends with the first one that names no operand (`Condition.read_toBytes`). The text of what was read has the combinator of
each term but the last one behind it (`Condition.render_eq_joined`).
-/

namespace SceneScript

open Bytes

/-! ## Lists of computations that may fail -/

section

variable {ε α β : Type} {f : α → Except ε β} {a : α} {list rest : List α}

theorem mapM_cons_eq_error_iff {e : ε} :
    (a :: rest).mapM f = .error e ↔ f a = .error e ∨ (∃ b, f a = .ok b) ∧ rest.mapM f = .error e := by
  rw [List.mapM_cons]
  cases f a <;> cases rest.mapM f <;> simp [bind, Except.bind, pure, Except.pure]

theorem not_exists_eq_ok_iff {x : Except ε α} : (¬∃ a, x = .ok a) ↔ ∃ e, x = .error e := by
  cases x <;> simp

/-- A list of computations succeeds if all of its items do. -/
theorem exists_mapM_eq_ok_iff : (∃ out, list.mapM f = .ok out) ↔ ∀ a ∈ list, ∃ b, f a = .ok b := by
  induction list with
  | nil => exact iff_of_true ⟨[], rfl⟩ nofun
  | cons a rest ih =>
    rw [List.forall_mem_cons, ← ih]
    constructor
    · rintro ⟨out, h⟩
      obtain ⟨b, others, ha, hrest, -⟩ := mapM_cons_eq_ok_iff.1 h
      exact ⟨⟨b, ha⟩, others, hrest⟩
    · rintro ⟨⟨b, ha⟩, others, hrest⟩
      exact ⟨b :: others, mapM_cons_eq_ok_iff.2 ⟨b, others, ha, hrest, rfl⟩⟩

/-- A list of computations fails as the first of its items that fails. -/
theorem mapM_eq_error_iff {e : ε} : list.mapM f = .error e ↔
    ∃ before a after, list = before ++ a :: after ∧ (∀ b ∈ before, ∃ r, f b = .ok r) ∧ f a = .error e := by
  induction list with
  | nil => exact iff_of_false nofun fun ⟨_, _, _, h, _⟩ => absurd h (by simp)
  | cons first rest ih =>
    rw [mapM_cons_eq_error_iff, ih]
    constructor
    · rintro (hfirst | ⟨hfirst, before, a, after, rfl, hbefore, ha⟩)
      · exact ⟨[], first, rest, rfl, nofun, hfirst⟩
      · exact ⟨first :: before, a, after, rfl, List.forall_mem_cons.2 ⟨hfirst, hbefore⟩, ha⟩
    · rintro ⟨before, a, after, hlist, hbefore, ha⟩
      cases before with
      | nil =>
        obtain ⟨rfl, rfl⟩ := List.cons.inj hlist
        exact .inl ha
      | cons head before =>
        obtain ⟨rfl, rfl⟩ := List.cons.inj hlist
        obtain ⟨hhead, hbefore⟩ := List.forall_mem_cons.1 hbefore
        exact .inr ⟨hhead, before, a, after, rfl, hbefore, ha⟩

end

/-! ## Pairs -/

/-- What a pair of control code and value refers to. -/
def Operand.resolvePair (symbols : SymbolTable) (pair : Int32 × Int32) : Except ScriptError Operand :=
  resolve symbols pair.1 pair.2

namespace Condition

theorem size_pairBytes (pair : Int32 × Int32) : (pairBytes pair).size = 8 := rfl

theorem size_termBytes (code : TermCode) : code.toBytes.size = termSize := by
  simp [TermCode.toBytes, size_pairBytes, termSize]

/-- Where a pair stands, it is resolved. -/
theorem resolveAt_of_holds {symbols : SymbolTable} {payload : Bytes} {word : Nat} {pair : Int32 × Int32}
    (hword : 4 * word + 4 < UInt64.size) (h : payload.Holds (4 * word) (pairBytes pair)) :
    Operand.resolveAt symbols payload word = Operand.resolvePair symbols pair := by
  obtain ⟨hcontrol, hvalue⟩ := holds_append.1 h
  have hread : payload.readWord word = .ok pair.1 := by
    rw [readWord, wordOffset, Nat.mod_eq_of_lt (by omega)]
    exact readInt32_eq_ok_iff.2 hcontrol
  have hnext : payload.readWord (word + 1) = .ok pair.2 := by
    rw [readWord, wordOffset, Nat.mod_eq_of_lt (by omega)]
    exact readInt32_eq_ok_iff.2 hvalue
  rw [Operand.resolveAt, hread, hnext]
  rfl

/-! ## Terms -/

/-- The pairs of terms in the order in which they are resolved: the left one of a term, then the right one. -/
def pairs (codes : List TermCode) : List (Int32 × Int32) :=
  codes.flatMap fun code => [code.left, code.right]

/-- The term that a written one is read as. -/
def TermCode.resolve (symbols : SymbolTable) (code : TermCode) : Except ScriptError ConditionTerm := do
  let left ← Operand.resolvePair symbols code.left
  let right ← Operand.resolvePair symbols code.right
  pure { comparator := .ofCode code.comparator, combinator := .ofCode code.combinator, left, right }

/-- The term has the comparator, the combinator and the operands that the written one names. -/
structure TermCode.Means (symbols : SymbolTable) (code : TermCode) (term : ConditionTerm) : Prop where
  comparator_eq : term.comparator = .ofCode code.comparator
  combinator_eq : term.combinator = .ofCode code.combinator
  resolve_left : Operand.resolvePair symbols code.left = .ok term.left
  resolve_right : Operand.resolvePair symbols code.right = .ok term.right

variable {symbols : SymbolTable} {payload : Bytes}

theorem TermCode.resolve_eq_ok_iff {code : TermCode} {term : ConditionTerm} :
    code.resolve symbols = .ok term ↔ code.Means symbols term := by
  simp only [resolve, bind_eq_ok_iff, pure_eq_ok_iff]
  constructor
  · rintro ⟨left, hleft, right, hright, rfl⟩
    exact ⟨rfl, rfl, hleft, hright⟩
  · rintro ⟨hcomparator, hcombinator, hleft, hright⟩
    exact ⟨term.left, hleft, term.right, hright, by rw [← hcomparator, ← hcombinator]⟩

/-- Terms fail as their pairs do. -/
theorem mapM_resolve_eq_error_iff {codes : List TermCode} {e : ScriptError} :
    codes.mapM (TermCode.resolve symbols) = .error e ↔ (pairs codes).mapM (Operand.resolvePair symbols) = .error e := by
  induction codes with
  | nil => exact iff_of_false nofun nofun
  | cons code rest ih =>
    have hpairs : pairs (code :: rest) = code.left :: code.right :: pairs rest := rfl
    rw [hpairs, mapM_cons_eq_error_iff, mapM_cons_eq_error_iff, mapM_cons_eq_error_iff, ← ih, TermCode.resolve]
    cases Operand.resolvePair symbols code.left with
    | error cause => simp [bind, Except.bind]
    | ok left => cases Operand.resolvePair symbols code.right <;> simp [bind, Except.bind, pure, Except.pure]

/-- The parts that a term is read by. -/
theorem termBytes_parts (code : TermCode) : code.toBytes.extract 2 termSize = pairBytes code.left ++ pairBytes code.right ∧
    code.toBytes.getD 0 0 = code.comparator ∧ code.toBytes.getD 1 0 = code.combinator := by
  have hbytes : code.toBytes = #[code.comparator, code.combinator] ++ (pairBytes code.left ++ pairBytes code.right) :=
    Array.append_assoc
  have hsize : (pairBytes code.left ++ pairBytes code.right).size = 16 := by
    rw [Array.size_append, size_pairBytes, size_pairBytes]
  rw [hbytes]
  generalize pairBytes code.left ++ pairBytes code.right = rest at hsize ⊢
  have hfront : ∀ {nth : Nat}, nth < 2 →
      (#[code.comparator, code.combinator] ++ rest).getD nth 0 = #[code.comparator, code.combinator].getD nth 0 := by
    intro nth hnth
    rw [Array.getD_eq_getD_getElem?, Array.getElem?_append_left hnth, Array.getD_eq_getD_getElem?]
  refine ⟨?_, hfront (by decide), hfront (by decide)⟩
  rw [termSize, show 18 = 2 + rest.size by omega]
  have hextract : (#[code.comparator, code.combinator] ++ rest).extract 2 (2 + rest.size) = rest.extract 0 rest.size :=
    Array.extract_append_right
  exact hextract.trans Array.extract_size

/-- Where a term stands, it is read. -/
theorem readTerm_of_holds {offset : Nat} {code : TermCode} (h : payload.Holds offset code.toBytes) :
    readTerm symbols payload offset = code.resolve symbols := by
  have hslice : payload.slice offset termSize = .ok code.toBytes := slice_eq_ok_iff.2 ⟨size_termBytes code, h⟩
  obtain ⟨hpairs, hcomparator, hcombinator⟩ := termBytes_parts code
  obtain ⟨hleft, hright⟩ := holds_append.1 (holds_self (pairBytes code.left ++ pairBytes code.right))
  simp only [readTerm, hslice, bind, Except.bind, hpairs, hcomparator, hcombinator]
  rw [resolveAt_of_holds (by decide) hleft, resolveAt_of_holds (by decide) hright]
  rfl

/-- Where terms stand one after another, they are read in order. -/
theorem readTerms_of_holds {offset : Nat} {codes : List TermCode} (h : payload.Holds offset (concat (codes.map TermCode.toBytes))) :
    readTerms symbols payload codes.length offset = codes.mapM (TermCode.resolve symbols) := by
  induction codes generalizing offset with
  | nil => rfl
  | cons code rest ih =>
    rw [List.map_cons, concat_cons, holds_append] at h
    obtain ⟨hcode, hrest⟩ := h
    rw [size_termBytes] at hrest
    rw [List.length_cons, readTerms, readTerm_of_holds hcode, ih hrest, List.mapM_cons]

/-! ## Payloads -/

/-- The most terms that a condition can tell its length with. -/
def maxTerms : Nat := 1820

theorem toBytes_eq (codes : List TermCode) :
    toBytes codes = ofUInt16 (UInt16.ofNat (headerSize + termSize * codes.length)) ++ (ofUInt16 (UInt16.ofNat codes.length) ++
      concat (codes.map TermCode.toBytes)) := by
  rw [toBytes, foldl_append_eq_concat, Array.empty_append, Array.append_assoc]

theorem size_toBytes (codes : List TermCode) : (toBytes codes).size = headerSize + termSize * codes.length := by
  have hterms : (concat (codes.map TermCode.toBytes)).size = termSize * codes.length := by
    induction codes with
    | nil => rfl
    | cons code rest ih =>
      rw [List.map_cons, concat_cons, Array.size_append, ih, size_termBytes, List.length_cons, Nat.mul_succ, Nat.add_comm]
  rw [toBytes_eq, Array.size_append, Array.size_append, hterms, size_ofUInt16, size_ofUInt16, headerSize]
  omega

/-- A condition is as long as it says. -/
theorem parameterLength_toBytes {codes : List TermCode} (h : codes.length ≤ maxTerms) :
    parameterLength ParameterTag.condition (toBytes codes) 0 = .ok (toBytes codes).size := by
  have hlength : (UInt16.ofNat (headerSize + termSize * codes.length)).toInt16.toInt.toNat = headerSize + termSize * codes.length :=
    toNat_toInt16_ofNat (by simp only [headerSize, termSize, maxTerms] at h ⊢; omega)
  have hholds : (toBytes codes).Holds 0 (ofInt16 (UInt16.ofNat (headerSize + termSize * codes.length)).toInt16) := by
    rw [ofInt16, UInt16.toUInt16_toInt16, toBytes_eq]
    exact (holds_self _).append_left _
  refine parameterLength_eq_ok_iff.2 ⟨.halfWord, by decide, ?_⟩
  simp only [LengthRule.length, bind_eq_ok_iff, pure_eq_ok_iff, readInt16_eq_ok_iff]
  refine ⟨_, hholds, ?_⟩
  rw [size_toBytes]
  simp only [headerSize] at hlength ⊢
  omega

/-- Whatever follows a condition, its terms are read in order. -/
theorem read_toBytes_append {codes : List TermCode} (h : codes.length ≤ maxTerms) (rest : Bytes) :
    read symbols (toBytes codes ++ rest) = codes.mapM (TermCode.resolve symbols) := by
  have hwhole := (holds_self (toBytes codes)).append_left rest
  nth_rewrite 2 [toBytes_eq] at hwhole
  obtain ⟨-, hcount, hterms⟩ := (holds_append.1 hwhole).imp_right holds_append.1
  have hcount' : (toBytes codes ++ rest).readInt16 2 = .ok (UInt16.ofNat codes.length).toInt16 := by
    rw [readInt16_eq_ok_iff, ofInt16, UInt16.toUInt16_toInt16]
    exact hcount
  have hnat : (UInt16.ofNat codes.length).toInt16.toInt.toNat = codes.length :=
    toNat_toInt16_ofNat (by rw [maxTerms] at h; omega)
  rw [read, hcount']
  change readTerms symbols (toBytes codes ++ rest) (UInt16.ofNat codes.length).toInt16.toInt.toNat headerSize = _
  rw [hnat]
  exact readTerms_of_holds hterms

/-! ## Texts -/

/-- The texts of terms in order. In front of each term but the first one stands what joins the term before to it. -/
def joined (terms : List ConditionTerm) : String :=
  String.join (List.zipWith (fun separator term => separator ++ term.text)
    ("" :: terms.dropLast.map fun term => term.combinator.separator) terms)

theorem render_cons_cons (term next : ConditionTerm) (rest : List ConditionTerm) :
    render (term :: next :: rest) = term.text ++ term.combinator.separator ++ render (next :: rest) := rfl

theorem render_eq_joined (terms : List ConditionTerm) : render terms = joined terms := by
  induction terms with
  | nil => rfl
  | cons term rest ih =>
    cases rest with
    | nil => simp [render, joined]
    | cons next rest =>
      rw [render_cons_cons, ih, joined, joined]
      simp [String.append_assoc]

/-- A condition is as long as it says, also where other bytes stand around it. It is read exactly if all of its pairs name operands:
as its terms in order, and these are shown as their texts with what joins them in between. If not, reading ends with the fault of the
first pair that names no operand. -/
theorem read_toBytes {codes : List TermCode} (h : codes.length ≤ maxTerms) (symbols : SymbolTable) (front rest : Bytes) :
    parameterLength ParameterTag.condition (front ++ toBytes codes ++ rest) front.size = .ok (toBytes codes).size ∧
    ((∃ terms, read symbols (toBytes codes ++ rest) = .ok terms) ↔
      ∀ pair ∈ pairs codes, ∃ operand, Operand.resolvePair symbols pair = .ok operand) ∧
    (∀ terms, read symbols (toBytes codes ++ rest) = .ok terms →
      List.Forall₂ (TermCode.Means symbols) codes terms ∧ render terms = joined terms) ∧
    (∀ e, read symbols (toBytes codes ++ rest) = .error e ↔ ∃ before pair after, pairs codes = before ++ pair :: after ∧
      (∀ legal ∈ before, ∃ operand, Operand.resolvePair symbols legal = .ok operand) ∧ Operand.resolvePair symbols pair = .error e) := by
  have hread : read symbols (toBytes codes ++ rest) = codes.mapM (TermCode.resolve symbols) := read_toBytes_append h rest
  have hlength : parameterLength ParameterTag.condition (front ++ toBytes codes ++ rest) front.size = .ok (toBytes codes).size :=
    parameterLength_of_holds (holds_middle front (toBytes codes) rest) (parameterLength_toBytes h)
  have hfault : ∀ e, read symbols (toBytes codes ++ rest) = .error e ↔ (pairs codes).mapM (Operand.resolvePair symbols) = .error e :=
    fun e => by rw [hread, mapM_resolve_eq_error_iff]
  refine ⟨hlength, ?_, fun terms hterms => ⟨?_, render_eq_joined terms⟩, fun e => (hfault e).trans mapM_eq_error_iff⟩
  · rw [← exists_mapM_eq_ok_iff, ← not_iff_not, not_exists_eq_ok_iff, not_exists_eq_ok_iff]
    exact exists_congr hfault
  · rw [hread] at hterms
    exact (forall₂_of_mapM hterms).imp fun _ _ => TermCode.resolve_eq_ok_iff.1

/-! ## Samples -/

/-- Two symbols. -/
def sampleSymbols : SymbolTable :=
  ⟨[⟨0, "MAIN"⟩, ⟨9, "FLAG_TALKED"⟩]⟩

/-- Three terms; the last combinator has nothing to join. -/
def sampleCodes : List TermCode :=
  [⟨0x83, 0x80, (0x304, 1), (0x300, 1)⟩, ⟨0x86, 0x81, (0x303, 3), (0x300, 10)⟩, ⟨0x89, 0x80, (0x302, 0x1300), (0x300, 0)⟩]

/-- The terms that they are read as. -/
def sampleTerms : List ConditionTerm :=
  [⟨.eq, .and, .symbol "FLAG_TALKED", .literal 1⟩, ⟨.lt, .or, .moduleMemory 3, .literal 10⟩, ⟨.bare, .and, .memory 0x1300, .literal 0⟩]

/-- A term with two pairs that name no operand, behind the three others. -/
def sampleFaulty : List TermCode :=
  sampleCodes ++ [⟨0x84, 0x80, (0x302, 0x124E), (0x304, 2)⟩]

/-- The three terms are read and shown, and with the fourth one the cell of its left pair is reported. -/
theorem read_toBytes_sample : (sampleCodes.length ≤ maxTerms ∧
      parameterLength ParameterTag.condition (#[7] ++ toBytes sampleCodes ++ #[8, 9]) 1 = .ok 58 ∧
      read sampleSymbols (toBytes sampleCodes ++ #[8, 9]) = .ok sampleTerms ∧
      List.Forall₂ (TermCode.Means sampleSymbols) sampleCodes sampleTerms ∧
      render sampleTerms = joined sampleTerms ∧ joined sampleTerms = "var FLAG_TALKED == lit 1 && mmem 3 < lit 10 || memd 4864") ∧
    (sampleFaulty.length ≤ maxTerms ∧ read sampleSymbols (toBytes sampleFaulty ++ #[8, 9]) = .error (.illegalMemoryCell 0x124E)) := by
  have hshort : sampleCodes.length ≤ maxTerms := by decide
  have hshort' : sampleFaulty.length ≤ maxTerms := by decide
  have hread : read sampleSymbols (toBytes sampleCodes ++ #[8, 9]) = .ok sampleTerms := by rfl
  obtain ⟨hlength, hlegal, hterms, -⟩ := read_toBytes hshort sampleSymbols #[7] #[8, 9]
  obtain ⟨-, -, -, hfault⟩ := read_toBytes hshort' sampleSymbols #[7] #[8, 9]
  obtain ⟨hmeans, hrender⟩ := hterms sampleTerms hread
  refine ⟨⟨hshort, hlength, hread, hmeans, hrender, by rfl⟩, hshort', (hfault _).2 ?_⟩
  exact ⟨pairs sampleCodes, (0x302, 0x124E), [(0x304, 2)], rfl, hlegal.1 ⟨sampleTerms, hread⟩, by rfl⟩

end Condition

end SceneScript
