import Mathlib.Data.List.Forall2
import SceneScript.Proofs.Alignment
import SceneScript.Proofs.Reload

/-!
# Lines of edited scripts

Which symbols are spoken lines depends on what the symbols count as: voice ids, short codes, or other texts (`marks_eq_of_alike`).
An edit may store a text that counts as something else than the one before, and the lines of the edited script stay the symbols that
they were when the script was read. So they are the lines of its symbol table exactly when the same symbols are still marked, and they
are as long as every symbol counts as what it did (`Script.ExactTables.dialogue_runEdits`). `Script.dialogue_edit_false` is an edit
after which they are not.
-/

namespace SceneScript

/-! ## What counts as a line -/

/-- What a text counts as when spoken lines are looked for. -/
inductive TextKind where
  | voiceId
  | shortCode
  | other
  deriving DecidableEq, Repr

/-- A voice id is no short code. -/
def TextKind.of (text : String) : TextKind :=
  if isVoiceId text then .voiceId else if isShortCode text then .shortCode else .other

/-- What the symbols of a table count as. -/
def SymbolTable.kinds (table : SymbolTable) : List TextKind :=
  table.symbols.map fun symbol => .of symbol.text

theorem TextKind.of_eq_voiceId_iff {text : String} : of text = .voiceId ↔ isVoiceId text = true := by
  unfold of
  by_cases hvoice : isVoiceId text
  · simp [hvoice]
  · by_cases hshort : isShortCode text
    · simp [hvoice, hshort]
    · simp [hvoice, hshort]

namespace Dialogue

/-- Two symbols have the same number and count as the same. Voice ids also have the same text, which tells the speaker. -/
structure Alike (a b : Symbol × Nat) : Prop where
  number : a.2 = b.2
  kind : TextKind.of a.1.text = TextKind.of b.1.text
  voice : isVoiceId a.1.text = true → a.1.text = b.1.text

theorem Alike.isVoiceId_eq {a b : Symbol × Nat} (h : Alike a b) : isVoiceId a.1.text = isVoiceId b.1.text := by
  have hkind := @TextKind.of_eq_voiceId_iff a.1.text
  rw [h.kind, TextKind.of_eq_voiceId_iff] at hkind
  exact Bool.eq_iff_iff.2 hkind.symm

theorem Alike.isShortCode_eq {a b : Symbol × Nat} (h : Alike a b) : isShortCode a.1.text = isShortCode b.1.text := by
  by_cases hvoice : isVoiceId a.1.text
  · rw [h.voice hvoice]
  · have hvoice' : ¬ isVoiceId b.1.text := by rwa [← h.isVoiceId_eq]
    have hkind := h.kind
    simp only [TextKind.of, hvoice, hvoice'] at hkind
    cases hshort : isShortCode a.1.text <;> cases hshort' : isShortCode b.1.text <;> simp_all

section

variable {before before' symbols symbols' : List (Symbol × Nat)}

theorem forall₂_dropWhile (h : List.Forall₂ Alike before before') :
    List.Forall₂ Alike (before.dropWhile fun (symbol, _) => isVoiceId symbol.text)
      (before'.dropWhile fun (symbol, _) => isVoiceId symbol.text) := by
  induction h with
  | nil => exact .nil
  | @cons a b before before' halike hrest ih =>
    have hvoice := halike.isVoiceId_eq
    by_cases hb : isVoiceId b.1.text
    · rw [hb] at hvoice
      simp only [List.dropWhile_cons, hvoice, hb, if_true]
      exact ih
    · simp only [List.dropWhile_cons, hvoice, hb]
      exact .cons halike hrest

/-- The number of the symbol that a voice id belongs to depends on what the symbols before it count as. -/
theorem map_number_spoken? (h : List.Forall₂ Alike before before') : (spoken? before).map (·.2) = (spoken? before').map (·.2) := by
  have hdropped := forall₂_dropWhile h
  unfold spoken?
  generalize before.dropWhile (fun (symbol, _) => isVoiceId symbol.text) = others at hdropped ⊢
  generalize before'.dropWhile (fun (symbol, _) => isVoiceId symbol.text) = others' at hdropped ⊢
  cases hdropped with
  | nil => rfl
  | cons hnearest hrest =>
    cases hrest with
    | nil => exact congrArg some hnearest.number
    | cons hprevious _ =>
      simp only [hnearest.isShortCode_eq, hprevious.isVoiceId_eq, hprevious.isShortCode_eq]
      split
      · split
        · rfl
        · split
          · exact congrArg some hnearest.number
          · exact congrArg some hprevious.number
      · exact congrArg some hnearest.number

/-- What a voice id marks depends on what the symbols before it count as. -/
theorem map_mark_lineOf? (h : List.Forall₂ Alike before before') {voice voice' : Symbol × Nat} (hvoice : Alike voice voice') :
    (lineOf? before voice.1).map DialogueLine.mark = (lineOf? before' voice'.1).map DialogueLine.mark := by
  have hnumber := map_number_spoken? h
  cases hparse : VoiceId.parse? voice.1.text with
  | none =>
    have heq := hvoice.isVoiceId_eq
    rw [isVoiceId, isVoiceId, hparse] at heq
    have hother : VoiceId.parse? voice'.1.text = none := Option.not_isSome_iff_eq_none.1 (by rw [← heq]; nofun)
    rw [lineOf?, lineOf?, hparse, hother]
    rfl
  | some id =>
    have htext : voice.1.text = voice'.1.text := hvoice.voice (by rw [isVoiceId, hparse]; rfl)
    simp only [lineOf?, ← htext, hparse]
    cases hspoken : spoken? before with
    | none =>
      rw [hspoken] at hnumber
      cases hspoken' : spoken? before' with
      | none => rfl
      | some found' =>
        rw [hspoken', Option.map_none, Option.map_some] at hnumber
        exact absurd hnumber (by simp)
    | some found =>
      rw [hspoken] at hnumber
      cases hspoken' : spoken? before' with
      | none =>
        rw [hspoken', Option.map_none, Option.map_some] at hnumber
        exact absurd hnumber (by simp)
      | some found' =>
        rw [hspoken', Option.map_some, Option.map_some, Option.some.injEq] at hnumber
        simp [DialogueLine.mark, hnumber]

theorem map_mark_marked (hbefore : List.Forall₂ Alike before before') (hsymbols : List.Forall₂ Alike symbols symbols') :
    (marked before symbols).map DialogueLine.mark = (marked before' symbols').map DialogueLine.mark := by
  induction hsymbols generalizing before before' with
  | nil => rfl
  | @cons voice voice' symbols symbols' hvoice _ ih =>
    have hline := congrArg Option.toList (map_mark_lineOf? hbefore hvoice)
    rw [Option.toList_map, Option.toList_map] at hline
    rw [marked, marked, List.map_append, List.map_append, hline, ih (.cons hvoice hbefore)]

end

/-- Which lines are kept depends on their marks. -/
theorem map_mark_keepFirst (taken : List Nat) {lines lines' : List DialogueLine}
    (h : lines.map DialogueLine.mark = lines'.map DialogueLine.mark) :
    (keepFirst taken lines).map DialogueLine.mark = (keepFirst taken lines').map DialogueLine.mark := by
  induction lines generalizing taken lines' with
  | nil =>
    rw [List.map_nil, eq_comm, List.map_eq_nil_iff] at h
    rw [h]
  | cons line rest ih =>
    cases lines' with
    | nil => nomatch h
    | cons line' rest' =>
      simp only [List.map_cons, List.cons.injEq] at h
      obtain ⟨hmark, hrest⟩ := h
      have hnumber : line.symbolIndex = line'.symbolIndex := congrArg LineMark.symbolIndex hmark
      unfold keepFirst
      rw [hnumber]
      split
      · exact ih taken hrest
      · rw [List.map_cons, List.map_cons, hmark, ih _ hrest]

end Dialogue

/-! ## The marks of a table -/

/-- Lines in the order of their positions are lines in the order of their symbols. -/
theorem SymbolTable.marks_eq_mergeSort {table : SymbolTable} (h : table.symbols.Pairwise fun a b => a.offset < b.offset) :
    table.marks =
      ((Dialogue.keepFirst [] (Dialogue.marked [] table.symbols.zipIdx)).map DialogueLine.mark).mergeSort
        fun a b => a.symbolIndex ≤ b.symbolIndex := by
  have hsymbol : ∀ line ∈ Dialogue.keepFirst [] (Dialogue.marked [] table.symbols.zipIdx), line.IsSymbol table := by
    intro line hline
    refine Dialogue.isSymbol_of_mem_extract ?_
    rwa [Dialogue.extract, List.mem_mergeSort]
  refine List.map_mergeSort fun a ha b hb => decide_eq_decide.2 ?_
  have hbehind := (hsymbol b hb).offset_lt_iff (hsymbol a ha) h
  show a.offset ≤ b.offset ↔ a.symbolIndex ≤ b.symbolIndex
  omega

/-- Tables whose symbols count as the same mark the same symbols. -/
theorem SymbolTable.marks_eq_of_alike {table edited : SymbolTable} (h : table.symbols.Pairwise fun a b => a.offset < b.offset)
    (h' : edited.symbols.Pairwise fun a b => a.offset < b.offset)
    (halike : List.Forall₂ Dialogue.Alike edited.symbols.zipIdx table.symbols.zipIdx) : edited.marks = table.marks := by
  rw [marks_eq_mergeSort h, marks_eq_mergeSort h', Dialogue.map_mark_keepFirst [] (Dialogue.map_mark_marked .nil halike)]

/-- Tables in which every symbol counts as the same, and the voice ids have the same texts, have symbols that are alike. -/
theorem SymbolTable.forall₂_alike {table edited : SymbolTable} (hkinds : edited.kinds = table.kinds)
    (hvoice : ∀ {index : Nat} {symbol : Symbol}, table.symbols[index]? = some symbol → isVoiceId symbol.text = true →
      (edited.symbols[index]?).map (·.text) = some symbol.text) :
    List.Forall₂ Dialogue.Alike edited.symbols.zipIdx table.symbols.zipIdx := by
  have hlength := congrArg List.length hkinds
  simp only [kinds, List.length_map] at hlength
  rw [List.forall₂_iff_get]
  refine ⟨by simp only [List.length_zipIdx, hlength], fun index hindex hindex' => ?_⟩
  rw [List.length_zipIdx] at hindex hindex'
  have hkind : TextKind.of edited.symbols[index].text = TextKind.of table.symbols[index].text := by
    have hget := congrArg (·[index]?) hkinds
    simpa only [kinds, List.getElem?_map, List.getElem?_eq_getElem hindex, List.getElem?_eq_getElem hindex', Option.map_some,
      Option.some.injEq] using hget
  simp only [List.get_eq_getElem, List.getElem_zipIdx, Nat.zero_add]
  refine ⟨rfl, hkind, fun hvoice' => ?_⟩
  rw [← TextKind.of_eq_voiceId_iff, hkind, TextKind.of_eq_voiceId_iff] at hvoice'
  have htext := hvoice (List.getElem?_eq_getElem hindex') hvoice'
  rwa [List.getElem?_eq_getElem hindex, Option.map_some, Option.some.injEq] at htext

/-! ## Lines after edits -/

namespace Script

/-- The lines of an aligned script are those of its table exactly when their marks are. -/
theorem LaidOut.dialogue_eq_extract_iff {script : Script} {image : Image} {start : BlockEntry → UInt32} (h : script.LaidOut image start)
    (haligned : script.Aligned) :
    script.dialogue = Dialogue.extract script.symbols ↔ script.symbols.marks = script.dialogue.map DialogueLine.mark := by
  have hsymbol := haligned.isSymbol
  have hlines := Texts.map_line_marks image.texts script.encoding
  rw [← h.symbols] at hlines
  rw [h.symbols] at hsymbol
  constructor
  · intro hdialogue
    rw [hdialogue, SymbolTable.marks]
  · intro hmarks
    rw [← hlines, hmarks, List.map_map]
    exact ((List.map_congr_left fun line hline => (hsymbol line hline).line_mark).trans (List.map_id _)).symm

/-- Requests leave the voice ids as they are. -/
theorem LaidOut.map_text_runEdits_of_isVoiceId {script : Script} {image : Image} {start : BlockEntry → UInt32}
    {requests : List EditRequest} (h : script.LaidOut image start) (haligned : script.Aligned) (hsmall : script.StaysSmall requests)
    (hdialogue : script.dialogue = Dialogue.extract script.symbols) {index : Nat} {symbol : Symbol}
    (hsymbol : script.symbols.symbols[index]? = some symbol) (hvoice : isVoiceId symbol.text = true) :
    ((script.runEdits requests).symbols.symbols[index]?).map (·.text) = some symbol.text := by
  rw [h.map_text_runEdits haligned hsmall, hsymbol, Option.map_some]
  -- Only symbols of lines are edited, and these are no voice ids.
  intro hedited
  obtain ⟨request, -, hline⟩ := exists_of_mem_editedSymbols hedited
  rw [List.getElem?_map, Option.map_eq_some_iff] at hline
  obtain ⟨line, hline, rfl⟩ := hline
  have hmem := List.mem_of_getElem? hline
  rw [hdialogue] at hmem
  obtain ⟨same, hsame, hother, -⟩ := Dialogue.exists_symbol_of_mem_extract hmem
  rw [hsymbol, Option.some.injEq] at hsame
  rw [hsame, hother] at hvoice
  exact Bool.false_ne_true hvoice

/-- Reading the edited file gives the lines of the edited symbol table, if the blocks of the script start at signed positions. They are
the lines of the edited script exactly when the same symbols are marked as before the edits, as they are if every symbol counts as what
it did. -/
theorem ExactTables.dialogue_runEdits {catalog : Catalog} {script : Script} (h : script.ExactTables catalog)
    {requests : List EditRequest} (hsmall : script.StaysSmall requests) :
    ((∀ block ∈ script.blocks, block.start.toNat < sizeLimit) →
      ∃ fresh, parse? (script.runEdits requests).bytes catalog script.encoding = .ok (some fresh) ∧
        fresh.dialogue = Dialogue.extract (script.runEdits requests).symbols) ∧
    ((script.runEdits requests).dialogue = Dialogue.extract (script.runEdits requests).symbols ↔
      (script.runEdits requests).symbols.marks = script.symbols.marks) ∧
    ((script.runEdits requests).symbols.kinds = script.symbols.kinds →
      (script.runEdits requests).dialogue = Dialogue.extract (script.runEdits requests).symbols) := by
  obtain ⟨image, start, hlaid⟩ := h.exists_laidOut hsmall.size_lt
  obtain ⟨image', start', hlaid'⟩ := hlaid.exists_runEdits hsmall
  have haligned := h.aligned hsmall.size_lt
  have haligned' := hlaid.aligned_runEdits haligned hsmall
  have hdialogue := dialogue_eq_extract_of_parse? h.parsed
  have hkept : (script.runEdits requests).dialogue.map DialogueLine.mark = script.symbols.marks := by
    rw [SymbolTable.marks, ← hdialogue]
    refine runEdits_keep (·.dialogue.map DialogueLine.mark) (fun script patch bytes => ?_) script requests
    rw [rebase, List.map_map]
    rfl
  have hiff := hlaid'.dialogue_eq_extract_iff haligned'
  rw [hkept] at hiff
  refine ⟨fun hstart => ?_, hiff, fun hkinds => hiff.2 ?_⟩
  · obtain ⟨fresh, hparse, -, hfinds⟩ := h.exists_reloaded hstart hsmall
    refine ⟨fresh, hparse, ?_⟩
    rw [← hfinds.symbols]
    exact dialogue_eq_extract_of_parse? hparse
  · exact SymbolTable.marks_eq_of_alike haligned.symbols_lt haligned'.symbols_lt
      (SymbolTable.forall₂_alike hkinds (hlaid.map_text_runEdits_of_isVoiceId haligned hsmall hdialogue))

/-- The lines of the sample after requests that leave what its symbols count as. -/
theorem dialogue_sample :
    sample.ExactTables Catalog.sample ∧ sample.StaysSmall sampleRequests ∧ (∀ block ∈ sample.blocks, block.start.toNat < sizeLimit) ∧
      (sample.runEdits sampleRequests).symbols.kinds = sample.symbols.kinds ∧
      (∃ fresh, parse? (sample.runEdits sampleRequests).bytes Catalog.sample sample.encoding = .ok (some fresh) ∧
        fresh.dialogue = Dialogue.extract (sample.runEdits sampleRequests).symbols) ∧
      (sample.runEdits sampleRequests).symbols.marks = sample.symbols.marks ∧
      (sample.runEdits sampleRequests).dialogue = Dialogue.extract (sample.runEdits sampleRequests).symbols := by
  have hstart : ∀ block ∈ sample.blocks, block.start.toNat < sizeLimit := by decide +kernel
  have hkinds : (sample.runEdits sampleRequests).symbols.kinds = sample.symbols.kinds := by decide +kernel
  obtain ⟨hfresh, hiff, hlines⟩ := consistent_sample.toExactTables.dialogue_runEdits staysSmall_sample
  exact ⟨consistent_sample.toExactTables, staysSmall_sample, hstart, hkinds, hfresh hstart, hiff.1 (hlines hkinds), hlines hkinds⟩

end Script

/-! ## A line that turns into a short code -/

/-- The sample with a short code for its second line. -/
def Image.sampleCoded : Image :=
  sample.retext 3 #[97, 49]

theorem Image.edit?_sampleCoded : sample.edit? View.sample 1 "a1" 256 = some (sampleCoded, ⟨1, -2, none⟩) := by
  rfl

/-- The lines of an edited script need not be those of its symbol table: a short code directly after a voice id belongs to the line
of that id, so the second line of the sample is none any more, and the script still has it. -/
theorem Script.dialogue_edit_false :
    sample.Consistent Catalog.sample ∧
      ∃ edited outcome, sample.edit 1 "a1" 256 = .ok (edited, outcome) ∧ edited.dialogue.map (·.symbolIndex) = [1, 3] ∧
        (Dialogue.extract edited.symbols).map (·.symbolIndex) = [1] ∧ edited.dialogue ≠ Dialogue.extract edited.symbols := by
  obtain ⟨edited, hedit, -, heq⟩ := Image.exists_edit_script Image.valid_sample Image.fits_sample Image.edit?_sampleCoded
  have hsize : Image.sampleCoded.toBytes.size < sizeLimit := by
    rw [Image.size_toBytes]
    decide +kernel
  obtain rfl := heq hsize
  have hlive : (Image.sampleCoded.script View.sample).dialogue.map (·.symbolIndex) = [1, 3] := by decide +kernel
  have hfound : (Dialogue.extract (Image.sampleCoded.script View.sample).symbols).map (·.symbolIndex) = [1] := by
    rw [Dialogue.extract, List.mergeSort_of_pairwise (by decide +kernel)]
    decide +kernel
  refine ⟨consistent_sample, _, _, hedit, hlive, hfound, ?_⟩
  intro hsame
  rw [hsame, hfound] at hlive
  nomatch hlive

end SceneScript
