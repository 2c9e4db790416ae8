import SceneScript.Proofs.EditFrame

/-!
# Lines beside their symbols

`Script.Aligned` says that the symbols and the lines of a script stand one behind the other, and that every line is its symbol: it has
its position, and its text with real line breaks. A script that has just been read is aligned, and edits keep it so
(`Script.ExactTables.aligned`). What an edit does to an aligned script is `Script.EditsLine`: what stands behind the line moves by the
difference in length, the line and its symbol get the text that is stored, and no other text changes
(`Script.ExactTables.editsLine_of_edit`). So requests leave the texts of all symbols that they do not edit
(`Script.LaidOut.map_text_runEdits`).
-/

namespace SceneScript

/-! ## Symbols and lines in their order -/

/-- The symbols that texts are read as stand one behind the other. -/
theorem Texts.pairwise_offset_symbolTable (texts : Texts) (encoding : Encoding) :
    (texts.symbolTable encoding).symbols.Pairwise fun a b => a.offset < b.offset := by
  rw [List.pairwise_iff_getElem]
  intro first second hfirst hsecond hlt
  have hlength : (texts.symbolTable encoding).symbols.length = texts.symbols.length := length_symbolsFrom ..
  have hread := @symbolTable_getElem? texts encoding first (by omega)
  have hread' := @symbolTable_getElem? texts encoding second (by omega)
  rw [List.getElem?_eq_getElem hfirst, Option.some.injEq] at hread
  rw [List.getElem?_eq_getElem hsecond, Option.some.injEq] at hread'
  rw [hread, hread']
  exact symbolOffset_lt hlt (by omega)

/-- Lines of a table stand in the order of their symbols. -/
theorem DialogueLine.IsSymbol.offset_lt_iff {table : SymbolTable} {a b : DialogueLine} (ha : a.IsSymbol table) (hb : b.IsSymbol table)
    (h : table.symbols.Pairwise fun a b => a.offset < b.offset) : a.offset < b.offset ↔ a.symbolIndex < b.symbolIndex := by
  obtain ⟨symbol, hsymbol, -, hoffset⟩ := ha
  obtain ⟨symbol', hsymbol', -, hoffset'⟩ := hb
  obtain ⟨hlt, rfl⟩ := List.getElem?_eq_some_iff.1 hsymbol
  obtain ⟨hlt', rfl⟩ := List.getElem?_eq_some_iff.1 hsymbol'
  rw [List.pairwise_iff_getElem] at h
  rw [hoffset, hoffset']
  rcases Nat.lt_trichotomy a.symbolIndex b.symbolIndex with hindex | hindex | hindex
  · have hbehind := h _ _ hlt hlt' hindex
    omega
  · simp only [hindex, Nat.lt_irrefl]
  · have hbehind := h _ _ hlt' hlt hindex
    omega

/-- The lines that are found in a table stand one behind the other if its symbols do. -/
theorem Dialogue.pairwise_offset_extract {table : SymbolTable} (h : table.symbols.Pairwise fun a b => a.offset < b.offset) :
    (extract table).Pairwise fun a b => a.offset < b.offset := by
  have hsorted : (extract table).Pairwise fun a b => a.offset ≤ b.offset := by
    have hmerge := @List.pairwise_mergeSort DialogueLine (fun a b => decide (a.offset ≤ b.offset))
      (by simp only [decide_eq_true_eq]; omega) (by simp only [Bool.or_eq_true, decide_eq_true_eq]; omega)
      (keepFirst [] (marked [] table.symbols.zipIdx))
    simpa only [extract, decide_eq_true_eq] using hmerge
  have hdistinct : (extract table).Pairwise fun a b => a.symbolIndex ≠ b.symbolIndex :=
    List.pairwise_map.1 (nodup_symbolIndex_extract table)
  refine (hsorted.and hdistinct).imp_of_mem ?_
  rintro a b ha hb ⟨hle, hne⟩
  have hiff := (isSymbol_of_mem_extract ha).offset_lt_iff (isSymbol_of_mem_extract hb) h
  have hiff' := (isSymbol_of_mem_extract hb).offset_lt_iff (isSymbol_of_mem_extract ha) h
  omega

namespace Script

/-- The symbols and the lines stand one behind the other, and every line is its symbol. -/
structure Aligned (script : Script) : Prop where
  symbols_lt : script.symbols.symbols.Pairwise fun a b => a.offset < b.offset
  lines_lt : script.dialogue.Pairwise fun a b => a.offset < b.offset
  isSymbol : ∀ line ∈ script.dialogue, line.IsSymbol script.symbols

/-- In an aligned script the lines are in the order of their symbols. -/
theorem Aligned.pairwise_symbolIndex {script : Script} (h : script.Aligned) :
    script.dialogue.Pairwise fun a b => a.symbolIndex < b.symbolIndex := by
  refine h.lines_lt.imp_of_mem ?_
  intro a b ha hb hlt
  exact ((h.isSymbol a ha).offset_lt_iff (h.isSymbol b hb) h.symbols_lt).1 hlt

/-- Lines in the order of their symbols stand one behind the other. -/
theorem Aligned.of_symbolIndex_lt {script : Script} (hsymbols : script.symbols.symbols.Pairwise fun a b => a.offset < b.offset)
    (hlines : script.dialogue.Pairwise fun a b => a.symbolIndex < b.symbolIndex)
    (hsymbol : ∀ line ∈ script.dialogue, line.IsSymbol script.symbols) : script.Aligned := by
  refine ⟨hsymbols, hlines.imp_of_mem ?_, hsymbol⟩
  intro a b ha hb hlt
  exact ((hsymbol a ha).offset_lt_iff (hsymbol b hb) hsymbols).2 hlt

/-- One line comes before another exactly if its symbol does. -/
theorem Aligned.symbolIndex_lt_iff {script : Script} (h : script.Aligned) {first second : Nat} {a b : DialogueLine}
    (ha : script.dialogue[first]? = some a) (hb : script.dialogue[second]? = some b) :
    a.symbolIndex < b.symbolIndex ↔ first < second := by
  have horder := List.pairwise_iff_getElem.1 h.pairwise_symbolIndex
  obtain ⟨hlt, rfl⟩ := List.getElem?_eq_some_iff.1 ha
  obtain ⟨hlt', rfl⟩ := List.getElem?_eq_some_iff.1 hb
  rcases Nat.lt_trichotomy first second with hindex | rfl | hindex
  · have hbefore := horder _ _ hlt hlt' hindex
    omega
  · simp only [Nat.lt_irrefl]
  · have hbefore := horder _ _ hlt' hlt hindex
    omega

/-- A script whose lines are those of its table is aligned if its symbols stand one behind the other. -/
theorem Aligned.of_extract {script : Script} (hsymbols : script.symbols.symbols.Pairwise fun a b => a.offset < b.offset)
    (hdialogue : script.dialogue = Dialogue.extract script.symbols) : script.Aligned := by
  refine ⟨hsymbols, ?_, ?_⟩
  · rw [hdialogue]
    exact Dialogue.pairwise_offset_extract hsymbols
  · intro line hline
    rw [hdialogue] at hline
    exact Dialogue.isSymbol_of_mem_extract hline

/-! ## What an edit does to symbols and lines -/

/-- An edit of the line `index`, which is the symbol `number`, to the text `stored`: the symbols and lines behind it have moved by
`delta`, the symbol has the text and the line its real line breaks, no other text has changed, and the lines are the same symbols with
the same speakers and voices as before. -/
structure EditsLine (script edited : Script) (index number : Nat) (stored : String) (delta : Int) : Prop where
  symbols_length : edited.symbols.symbols.length = script.symbols.symbols.length
  marks : edited.dialogue.map DialogueLine.mark = script.dialogue.map DialogueLine.mark
  symbol : ∀ {other : Nat} {symbol symbol' : Symbol}, script.symbols.symbols[other]? = some symbol →
    edited.symbols.symbols[other]? = some symbol' →
    (symbol'.offset : Int) = symbol.offset + (if number < other then delta else 0) ∧
      symbol'.text = if other = number then stored else symbol.text
  line : ∀ {other : Nat} {line line' : DialogueLine}, script.dialogue[other]? = some line → edited.dialogue[other]? = some line' →
    (line'.offset : Int) = line.offset + (if index < other then delta else 0) ∧
      line'.text = if other = index then LineBreak.unescape stored else line.text

/-- Nothing is an edit by nothing, to the text that the line has already. -/
theorem EditsLine.refl {script : Script} (h : script.Aligned) {index : Nat} {line : DialogueLine}
    (hline : script.dialogue[index]? = some line) : ∃ stored, script.EditsLine script index line.symbolIndex stored 0 := by
  obtain ⟨symbol, hsymbol, htext, -⟩ := h.isSymbol line (List.mem_of_getElem? hline)
  refine ⟨symbol.text, rfl, rfl, ?_, ?_⟩
  · intro other same same' hsame hsame'
    rw [hsame, Option.some.injEq] at hsame'
    subst hsame'
    refine ⟨by simp, ?_⟩
    split
    next heq =>
      rw [heq, hsymbol, Option.some.injEq] at hsame
      rw [hsame]
    next => rfl
  · intro other same same' hsame hsame'
    rw [hsame, Option.some.injEq] at hsame'
    subst hsame'
    refine ⟨by simp, ?_⟩
    split
    next heq =>
      rw [heq, hline, Option.some.injEq] at hsame
      rw [← hsame, htext]
    next => rfl

theorem line_eq_ok_iff {script : Script} {index : Nat} {line : DialogueLine} :
    script.line index = .ok line ↔ script.dialogue[index]? = some line := by
  unfold Script.line
  cases script.dialogue[index]? <;> simp

namespace LaidOut

variable {script : Script} {image : Image} {start : BlockEntry → UInt32} {patch : Patch} {number : Nat} {bytes : Bytes}

theorem symbols_rebase (h : script.LaidOut image start) (hstores : patch.Stores image number bytes)
    (hlt : (image.retext number bytes).base < UInt64.size) (file : Bytes) :
    (script.rebase patch file).symbols = (image.retext number bytes).texts.symbolTable script.encoding := by
  simp only [Script.rebase, h.symbols]
  rw [hstores.map_rebaseSymbol _ hlt]

/-- A line that is its symbol is so after an edit, too. -/
theorem isSymbol_rebaseLine (h : script.LaidOut image start) (hstores : patch.Stores image number bytes)
    (hlt : (image.retext number bytes).base < UInt64.size) {line : DialogueLine} (hline : line ∈ script.dialogue)
    (hsymbol : line.IsSymbol script.symbols) :
    (rebaseLine patch (script.encoding.decode patch.newText.toList) line).IsSymbol
      ((image.retext number bytes).texts.symbolTable script.encoding) := by
  obtain ⟨hnumber, hoffset⟩ := h.lines line hline
  obtain ⟨symbol, hread, htext, -⟩ := hsymbol
  rw [h.symbols, Texts.symbolTable_getElem? _ hnumber, Option.some.injEq] at hread
  subst hread
  refine ⟨_, Texts.symbolTable_getElem? _ (by simpa [rebaseLine] using hnumber), ?_, ?_⟩
  · simp only [rebaseLine, ← hstores.symbolText_eq _ hnumber, hoffset, htext, apply_ite LineBreak.unescape]
  · rw [rebaseLine, hoffset, hstores.moved_symbolOffset hnumber hlt]

theorem aligned_rebase (h : script.LaidOut image start) (haligned : script.Aligned) (hstores : patch.Stores image number bytes)
    (hlt : (image.retext number bytes).base < UInt64.size) (file : Bytes) : (script.rebase patch file).Aligned := by
  have hsymbols := h.symbols_rebase hstores hlt file
  refine .of_symbolIndex_lt ?_ ?_ ?_
  · rw [hsymbols]
    exact Texts.pairwise_offset_symbolTable _ _
  · -- An edit leaves the symbols that the lines are, and with them the order of the lines.
    rw [Script.rebase, List.pairwise_map]
    exact haligned.pairwise_symbolIndex
  · intro line hline
    obtain ⟨other, hother, rfl⟩ := List.mem_map.1 hline
    rw [hsymbols]
    exact h.isSymbol_rebaseLine hstores hlt hother (haligned.isSymbol other hother)

/-- Storing a text for the symbol of a line edits the line, to what the text is read as. -/
theorem editsLine_rebase (h : script.LaidOut image start) (haligned : script.Aligned) (hstores : patch.Stores image number bytes)
    (hlt : (image.retext number bytes).base < UInt64.size) (file : Bytes) {index : Nat} {line : DialogueLine}
    (hline : script.dialogue[index]? = some line) (hnumber : line.symbolIndex = number) :
    script.EditsLine (script.rebase patch file) index number (script.encoding.decode bytes.toList) patch.lengthDelta := by
  have hsymbols := h.symbols_rebase hstores hlt file
  have hmoved : ∀ {other : Nat}, other < image.texts.symbols.length → ((patch.moved (image.texts.symbolOffset other) : Nat) : Int) =
      image.texts.symbolOffset other + if number < other then patch.lengthDelta else 0 := by
    intro other hother
    rw [hstores.moved_symbolOffset hother hlt, hstores.lengthDelta]
    exact Texts.symbolOffset_retext bytes hstores.size_pos (Nat.le_of_lt hother)
  refine ⟨?_, ?_, ?_, ?_⟩
  · rw [hsymbols, h.symbols]
    simp only [Texts.symbolTable, Texts.length_symbolsFrom, Image.texts_retext, Texts.length_symbols_retext]
  · rw [Script.rebase, List.map_map]
    rfl
  · intro other symbol symbol' hsymbol hsymbol'
    have hother : other < image.texts.symbols.length := by
      obtain ⟨hlt, -⟩ := List.getElem?_eq_some_iff.1 hsymbol
      rwa [h.symbols, Texts.symbolTable, Texts.length_symbolsFrom] at hlt
    rw [h.symbols, Texts.symbolTable_getElem? _ hother, Option.some.injEq] at hsymbol
    rw [hsymbols, Texts.symbolTable_getElem? _ (by simpa using hother), Option.some.injEq] at hsymbol'
    subst hsymbol hsymbol'
    constructor
    · rw [← hmoved hother, hstores.moved_symbolOffset hother hlt]
    · split
      next heq =>
        subst heq
        exact Texts.symbolText_retext_self hother bytes _
      next hne => exact Texts.symbolText_retext_of_ne (Ne.symm hne) bytes _
  · intro other spoken spoken' hspoken hspoken'
    obtain ⟨hother, hoffset⟩ := h.lines spoken (List.mem_of_getElem? hspoken)
    rw [Script.rebase, List.getElem?_map, hspoken, Option.map_some, Option.some.injEq] at hspoken'
    subst hspoken'
    have hbehind := haligned.symbolIndex_lt_iff hline hspoken
    have hbefore := haligned.symbolIndex_lt_iff hspoken hline
    rw [hnumber] at hbehind hbefore
    have hsame : spoken.offset = patch.offset ↔ other = index := by
      rw [hoffset, hstores.offset, Texts.symbolOffset_inj hother hstores.index_lt]
      omega
    simp only [rebaseLine, hsame, hstores.newText]
    simp only [hoffset, hmoved hother, hbehind, true_and]

/-- An edit that succeeds is the edit of a line, and keeps the script aligned. It does nothing if the line has the text already, and
otherwise the line gets what the stored bytes are read as. -/
theorem editsLine (h : script.LaidOut image start) (haligned : script.Aligned) (hsize : script.bytes.size < sizeLimit) {edited : Script}
    {index cap : Nat} {text : String} {outcome : EditOutcome} (hedit : script.edit index text cap = .ok (edited, outcome))
    (hsize' : edited.bytes.size < UInt64.size) :
    edited.Aligned ∧ ∃ line stored, script.line index = .ok line ∧
      script.EditsLine edited index line.symbolIndex stored outcome.lengthDelta ∧ (line.text = text → edited = script) ∧
      (line.text ≠ text → stored = script.encoding.decode (script.encoding.capLine text cap).bytes) := by
  obtain ⟨line, hline, ⟨hsame, rfl, rfl⟩ | hnew⟩ := exists_line_of_edit hedit
  · obtain ⟨stored, hedits⟩ := EditsLine.refl haligned (line_eq_ok_iff.1 hline)
    exact ⟨haligned, line, stored, hline, hedits, fun _ => rfl, fun hnew => absurd hsame hnew⟩
  · obtain ⟨patch, hstores, hfile, hedited, houtcome⟩ := h.exists_stores hsize hline hnew hedit
    have hlt : (image.retext line.symbolIndex (script.encoding.capLine text cap).bytes.toArray).base < UInt64.size := by
      rw [h.size_edited hstores hfile, Image.size_toBytes] at hsize'
      omega
    have hedits := h.editsLine_rebase haligned hstores hlt edited.bytes (line_eq_ok_iff.1 hline) rfl
    rw [← hedited, ← houtcome, List.toList_toArray] at hedits
    refine ⟨?_, line, _, hline, hedits, fun hsame => absurd hsame hnew, fun _ => rfl⟩
    rw [hedited]
    exact h.aligned_rebase haligned hstores hlt _

/-- Edits keep a script aligned while the file stays small. -/
theorem aligned_runEdits {requests : List EditRequest} (h : script.LaidOut image start) (haligned : script.Aligned)
    (hsmall : script.StaysSmall requests) : (script.runEdits requests).Aligned := by
  refine (h.runEdits_induction hsmall haligned ?_).1
  intro state edited image start index cap text outcome hlaid hsize haligned hedit hsize'
  exact (hlaid.editsLine haligned hsize hedit (by simp only [sizeLimit, UInt64.size] at *; omega)).1

end LaidOut

/-- The lines of a script that has just been read are those of its table. -/
theorem dialogue_eq_extract_of_parse? {bytes : Bytes} {catalog : Catalog} {encoding : Encoding} {script : Script}
    (h : parse? bytes catalog encoding = .ok (some script)) : script.dialogue = Dialogue.extract script.symbols := by
  obtain ⟨header, symbols, blocks, invocations, -, -, rfl⟩ := parse?_eq_ok_some_iff.1 h
  rfl

/-- A script with exact tables is aligned. -/
theorem ExactTables.aligned {catalog : Catalog} {script : Script} (h : script.ExactTables catalog)
    (hsize : script.bytes.size < sizeLimit) : script.Aligned := by
  obtain ⟨image, start, hlaid⟩ := h.exists_laidOut hsize
  refine .of_extract ?_ (dialogue_eq_extract_of_parse? h.parsed)
  rw [hlaid.symbols]
  exact Texts.pairwise_offset_symbolTable _ _

/-- A script that edits have led to is aligned, and laid out. -/
theorem Reaches.aligned {catalog : Catalog} {script state : Script} (h : script.ExactTables catalog) (hstate : script.Reaches state) :
    state.Aligned ∧ state.bytes.size < sizeLimit ∧ ∃ image start, state.LaidOut image start := by
  obtain ⟨requests, hsmall, rfl⟩ := hstate
  obtain ⟨image, start, hlaid⟩ := h.exists_laidOut hsmall.size_lt
  exact ⟨hlaid.aligned_runEdits (h.aligned hsmall.size_lt) hsmall, hsmall requests (List.prefix_refl _), hlaid.exists_runEdits hsmall⟩

/-- A successful edit of a script that edits have led to moves the lines and symbols behind the line by the difference in length, and
changes no text but that of the line and its symbol. These get what the stored bytes are read as, unless the line has the text already:
then nothing changes. Before and after the edit, lines and symbols stand in their order and every line is its symbol. -/
theorem ExactTables.editsLine_of_edit {catalog : Catalog} {script state edited : Script} {index cap : Nat} {text : String}
    {outcome : EditOutcome} (h : script.ExactTables catalog) (hstate : script.Reaches state)
    (hedit : state.edit index text cap = .ok (edited, outcome)) (hsize : edited.bytes.size < UInt64.size) :
    state.Aligned ∧ edited.Aligned ∧ ∃ line stored, state.line index = .ok line ∧
      state.EditsLine edited index line.symbolIndex stored outcome.lengthDelta ∧ (line.text = text → edited = state) ∧
      (line.text ≠ text → stored = state.encoding.decode (state.encoding.capLine text cap).bytes) := by
  obtain ⟨haligned, hsmall, image, start, hlaid⟩ := Reaches.aligned h hstate
  exact ⟨haligned, hlaid.editsLine haligned hsmall hedit hsize⟩

/-- An edit of the second line of the sample moves the lines and symbols behind it by four bytes, and gives it the new text. -/
theorem editsLine_sample : sample.ExactTables Catalog.sample ∧ sample.Reaches (sample.runEdits sampleRequests) ∧
    ∃ edited outcome, (sample.runEdits sampleRequests).edit 1 "See you." 256 = .ok (edited, outcome) ∧
      edited.bytes.size < UInt64.size ∧ (sample.runEdits sampleRequests).Aligned ∧ edited.Aligned ∧
      ∃ line, (sample.runEdits sampleRequests).line 1 = .ok line ∧ line.text ≠ "See you." ∧
        (sample.runEdits sampleRequests).EditsLine edited 1 line.symbolIndex "See you." 4 := by
  obtain ⟨hreaches, line, edited, hline, hnew, hedit, hsize⟩ := exists_edit_sample
  obtain ⟨haligned, haligned', same, stored, hsame, hedits, -, hstored⟩ :=
    consistent_sample.toExactTables.editsLine_of_edit hreaches hedit hsize
  rw [hline, Except.ok.injEq] at hsame
  subst hsame
  have hencoding : (sample.runEdits sampleRequests).encoding = .shiftJis :=
    runEdits_keep encoding (fun _ _ _ => rfl) sample sampleRequests
  have htext : Encoding.shiftJis.decode (Encoding.shiftJis.capLine "See you." 256).bytes = "See you." := by decide +kernel
  rw [hstored hnew, hencoding, htext] at hedits
  exact ⟨consistent_sample.toExactTables, hreaches, edited, _, hedit, hsize, haligned, haligned', line, hline, hnew, hedits⟩

/-! ## The symbols that requests edit -/

/-- The symbols of the lines that requests give another text. A request that is refused edits none. -/
def editedSymbols (script : Script) : List EditRequest → List Nat
  | [] => []
  | request :: rest =>
    match script.edit request.index request.text request.cap with
    | .ok (edited, _) => ((script.dialogue[request.index]?).map (·.symbolIndex)).toList ++ edited.editedSymbols rest
    | .error _ => script.editedSymbols rest

/-- The symbols that requests edit are those of lines they name. -/
theorem exists_of_mem_editedSymbols {script : Script} {requests : List EditRequest} {number : Nat}
    (h : number ∈ script.editedSymbols requests) :
    ∃ request ∈ requests, (script.dialogue.map (·.symbolIndex))[request.index]? = some number := by
  induction requests generalizing script with
  | nil => nomatch h
  | cons request rest ih =>
    rw [editedSymbols] at h
    cases hedit : script.edit request.index request.text request.cap with
    | error e =>
      rw [hedit] at h
      obtain ⟨other, hother, hnumber⟩ := ih h
      exact ⟨other, List.mem_cons_of_mem _ hother, hnumber⟩
    | ok result =>
      simp only [hedit, List.mem_append, Option.mem_toList] at h
      rcases h with h | h
      · refine ⟨request, List.mem_cons_self .., ?_⟩
        rw [List.getElem?_map]
        exact h
      · obtain ⟨other, hother, hnumber⟩ := ih h
        refine ⟨other, List.mem_cons_of_mem _ hother, ?_⟩
        rcases eq_or_exists_rebase_of_edit hedit with heq | ⟨patch, bytes, heq⟩
        · rwa [heq] at hnumber
        · rw [heq, rebase, List.map_map] at hnumber
          exact hnumber

/-- An edit of a line leaves the texts of all symbols but that of the line. -/
theorem EditsLine.map_text {script edited : Script} {index number : Nat} {stored : String} {delta : Int}
    (h : script.EditsLine edited index number stored delta) {other : Nat} (hne : other ≠ number) :
    (edited.symbols.symbols[other]?).map (·.text) = (script.symbols.symbols[other]?).map (·.text) := by
  by_cases hlt : other < script.symbols.symbols.length
  · have hlt' : other < edited.symbols.symbols.length := by rw [h.symbols_length]; exact hlt
    obtain ⟨-, htext⟩ := h.symbol (List.getElem?_eq_getElem hlt) (List.getElem?_eq_getElem hlt')
    rw [if_neg hne] at htext
    rw [List.getElem?_eq_getElem hlt, List.getElem?_eq_getElem hlt', Option.map_some, Option.map_some, htext]
  · have hlength := h.symbols_length
    rw [List.getElem?_eq_none (by omega), List.getElem?_eq_none (by omega)]

/-- Requests leave the texts of all symbols but those of the lines that they edit. -/
theorem LaidOut.map_text_runEdits {script : Script} {image : Image} {start : BlockEntry → UInt32} {requests : List EditRequest}
    (h : script.LaidOut image start) (haligned : script.Aligned) (hsmall : script.StaysSmall requests) {number : Nat}
    (hnumber : number ∉ script.editedSymbols requests) :
    ((script.runEdits requests).symbols.symbols[number]?).map (·.text) = (script.symbols.symbols[number]?).map (·.text) := by
  induction requests generalizing script image start with
  | nil => rfl
  | cons request rest ih =>
    have hrest := hsmall.tail
    have hsize := hrest.size_lt
    have hrun : script.runEdits (request :: rest) = (script.applyEdit request).runEdits rest := rfl
    rw [editedSymbols] at hnumber
    rw [hrun]
    unfold applyEdit at hrest hsize ⊢
    cases hedit : script.edit request.index request.text request.cap with
    | error e =>
      simp only [hedit] at hrest hnumber ⊢
      exact ih h haligned hrest hnumber
    | ok result =>
      obtain ⟨edited, outcome⟩ := result
      simp only [hedit, List.mem_append, not_or] at hrest hsize hnumber ⊢
      obtain ⟨image', start', hlaid⟩ := h.exists_of_edit hsmall.size_lt hedit hsize
      obtain ⟨haligned', line, stored, hline, hedits, -, -⟩ :=
        h.editsLine haligned hsmall.size_lt hedit (by simp only [sizeLimit, UInt64.size] at *; omega)
      rw [ih hlaid haligned' hrest hnumber.2]
      refine hedits.map_text ?_
      rintro rfl
      rw [line_eq_ok_iff.1 hline] at hnumber
      exact hnumber.1 (List.mem_cons_self ..)

end Script

end SceneScript
