import Mathlib.Data.Nat.Find
import SceneScript.Proofs.Alignment

/-!
# Which symbols are spoken

A voice id speaks the nearest symbol before it that is no voice id, and short codes change this (`SymbolTable.Speaks`). The lines of a
table are the symbols that are spoken, each with the first voice id that speaks it (`Dialogue.mem_extract_iff`). If the offsets of the
table increase, they are in the order of their symbols (`Dialogue.extract_sound_and_complete`).
-/

namespace SceneScript

namespace SymbolTable

variable {table : SymbolTable}

/-! ## What a voice id speaks -/

/-- The symbol with this index is a voice id. -/
def VoiceAt (table : SymbolTable) (index : Nat) : Prop :=
  ∃ symbol, table.symbols[index]? = some symbol ∧ isVoiceId symbol.text = true

/-- The symbol with this index is a short code. -/
def CodeAt (table : SymbolTable) (index : Nat) : Prop :=
  ∃ symbol, table.symbols[index]? = some symbol ∧ isShortCode symbol.text = true

/-- The last symbol before a position that is no voice id. -/
structure IsNearest (table : SymbolTable) (position nearest : Nat) : Prop where
  lt : nearest < position
  noVoice : ¬table.VoiceAt nearest
  between : ∀ index, nearest < index → index < position → table.VoiceAt index

/-- The symbol that a voice id at a position belongs to: the nearest one that is no voice id, unless it is a short code. A short code at
the start of the table, or behind another one, is taken all the same. Behind a voice id it is not, and behind a text the text is
taken. -/
inductive Targets (table : SymbolTable) (position : Nat) : Nat → Prop where
  | text {nearest : Nat} (h : table.IsNearest position nearest) (htext : ¬table.CodeAt nearest) : Targets table position nearest
  | firstCode (h : table.IsNearest position 0) (hcode : table.CodeAt 0) : Targets table position 0
  | secondCode {previous : Nat} (h : table.IsNearest position (previous + 1)) (hcode : table.CodeAt (previous + 1))
    (hvoice : ¬table.VoiceAt previous) (hprevious : table.CodeAt previous) : Targets table position (previous + 1)
  | beforeCode {previous : Nat} (h : table.IsNearest position (previous + 1)) (hcode : table.CodeAt (previous + 1))
    (hvoice : ¬table.VoiceAt previous) (hprevious : ¬table.CodeAt previous) : Targets table position previous

/-- The symbol `voice` is a voice id that belongs to the symbol `target`. -/
def Speaks (table : SymbolTable) (voice target : Nat) : Prop :=
  table.VoiceAt voice ∧ table.Targets voice target

theorem voiceAt_iff {index : Nat} {symbol : Symbol} (h : table.symbols[index]? = some symbol) :
    table.VoiceAt index ↔ isVoiceId symbol.text = true := by
  simp only [VoiceAt, h, Option.some.injEq, exists_eq_left']

theorem codeAt_iff {index : Nat} {symbol : Symbol} (h : table.symbols[index]? = some symbol) :
    table.CodeAt index ↔ isShortCode symbol.text = true := by
  simp only [CodeAt, h, Option.some.injEq, exists_eq_left']

/-- There is only one nearest symbol. -/
theorem IsNearest.eq {position a b : Nat} (ha : table.IsNearest position a) (hb : table.IsNearest position b) : a = b := by
  rcases Nat.lt_trichotomy a b with hlt | heq | hlt
  · exact absurd (ha.between b hlt hb.lt) hb.noVoice
  · exact heq
  · exact absurd (hb.between a hlt ha.lt) ha.noVoice

theorem targets_zero_iff {position target : Nat} (h : table.IsNearest position 0) : table.Targets position target ↔ target = 0 := by
  constructor
  · intro htarget
    cases htarget with
    | text h' _ => exact h'.eq h
    | firstCode _ _ => rfl
    | secondCode h' _ _ _ => exact h'.eq h
    | beforeCode h' _ _ _ => exact absurd (h'.eq h) (Nat.succ_ne_zero _)
  · rintro rfl
    by_cases hcode : table.CodeAt 0
    · exact .firstCode h hcode
    · exact .text h hcode

theorem targets_succ_iff {position previous target : Nat} (h : table.IsNearest position (previous + 1)) :
    table.Targets position target ↔ ¬table.CodeAt (previous + 1) ∧ target = previous + 1 ∨
      table.CodeAt (previous + 1) ∧ ¬table.VoiceAt previous ∧
        (table.CodeAt previous ∧ target = previous + 1 ∨ ¬table.CodeAt previous ∧ target = previous) := by
  constructor
  · intro htarget
    cases htarget with
    | text h' htext =>
      obtain rfl := h'.eq h
      exact .inl ⟨htext, rfl⟩
    | firstCode h' _ => exact absurd (h.eq h') (Nat.succ_ne_zero _)
    | secondCode h' hcode hvoice hprevious =>
      obtain rfl := Nat.succ.inj (h'.eq h)
      exact .inr ⟨hcode, hvoice, .inl ⟨hprevious, rfl⟩⟩
    | beforeCode h' hcode hvoice hprevious =>
      obtain rfl := Nat.succ.inj (h'.eq h)
      exact .inr ⟨hcode, hvoice, .inr ⟨hprevious, rfl⟩⟩
  · rintro (⟨htext, rfl⟩ | ⟨hcode, hvoice, ⟨hprevious, rfl⟩ | ⟨hprevious, rfl⟩⟩)
    · exact .text h htext
    · exact .secondCode h hcode hvoice hprevious
    · exact .beforeCode h hcode hvoice hprevious

/-- What a position targets stands before it and is no voice id, and only voice ids stand between them, and perhaps a short code directly
behind the target. -/
theorem Targets.between {position target : Nat} (h : table.Targets position target) :
    target < position ∧ ¬table.VoiceAt target ∧ ∀ index, target < index → index < position →
      table.VoiceAt index ∨ index = target + 1 ∧ table.CodeAt index := by
  cases h with
  | text h _ => exact ⟨h.lt, h.noVoice, fun index hlt hpos => .inl (h.between index hlt hpos)⟩
  | firstCode h _ => exact ⟨h.lt, h.noVoice, fun index hlt hpos => .inl (h.between index hlt hpos)⟩
  | secondCode h _ _ _ => exact ⟨h.lt, h.noVoice, fun index hlt hpos => .inl (h.between index hlt hpos)⟩
  | beforeCode h hcode hvoice _ =>
    refine ⟨Nat.lt_of_succ_lt h.lt, hvoice, fun index hlt hpos => ?_⟩
    rcases Nat.lt_or_eq_of_le hlt with hlt | rfl
    · exact .inl (h.between index hlt hpos)
    · exact .inr ⟨rfl, hcode⟩

end SymbolTable

/-! ## The search backwards -/

namespace Dialogue

variable {table : SymbolTable}

/-- The symbols before a position, the nearest one first. -/
def before (table : SymbolTable) (position : Nat) : List (Symbol × Nat) :=
  (table.symbols.zipIdx.take position).reverse

theorem before_succ {position : Nat} {symbol : Symbol} (h : table.symbols[position]? = some symbol) :
    before table (position + 1) = (symbol, position) :: before table position := by
  have hat : table.symbols.zipIdx[position]? = some (symbol, position) := by
    rw [List.getElem?_zipIdx, h, Option.map_some, Nat.zero_add]
  rw [before, List.take_add_one, hat, Option.toList_some, List.reverse_append]
  rfl

/-- Going back over voice ids leads to the nearest symbol that is none, if there is one. -/
theorem dropWhile_before {position : Nat} (hle : position ≤ table.symbols.length) :
    ((before table position).dropWhile fun (symbol, _) => isVoiceId symbol.text) = [] ∧ (∀ index < position, table.VoiceAt index) ∨
    ∃ nearest, table.IsNearest position nearest ∧
      ((before table position).dropWhile fun (symbol, _) => isVoiceId symbol.text) = before table (nearest + 1) := by
  induction position with
  | zero => exact .inl ⟨rfl, by simp⟩
  | succ position ih =>
    have hsymbol : table.symbols[position]? = some table.symbols[position] := List.getElem?_eq_getElem hle
    by_cases hvoice : isVoiceId table.symbols[position].text = true
    · have hat : table.VoiceAt position := (SymbolTable.voiceAt_iff hsymbol).2 hvoice
      simp only [before_succ hsymbol, List.dropWhile_cons, hvoice, if_true]
      rcases ih (Nat.le_of_succ_le hle) with ⟨hnone, hall⟩ | ⟨nearest, hnearest, hdrop⟩
      · exact .inl ⟨hnone, Nat.forall_lt_succ_right.2 ⟨hall, hat⟩⟩
      · refine .inr ⟨nearest, ⟨Nat.lt_succ_of_lt hnearest.lt, hnearest.noVoice, fun index hlt hpos => ?_⟩, hdrop⟩
        rcases Nat.lt_succ_iff_lt_or_eq.1 hpos with hpos | rfl
        · exact hnearest.between index hlt hpos
        · exact hat
    · refine .inr ⟨position, ⟨Nat.lt_succ_self _, ?_, fun index hlt hpos => ?_⟩, ?_⟩
      · rwa [SymbolTable.voiceAt_iff hsymbol]
      · omega
      · rw [before_succ hsymbol]
        exact List.dropWhile_cons_of_neg hvoice

/-- The search finds the symbol that a position targets. -/
theorem spoken?_before_eq_some_iff {position : Nat} (hle : position ≤ table.symbols.length) {symbol : Symbol} {target : Nat} :
    spoken? (before table position) = some (symbol, target) ↔
      table.symbols[target]? = some symbol ∧ table.Targets position target := by
  have hfound : ∀ {index : Nat} {found : Symbol}, table.symbols[index]? = some found →
      (some (found, index) = some (symbol, target) ↔ table.symbols[target]? = some symbol ∧ target = index) := by
    intro index found h
    rw [Option.some.injEq, Prod.mk.injEq]
    constructor
    · rintro ⟨rfl, rfl⟩
      exact ⟨h, rfl⟩
    · rintro ⟨hat, rfl⟩
      rw [h, Option.some.injEq] at hat
      exact ⟨hat, rfl⟩
  rcases dropWhile_before hle with ⟨hnone, hall⟩ | ⟨nearest, hnearest, hdrop⟩
  · simp only [spoken?, hnone, reduceCtorEq, false_iff, not_and]
    intro _ htarget
    obtain ⟨hlt, hvoice, -⟩ := htarget.between
    exact hvoice (hall target hlt)
  · have hat : table.symbols[nearest]? = some _ := List.getElem?_eq_getElem (Nat.lt_of_lt_of_le hnearest.lt hle)
    rw [before_succ hat] at hdrop
    cases nearest with
    | zero =>
      rw [SymbolTable.targets_zero_iff hnearest, ← hfound hat]
      simp only [spoken?, hdrop, show before table 0 = [] from rfl]
    | succ previous =>
      have hprevious : table.symbols[previous]? = some _ :=
        List.getElem?_eq_getElem (Nat.lt_of_lt_of_le (Nat.lt_of_succ_lt hnearest.lt) hle)
      rw [before_succ hprevious] at hdrop
      rw [SymbolTable.targets_succ_iff hnearest, SymbolTable.codeAt_iff hat, SymbolTable.codeAt_iff hprevious,
        SymbolTable.voiceAt_iff hprevious]
      simp only [spoken?, hdrop]
      split
      next hcode =>
        split
        next hvoice => simp [hcode, hvoice]
        next hvoice =>
          split
          next hcode' => simp [hcode, hvoice, hcode', hfound hat]
          next hcode' => simp [hcode, hvoice, hcode', hfound hprevious]
      next hcode => simp [hcode, hfound hat]

/-! ## The lines that voice ids mark -/

/-- The line that the symbol at a position marks. -/
def lineAt? (table : SymbolTable) (position : Nat) : Option DialogueLine :=
  table.symbols[position]?.bind (lineOf? (before table position))

theorem lineAt?_eq_some_iff {position : Nat} {line : DialogueLine} :
    lineAt? table position = some line ↔ ∃ voice id symbol, table.symbols[position]? = some voice ∧ VoiceId.parse? voice.text = some id ∧
      table.symbols[line.symbolIndex]? = some symbol ∧ table.Targets position line.symbolIndex ∧
      line = ⟨LineBreak.unescape symbol.text, .ofCode id.character, symbol.offset, line.symbolIndex, voice.text⟩ := by
  simp only [lineAt?, lineOf?, Option.bind_eq_bind, Option.bind_eq_some_iff, Option.some.injEq, Prod.exists]
  constructor
  · rintro ⟨voice, hvoice, id, hid, symbol, target, hspoken, rfl⟩
    have hlt : position < table.symbols.length := (List.getElem?_eq_some_iff.1 hvoice).1
    obtain ⟨hsymbol, htargets⟩ := (spoken?_before_eq_some_iff (Nat.le_of_lt hlt)).1 hspoken
    exact ⟨voice, id, symbol, hvoice, hid, hsymbol, htargets, rfl⟩
  · rintro ⟨voice, id, symbol, hvoice, hid, hsymbol, htargets, hline⟩
    have hlt : position < table.symbols.length := (List.getElem?_eq_some_iff.1 hvoice).1
    exact ⟨voice, hvoice, id, hid, symbol, line.symbolIndex, (spoken?_before_eq_some_iff (Nat.le_of_lt hlt)).2 ⟨hsymbol, htargets⟩,
      hline.symm⟩

/-- A position marks a line of a symbol exactly if it is a voice id that speaks this symbol. -/
theorem exists_lineAt?_iff {position target : Nat} :
    (∃ line, lineAt? table position = some line ∧ line.symbolIndex = target) ↔ table.Speaks position target := by
  simp only [lineAt?_eq_some_iff]
  constructor
  · rintro ⟨line, ⟨voice, id, symbol, hvoice, hid, -, htargets, -⟩, rfl⟩
    exact ⟨⟨voice, hvoice, by rw [isVoiceId, hid, Option.isSome_some]⟩, htargets⟩
  · rintro ⟨⟨voice, hvoice, hid⟩, htargets⟩
    obtain ⟨id, hid⟩ := Option.isSome_iff_exists.1 hid
    have hlt : position < table.symbols.length := (List.getElem?_eq_some_iff.1 hvoice).1
    have hsymbol : table.symbols[target]? = some _ := List.getElem?_eq_getElem (Nat.lt_trans htargets.between.1 hlt)
    exact ⟨⟨_, _, _, target, _⟩, ⟨voice, id, _, hvoice, hid, hsymbol, htargets, rfl⟩, rfl⟩

theorem marked_append (front : List (Symbol × Nat)) (before rest : List (Symbol × Nat)) :
    marked before (front ++ rest) = marked before front ++ marked (front.reverse ++ before) rest := by
  induction front generalizing before with
  | nil => rfl
  | cons voice front ih => simp only [List.cons_append, marked, ih, List.append_assoc, List.reverse_cons, List.nil_append]

/-- The lines that are marked are those of the positions, in order. -/
theorem marked_zipIdx (table : SymbolTable) :
    marked [] table.symbols.zipIdx = (List.range table.symbols.length).filterMap (lineAt? table) := by
  have htake : ∀ count ≤ table.symbols.length,
      marked [] (table.symbols.zipIdx.take count) = (List.range count).filterMap (lineAt? table) := by
    intro count
    induction count with
    | zero => intro _; rfl
    | succ count ih =>
      intro hle
      have hsymbol : table.symbols[count]? = some _ := List.getElem?_eq_getElem hle
      have hat : table.symbols.zipIdx[count]? = some (table.symbols[count], count) := by
        rw [List.getElem?_zipIdx, hsymbol, Option.map_some, Nat.zero_add]
      have hline : lineAt? table count = lineOf? (before table count) table.symbols[count] := by
        rw [lineAt?, hsymbol, Option.bind_some]
      rw [List.take_add_one, hat, Option.toList_some, marked_append, ih (Nat.le_of_succ_le hle), List.range_succ, List.filterMap_append,
        List.append_nil]
      rw [marked, marked, List.append_nil, List.filterMap_cons, List.filterMap_nil, hline, ← before]
      cases lineOf? (before table count) table.symbols[count] <;> rfl
  have hwhole := htake _ (Nat.le_refl _)
  rwa [List.take_of_length_le (Nat.le_of_eq List.length_zipIdx)] at hwhole

/-- The lines that are kept are the first ones with their symbols. -/
theorem mem_keepFirst_iff {taken : List Nat} {lines : List DialogueLine} {line : DialogueLine} :
    line ∈ keepFirst taken lines ↔
      line.symbolIndex ∉ taken ∧ lines.find? (fun other => other.symbolIndex = line.symbolIndex) = some line := by
  induction lines generalizing taken with
  | nil => simp [keepFirst]
  | cons head rest ih =>
    unfold keepFirst
    rw [List.find?_cons]
    by_cases hsame : head.symbolIndex = line.symbolIndex
    · simp only [hsame, decide_true]
      split
      next htaken => simp [ih, htaken]
      next hfree => simp [ih, hfree, eq_comm]
    · have hother : line ≠ head := fun h => hsame (h ▸ rfl)
      have hindex : line.symbolIndex ≠ head.symbolIndex := fun h => hsame h.symm
      simp only [hsame, decide_false]
      split
      · exact ih
      · simp [ih, hother, hindex]

/-- The lines of a table are those that the first voice id for their symbol marks. -/
theorem mem_extract_iff {line : DialogueLine} :
    line ∈ extract table ↔
      ∃ position, lineAt? table position = some line ∧ ∀ earlier < position, ¬table.Speaks earlier line.symbolIndex := by
  have hspeaks : ∀ position, (lineAt? table position).any (fun other => other.symbolIndex = line.symbolIndex) = true ↔
      table.Speaks position line.symbolIndex := fun position => by
    rw [← exists_lineAt?_iff, Option.any_eq_true]
    simp only [decide_eq_true_eq]
  rw [extract, List.mem_mergeSort, mem_keepFirst_iff, marked_zipIdx, List.find?_filterMap, Option.bind_eq_some_iff]
  simp only [List.not_mem_nil, not_false_eq_true, true_and, List.find?_range_eq_some, hspeaks, Bool.not_eq_true', ← Bool.not_eq_true,
    List.mem_range]
  constructor
  · rintro ⟨position, ⟨-, -, hfirst⟩, hline⟩
    exact ⟨position, hline, hfirst⟩
  · rintro ⟨position, hline, hfirst⟩
    obtain ⟨voice, -, -, hvoice, -⟩ := lineAt?_eq_some_iff.1 hline
    exact ⟨position, ⟨exists_lineAt?_iff.1 ⟨line, hline, rfl⟩, (List.getElem?_eq_some_iff.1 hvoice).1, hfirst⟩, hline⟩

/-- Every symbol that is spoken is a line. -/
theorem exists_mem_extract_iff {target : Nat} :
    (∃ line ∈ extract table, line.symbolIndex = target) ↔ ∃ voice, table.Speaks voice target := by
  constructor
  · rintro ⟨line, hmem, rfl⟩
    obtain ⟨position, hline, -⟩ := mem_extract_iff.1 hmem
    exact ⟨position, exists_lineAt?_iff.1 ⟨line, hline, rfl⟩⟩
  · intro h
    classical
    obtain ⟨line, hline, rfl⟩ := exists_lineAt?_iff.2 (Nat.find_spec h)
    exact ⟨line, mem_extract_iff.2 ⟨_, hline, fun earlier => Nat.find_min h⟩, rfl⟩

end Dialogue

/-- The line is a symbol of the table that is no voice id, with its text and its position. It has the text of the voice id `voice` and is
spoken by its character. The voice id stands behind the symbol, is the first one that belongs to it, and between them there are only
voice ids, and perhaps a short code directly behind the symbol. -/
structure DialogueLine.MarkedBy (line : DialogueLine) (table : SymbolTable) (voice : Nat) : Prop where
  isSymbol : line.IsSymbol table
  noVoice : ¬table.VoiceAt line.symbolIndex
  voiceId : ∃ symbol id, table.symbols[voice]? = some symbol ∧ line.voice = symbol.text ∧ VoiceId.parse? line.voice = some id ∧
    line.speaker = .ofCode id.character
  speaks : table.Speaks voice line.symbolIndex
  first : ∀ earlier < voice, ¬table.Speaks earlier line.symbolIndex
  behind : line.symbolIndex < voice
  between : ∀ index, line.symbolIndex < index → index < voice →
    table.VoiceAt index ∨ index = line.symbolIndex + 1 ∧ table.CodeAt index

namespace Dialogue

theorem exists_markedBy_of_mem_extract {table : SymbolTable} {line : DialogueLine} (h : line ∈ extract table) :
    ∃ voice, line.MarkedBy table voice := by
  obtain ⟨position, hline, hfirst⟩ := mem_extract_iff.1 h
  obtain ⟨voice, id, symbol, hvoice, hid, hsymbol, htargets, heq⟩ := lineAt?_eq_some_iff.1 hline
  obtain ⟨hbehind, hnoVoice, hbetween⟩ := htargets.between
  have hfields := congrArg (fun line : DialogueLine => (line.voice, line.speaker)) heq
  obtain ⟨htext, hspeaker⟩ := Prod.mk.inj hfields
  exact ⟨position, isSymbol_of_mem_extract h, hnoVoice, ⟨voice, id, hvoice, htext, htext ▸ hid, hspeaker⟩,
    exists_lineAt?_iff.1 ⟨line, hline, rfl⟩, hfirst, hbehind, hbetween⟩

/-- In a table whose offsets increase, the lines are in the order of their symbols and of their positions, every line is marked by the
first voice id that belongs to its symbol, and every symbol that a voice id belongs to is a line. So a voice id has a line on the
nearest symbol before it that is no voice id, if there is one and it is no short code. -/
theorem extract_sound_and_complete {table : SymbolTable} (h : table.symbols.Pairwise fun a b => a.offset < b.offset) :
    ((extract table).Pairwise fun a b => a.symbolIndex < b.symbolIndex ∧ a.offset < b.offset) ∧
    (∀ line ∈ extract table, ∃ voice, line.MarkedBy table voice) ∧
    (∀ target, (∃ line ∈ extract table, line.symbolIndex = target) ↔ ∃ voice, table.Speaks voice target) ∧
    ∀ voice nearest, table.VoiceAt voice → table.IsNearest voice nearest → ¬table.CodeAt nearest →
      ∃ line ∈ extract table, line.symbolIndex = nearest := by
  refine ⟨(pairwise_offset_extract h).imp_of_mem fun ha hb hlt => ?_, fun line => exists_markedBy_of_mem_extract,
    fun target => exists_mem_extract_iff, fun voice nearest hvoice hnearest hcode => ?_⟩
  · exact ⟨((isSymbol_of_mem_extract ha).offset_lt_iff (isSymbol_of_mem_extract hb) h).1 hlt, hlt⟩
  · exact exists_mem_extract_iff.2 ⟨voice, hvoice, .text hnearest hcode⟩

end Dialogue

/-- A table with two lines. Two voice ids follow a line and a short code, and a third one speaks no symbol. -/
def SymbolTable.sampleVoices : SymbolTable :=
  ⟨[⟨0, "Hi."⟩, ⟨8, "a1"⟩, ⟨15, "V01_KYN0001"⟩, ⟨31, "V01_HRH0002"⟩, ⟨47, "b2"⟩, ⟨54, "V01_MKR0003"⟩, ⟨70, "Bye."⟩,
    ⟨79, "V01_HRH0004"⟩]⟩

/-- Its lines. -/
theorem Dialogue.extract_sampleVoices : (SymbolTable.sampleVoices.symbols.Pairwise fun a b => a.offset < b.offset) ∧
    extract .sampleVoices = [⟨"Hi.", .ofCode "KYN", 0, 0, "V01_KYN0001"⟩, ⟨"Bye.", .ofCode "HRH", 70, 6, "V01_HRH0004"⟩] ∧
    SymbolTable.sampleVoices.VoiceAt 7 ∧ SymbolTable.sampleVoices.IsNearest 7 6 ∧ ¬SymbolTable.sampleVoices.CodeAt 6 ∧
    (∃ line ∈ extract .sampleVoices, line.symbolIndex = 6) ∧
    ∀ line ∈ extract .sampleVoices, ∃ voice, line.MarkedBy .sampleVoices voice := by
  have hoffsets : SymbolTable.sampleVoices.symbols.Pairwise fun a b => a.offset < b.offset := by decide
  have hvoice : SymbolTable.sampleVoices.VoiceAt 7 := ⟨_, rfl, by decide⟩
  have hsymbol : SymbolTable.sampleVoices.symbols[6]? = some ⟨70, "Bye."⟩ := rfl
  have htext : ¬SymbolTable.sampleVoices.VoiceAt 6 := by
    rw [SymbolTable.voiceAt_iff hsymbol]
    decide
  have hcode : ¬SymbolTable.sampleVoices.CodeAt 6 := by
    rw [SymbolTable.codeAt_iff hsymbol]
    decide
  have hnearest : SymbolTable.sampleVoices.IsNearest 7 6 := ⟨by decide, htext, fun index hlt hpos => by omega⟩
  obtain ⟨-, hmarked, -, hlines⟩ := extract_sound_and_complete hoffsets
  refine ⟨hoffsets, ?_, hvoice, hnearest, hcode, hlines 7 6 hvoice hnearest hcode, hmarked⟩
  rw [extract, List.mergeSort_of_pairwise (by decide)]
  rfl

end SceneScript
