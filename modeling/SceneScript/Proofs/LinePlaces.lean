import SceneScript.Proofs.Listings

/-!
# Where instructions stand in a text

The text of blocks is made with a counter of lines. What its lines are is another matter: they are what stands between its line breaks
(`textLines`). `Renderer.standIn_of_renderBlocks` says that the two agree. Each heading is on the line behind what was written before,
each instruction on the first such line that is no earlier than the one that it records, and all lines in between are blank.
-/

namespace SceneScript

/-! ## Lines -/

/-- What stands between the line breaks of a text, in front of the first one and behind the last one. -/
def textLines (text : String) : List String :=
  (text.toList.splitOn '\n').map String.ofList

/-- The line of a text with a given number. Lines are counted from one. -/
def textLine? (text : String) : Nat → Option String
  | 0 => none
  | number + 1 => (textLines text)[number]?

theorem textLines_append {line : String} (h : '\n' ∉ line.toList) (text : String) :
    textLines (line ++ "\n" ++ text) = line :: textLines text := by
  have hchars : (line ++ "\n" ++ text).toList = line.toList ++ '\n' :: text.toList := by
    rw [String.toList_append, String.toList_append, List.append_assoc]
    rfl
  rw [textLines, textLines, hchars, List.splitOn_append_cons_self_of_not_mem h, List.map_cons, String.ofList_toList]

/-- The text with the given lines, each with a line break behind it. -/
def written : List String → String
  | [] => ""
  | line :: rest => line ++ "\n" ++ written rest

theorem written_append (front rest : List String) : written (front ++ rest) = written front ++ written rest := by
  induction front with
  | nil => exact String.empty_append.symm
  | cons line front ih => rw [List.cons_append, written, written, ih, ← String.append_assoc]

theorem written_replicate (blank : Nat) : written (List.replicate blank "") = "".pushn '\n' blank := by
  induction blank with
  | zero => rfl
  | succ blank ih =>
    have hlast : "".pushn '\n' (blank + 1) = "".pushn '\n' blank ++ "\n" := String.push_eq_append _
    rw [List.replicate_succ', written_append, ih, hlast]
    rfl

/-- A text has the lines that it was written with, and nothing behind the last line break. -/
theorem textLines_written {lines : List String} (h : ∀ line ∈ lines, '\n' ∉ line.toList) :
    textLines (written lines) = lines ++ [""] := by
  induction lines with
  | nil => rfl
  | cons line rest ih =>
    obtain ⟨hline, hrest⟩ := List.forall_mem_cons.1 h
    rw [written, textLines_append hline, ih hrest, List.cons_append]

/-- The last line that is written has a line break behind it. -/
theorem exists_written_eq {lines : List String} (h : lines ≠ []) : ∃ front, written lines = front ++ "\n" := by
  refine ⟨written lines.dropLast ++ lines.getLast h, ?_⟩
  calc written lines = written (lines.dropLast ++ [lines.getLast h]) := by rw [List.dropLast_append_getLast]
    _ = written lines.dropLast ++ (lines.getLast h ++ "\n" ++ "") := written_append ..
    _ = written lines.dropLast ++ lines.getLast h ++ "\n" := by rw [String.append_empty, String.append_assoc]

/-! ## Entries -/

/-- A line that a text is to have, and the number of the first line that it may be. -/
structure Entry where
  earliest : Int
  text : String
  deriving DecidableEq, Repr

namespace Entry

/-- The line of an entry, when the text so far has come to the start of the line `next`. -/
def place (entry : Entry) (next : Nat) : Nat :=
  max entry.earliest.toNat next

/-- The lines of entries that follow one another, when the text so far has come to the start of the line `next`. -/
def places : Nat → List Entry → List Nat
  | _, [] => []
  | next, entry :: rest => entry.place next :: places (entry.place next + 1) rest

/-- The line behind entries. -/
def after : Nat → List Entry → Nat
  | next, [] => next
  | next, entry :: rest => after (entry.place next + 1) rest

/-- The entries stand in the text: each on the first line behind the one before it that is no earlier than it may be. All other lines are
blank, and the text ends with the line break of the last entry. -/
structure StandIn (entries : List Entry) (text : String) : Prop where
  stand : List.Forall₂ (fun entry place => textLine? text place = some entry.text) entries (places 1 entries)
  blank : ∀ number line, number ∉ places 1 entries → textLine? text number = some line → line = ""
  lines : (textLines text).length = after 1 entries

/-- Entries as lines, with the blank lines in between. -/
def layOut : Nat → List Entry → List String
  | _, [] => []
  | next, entry :: rest =>
    List.replicate (entry.place next - next) "" ++ entry.text :: layOut (entry.place next + 1) rest

theorem le_place (entry : Entry) (next : Nat) : next ≤ entry.place next :=
  Nat.le_max_right ..

theorem place_eq_add (entry : Entry) (next : Nat) : entry.place next = next + (entry.earliest - next).toNat := by
  unfold place
  omega

theorem layOut_append (next : Nat) (front rest : List Entry) :
    layOut next (front ++ rest) = layOut next front ++ layOut (after next front) rest := by
  induction front generalizing next with
  | nil => rfl
  | cons entry front ih => rw [List.cons_append, layOut, layOut, ih, after, List.append_assoc, List.cons_append]

theorem mem_layOut {next : Nat} {entries : List Entry} {line : String} (h : line ∈ layOut next entries) :
    line = "" ∨ ∃ entry ∈ entries, line = entry.text := by
  induction entries generalizing next with
  | nil => simp [layOut] at h
  | cons entry rest ih =>
    simp only [layOut, List.mem_append, List.mem_replicate, List.mem_cons] at h
    rcases h with ⟨-, rfl⟩ | rfl | h
    · exact .inl rfl
    · exact .inr ⟨entry, List.mem_cons_self, rfl⟩
    · exact (ih h).imp_right fun ⟨other, hother, htext⟩ => ⟨other, List.mem_cons_of_mem _ hother, htext⟩

theorem layOut_eq_nil_iff {next : Nat} {entries : List Entry} : layOut next entries = [] ↔ entries = [] := by
  cases entries <;> simp [layOut]

/-- The lines of an entry and of those behind it, with other lines in front. -/
theorem append_layOut (front : List String) (next : Nat) (entry : Entry) (rest : List Entry) :
    front ++ layOut next (entry :: rest) =
      (front ++ List.replicate (entry.place next - next) "" ++ [entry.text]) ++ layOut (entry.place next + 1) rest := by
  rw [layOut, List.append_assoc, List.append_assoc, List.singleton_append]

section

variable {front : List String} {next : Nat}

/-- The lines in front of an entry, the blank ones included. -/
theorem length_append_replicate (hfront : front.length + 1 = next) (entry : Entry) :
    (front ++ List.replicate (entry.place next - next) "").length + 1 = entry.place next := by
  have hle := entry.le_place next
  rw [List.length_append, List.length_replicate]
  omega

theorem length_append_layOut (hfront : front.length + 1 = next) (entries : List Entry) :
    (front ++ layOut next entries).length + 1 = after next entries := by
  induction entries generalizing front next with
  | nil => rwa [layOut, List.append_nil]
  | cons entry rest ih =>
    have hplace := length_append_replicate hfront entry
    rw [append_layOut, after]
    exact ih (by rw [List.length_append, List.length_singleton, hplace])

/-- The places of entries are where they are laid out. -/
theorem forall₂_places (hfront : front.length + 1 = next) (entries : List Entry) :
    List.Forall₂ (fun entry place => 0 < place ∧ (front ++ layOut next entries)[place - 1]? = some entry.text) entries
      (places next entries) := by
  induction entries generalizing front next with
  | nil => exact .nil
  | cons entry rest ih =>
    have hplace := length_append_replicate hfront entry
    rw [append_layOut]
    refine .cons ⟨by omega, ?_⟩ (ih (by rw [List.length_append, List.length_singleton, hplace]))
    have hindex : entry.place next - 1 = (front ++ List.replicate (entry.place next - next) "").length := by omega
    rw [List.append_assoc, List.getElem?_append_right (Nat.le_of_eq hindex.symm), hindex, Nat.sub_self]
    rfl

/-- The lines behind those in front that are the place of no entry are blank. -/
theorem eq_empty_of_notMem_places (hfront : front.length + 1 = next) {entries : List Entry} {number : Nat} {line : String}
    (hle : next ≤ number) (hnone : number ∉ places next entries) (hline : (front ++ layOut next entries)[number - 1]? = some line) :
    line = "" := by
  induction entries generalizing front next with
  | nil =>
    rw [layOut, List.append_nil, List.getElem?_eq_none (by omega)] at hline
    cases hline
  | cons entry rest ih =>
    have hplace := length_append_replicate hfront entry
    rw [places, List.mem_cons, not_or] at hnone
    rcases Nat.lt_or_gt_of_ne hnone.1 with hbefore | hbehind
    · rw [append_layOut, List.append_assoc, List.append_assoc, List.getElem?_append_right (by omega),
        List.getElem?_append_left (by rw [List.length_replicate]; omega)] at hline
      exact List.eq_of_mem_replicate (List.mem_of_getElem? hline)
    · rw [append_layOut] at hline
      exact ih (by rw [List.length_append, List.length_singleton, hplace]) hbehind hnone.2 hline

end

/-- Entries of one line each stand in the text that they are laid out to. -/
theorem standIn_written {entries : List Entry} (h : ∀ entry ∈ entries, '\n' ∉ entry.text.toList) :
    StandIn entries (written (layOut 1 entries)) := by
  have hlines : textLines (written (layOut 1 entries)) = layOut 1 entries ++ [""] := by
    refine textLines_written fun line hline => ?_
    rcases mem_layOut hline with rfl | ⟨entry, hentry, rfl⟩
    · exact List.not_mem_nil
    · exact h entry hentry
  have hfront : ([] : List String).length + 1 = 1 := rfl
  refine ⟨?_, ?_, ?_⟩
  · refine (forall₂_places hfront entries).imp fun entry place ⟨hpos, hplace⟩ => ?_
    obtain ⟨number, rfl⟩ := Nat.exists_eq_add_one_of_ne_zero (Nat.ne_of_gt hpos)
    have hlt : number < (layOut 1 entries).length := (List.getElem?_eq_some_iff.1 hplace).1
    rw [textLine?, hlines, List.getElem?_append_left hlt]
    exact hplace
  · intro number line hnone hline
    cases number with
    | zero => nomatch hline
    | succ number =>
      rw [textLine?, hlines] at hline
      by_cases hlast : number < (layOut 1 entries).length
      · rw [List.getElem?_append_left hlast] at hline
        exact eq_empty_of_notMem_places hfront (Nat.le_add_left 1 number) hnone hline
      · rw [List.getElem?_append_right (Nat.le_of_not_lt hlast)] at hline
        exact List.mem_singleton.1 (List.mem_of_getElem? hline)
  · rw [hlines, List.length_append]
    exact length_append_layOut hfront entries

end Entry

/-! ## Blocks -/

/-- The entries of a block: its heading, which may stand on any line, and its instructions, or a blank line if it has none. -/
def Entry.ofBlock (name : String) (own : List Entry) : List Entry :=
  ⟨0, s!"== {name} =="⟩ :: if own = [] then [⟨0, ""⟩] else own

/-- A block takes the next line for its heading, and another one if it has no instructions. -/
theorem Entry.layOut_ofBlock (next : Nat) (name : String) (own : List Entry) {gap : Nat} (hgap : gap = if own = [] then 1 else 0) :
    layOut next (ofBlock name own) = s!"== {name} ==" :: List.replicate gap "" ++ layOut (next + 1 + gap) own ∧
      after next (ofBlock name own) = after (next + 1 + gap) own := by
  have hany : ∀ text line, place ⟨0, text⟩ line = line := fun text line => Nat.zero_max line
  subst hgap
  cases own with
  | nil => simp only [ofBlock, if_true, layOut, after, hany, Nat.sub_self, List.replicate_zero, List.replicate_one, List.nil_append,
      List.append_nil, and_self]
  | cons first rest => simp only [ofBlock, reduceCtorEq, if_false, layOut, after, hany, Nat.sub_self, List.replicate_zero, Nat.add_zero,
      List.nil_append, List.cons_append, and_self]

namespace Renderer

variable (renderer : Renderer)

/-- The entry of an instruction, which is no earlier than the line that it records. -/
def entry (invocation : Invocation) : Except ScriptError Entry :=
  return ⟨invocation.line.toInt, ← renderer.render invocation⟩

/-- The entries of a block. -/
def blockEntries (block : Block) : Except ScriptError (List Entry) :=
  return Entry.ofBlock block.name (← (block.slice renderer.invocations).mapM renderer.entry)

/-- The entries of blocks. -/
def entries (blocks : List Block) : Except ScriptError (List Entry) :=
  return (← blocks.mapM renderer.blockEntries).flatten

/-- The text of instructions is that of their entries, and its counter comes to the line behind them. -/
theorem renderInvocations_eq_map_entry (current : Nat) (invocations : List Invocation) :
    renderer.renderInvocations current invocations =
      (invocations.mapM renderer.entry).map fun own => (written (Entry.layOut current own), Entry.after current own) := by
  induction invocations generalizing current with
  | nil => rfl
  | cons invocation rest ih =>
    simp only [renderInvocations, List.mapM_cons, entry, ih]
    cases renderer.render invocation with
    | error e => rfl
    | ok text =>
      have hplace := Entry.place_eq_add ⟨invocation.line.toInt, text⟩ current
      rw [← hplace]
      cases rest.mapM renderer.entry with
      | error e => rfl
      | ok own =>
        have hblank : (invocation.line.toInt - current).toNat = Entry.place ⟨invocation.line.toInt, text⟩ current - current := by
          dsimp only at hplace
          omega
        simp only [Except.map, bind, Except.bind, pure, Except.pure, Entry.layOut, Entry.after, written_append, written_replicate,
          written, hblank, String.append_assoc]

/-- The text of blocks that have instructions exactly when their ranges say so is that of their entries. -/
theorem renderFrom_eq_map_entries (current : Nat) {blocks : List Block}
    (h : ∀ block ∈ blocks, block.slice renderer.invocations = [] ↔ ¬block.first < block.past) :
    renderer.renderFrom current blocks = (renderer.entries blocks).map fun own => written (Entry.layOut current own) := by
  induction blocks generalizing current with
  | nil => rfl
  | cons block rest ih =>
    obtain ⟨hblock, hrest⟩ := List.forall_mem_cons.1 h
    simp only [renderFrom, entries, List.mapM_cons, blockEntries, renderInvocations_eq_map_entry, fun line => ih line hrest,
      Script.heading_append_newline]
    cases hown : (block.slice renderer.invocations).mapM renderer.entry with
    | error e => rfl
    | ok own =>
      have hempty : own = [] ↔ ¬block.first < block.past := by
        rw [← hblock, ← List.length_eq_zero_iff, ← List.length_eq_zero_iff, (forall₂_of_mapM hown).length_eq]
      have hgap : (if block.first < block.past then 0 else 1) = if own = [] then 1 else 0 := by
        simp only [hempty, ite_not]
      obtain ⟨hlines, hafter⟩ := Entry.layOut_ofBlock current block.name own rfl
      rw [hgap]
      cases rest.mapM renderer.blockEntries with
      | error e => rfl
      | ok others =>
        simp only [Except.map, bind, Except.bind, pure, Except.pure, List.flatten_cons, Entry.layOut_append, hlines, hafter, written_append,
          written_replicate, written, List.cons_append, String.append_assoc]

/-- The entries of blocks have one line each, if the names of the blocks and the forms of their instructions do. -/
theorem notMem_text_of_entries {renderer : Renderer} {blocks : List Block} {entries : List Entry}
    (h : renderer.entries blocks = .ok entries) (hnames : ∀ block ∈ blocks, '\n' ∉ block.name.toList)
    (hshown : ∀ block ∈ blocks, ∀ invocation ∈ block.slice renderer.invocations, ∀ shown,
      renderer.render invocation = .ok shown → '\n' ∉ shown.toList) : ∀ entry ∈ entries, '\n' ∉ entry.text.toList := by
  simp only [Renderer.entries, bind_eq_ok_iff, pure_eq_ok_iff] at h
  obtain ⟨lists, hlists, rfl⟩ := h
  have hall : ∀ list ∈ lists, ∀ entry ∈ list, '\n' ∉ entry.text.toList := by
    refine forall_mem_of_mapM hlists fun block hblock list hlist => ?_
    simp only [blockEntries, bind_eq_ok_iff, pure_eq_ok_iff] at hlist
    obtain ⟨own, hown, rfl⟩ := hlist
    have hinvocations : ∀ entry ∈ own, '\n' ∉ entry.text.toList := by
      refine forall_mem_of_mapM hown fun invocation hinvocation found hfound => ?_
      simp only [Renderer.entry, bind_eq_ok_iff, pure_eq_ok_iff] at hfound
      obtain ⟨shown, hrender, rfl⟩ := hfound
      exact hshown block hblock invocation hinvocation shown hrender
    refine List.forall_mem_cons.2 ⟨?_, ?_⟩
    · have hname := hnames block hblock
      have hheading : (s!"== {block.name} ==").toList = "== ".toList ++ block.name.toList ++ " ==".toList := by
        rw [← String.toList_append, ← String.toList_append]
        rfl
      simpa [hheading] using hname
    · split
      · simp
      · exact hinvocations
  intro entry hentry
  obtain ⟨list, hlist, hmem⟩ := List.mem_flatten.1 hentry
  exact hall list hlist entry hmem

/-- Every block has entries. -/
theorem entries_eq_nil_iff {renderer : Renderer} {blocks : List Block} {entries : List Entry}
    (h : renderer.entries blocks = .ok entries) : entries = [] ↔ blocks = [] := by
  simp only [Renderer.entries, bind_eq_ok_iff, pure_eq_ok_iff] at h
  obtain ⟨lists, hlists, rfl⟩ := h
  cases blocks with
  | nil =>
    cases hlists
    simp
  | cons block rest =>
    obtain ⟨list, others, hlist, -, rfl⟩ := mapM_cons_eq_ok_iff.1 hlists
    simp only [blockEntries, bind_eq_ok_iff, pure_eq_ok_iff] at hlist
    obtain ⟨own, -, rfl⟩ := hlist
    simp [Entry.ofBlock]

/-- A text of blocks has their headings on the lines behind what was written before, a blank line for every empty block, and every
instruction on the line that it records, or behind what was written before if this is later. All other lines are blank, and the last one
ends with a line break. -/
theorem standIn_of_renderBlocks {renderer : Renderer} {blocks : List Block} {text : String} (h : renderer.renderBlocks blocks = .ok text)
    (hranges : ∀ block ∈ blocks, block.past ≤ renderer.invocations.length)
    (hnames : ∀ block ∈ blocks, '\n' ∉ block.name.toList)
    (hshown : ∀ block ∈ blocks, ∀ invocation ∈ block.slice renderer.invocations, ∀ shown,
      renderer.render invocation = .ok shown → '\n' ∉ shown.toList) :
    ∃ entries, renderer.entries blocks = .ok entries ∧ Entry.StandIn entries text ∧ (blocks = [] → text = "") ∧
      (blocks ≠ [] → ∃ front, text = front ++ "\n") := by
  have htext := renderer.renderFrom_eq_map_entries 1 fun block hmem => Block.slice_eq_nil_iff (hranges block hmem)
  rw [renderBlocks, htext] at h
  cases hentries : renderer.entries blocks with
  | error e =>
    rw [hentries] at h
    nomatch h
  | ok entries =>
    rw [hentries] at h
    cases h
    refine ⟨entries, rfl, Entry.standIn_written (notMem_text_of_entries hentries hnames hshown), ?_, fun hblocks => ?_⟩
    · intro hblocks
      rw [(entries_eq_nil_iff hentries).2 hblocks]
      rfl
    · refine exists_written_eq fun hempty => hblocks ((entries_eq_nil_iff hentries).1 ?_)
      exact Entry.layOut_eq_nil_iff.1 hempty

end Renderer

/-! ## A sample with an empty block -/

/-- An instruction without parameters that records a line. -/
def Invocation.sampleAt (line : Int16) : Invocation :=
  ⟨0, 0, line, -1, 0, ⟨0, "NOP", []⟩, []⟩

/-- Instructions that record a gap, a line of the past and a negative line. -/
def Renderer.sampleRagged : Renderer :=
  ⟨⟨[]⟩, [.sampleAt 2, .sampleAt 5, .sampleAt 3, .sampleAt (-1)], .raw⟩

/-- Three blocks, of which the second is empty. -/
def Block.sampleRagged : List Block :=
  [⟨0, 0, "MAIN", 2, 0, 0, 2⟩, ⟨8, 0, "IDLE", 0, 0, 2, 2⟩, ⟨16, 0, "END", 2, 0, 2, 4⟩]

/-- Their headings stand on the lines 1, 6 and 8, and the instructions on the lines 2 and 5, and 9 and 10. -/
theorem Renderer.standIn_sampleRagged :
    sampleRagged.renderBlocks Block.sampleRagged =
        .ok "== MAIN ==\nNOP()\n\n\nNOP()\n== IDLE ==\n\n== END ==\nNOP()\nNOP()\n" ∧
      ∃ entries, sampleRagged.entries Block.sampleRagged = .ok entries ∧ Entry.places 1 entries = [1, 2, 5, 6, 7, 8, 9, 10] ∧
        Entry.StandIn entries "== MAIN ==\nNOP()\n\n\nNOP()\n== IDLE ==\n\n== END ==\nNOP()\nNOP()\n" := by
  have htext : sampleRagged.renderBlocks Block.sampleRagged =
      .ok "== MAIN ==\nNOP()\n\n\nNOP()\n== IDLE ==\n\n== END ==\nNOP()\nNOP()\n" := by rfl
  have hshown : ∀ block ∈ Block.sampleRagged, ∀ invocation ∈ block.slice sampleRagged.invocations, ∀ shown,
      sampleRagged.render invocation = .ok shown → '\n' ∉ shown.toList := by
    have hsame : ∀ invocation ∈ sampleRagged.invocations, sampleRagged.render invocation = .ok "NOP()" := by decide
    intro block _ invocation hinvocation shown hrender
    rw [hsame invocation (List.mem_of_mem_drop (List.mem_of_mem_take hinvocation))] at hrender
    cases hrender
    decide
  obtain ⟨entries, hentries, hstand, -⟩ := standIn_of_renderBlocks htext (by decide) (by decide) hshown
  refine ⟨htext, entries, hentries, ?_, hstand⟩
  have hlist : sampleRagged.entries Block.sampleRagged = .ok [⟨0, "== MAIN =="⟩, ⟨2, "NOP()"⟩, ⟨5, "NOP()"⟩, ⟨0, "== IDLE =="⟩, ⟨0, ""⟩,
      ⟨0, "== END =="⟩, ⟨3, "NOP()"⟩, ⟨-1, "NOP()"⟩] := by rfl
  rw [hlist] at hentries
  cases hentries
  decide

end SceneScript
