import Mathlib.Data.List.Forall2
import SceneScript.Listing
import SceneScript.Proofs.Tiling

/-!
# Listings and texts

The listing of a script and its text are made by two traversals. Printing a listing (`ListedBlock.print`) puts each instruction on the
line that it records where that is possible, with nothing but the listing to go by. A script that has been read is listed exactly when
it has a text, and the text is its printed listing; otherwise both traversals end with the same fault (`Script.listing_of_parse?`).
-/

namespace SceneScript

open Bytes

/-! ## Computations on lists -/

theorem mapM_cons_eq_ok_iff {ε α β : Type} {f : α → Except ε β} {a : α} {rest : List α} {out : List β} :
    (a :: rest).mapM f = .ok out ↔ ∃ b others, f a = .ok b ∧ rest.mapM f = .ok others ∧ out = b :: others := by
  rw [List.mapM_cons]
  cases f a <;> cases rest.mapM f <;> simp [bind, Except.bind, pure, Except.pure, eq_comm]

/-- The results of a list are those of its items, in order. -/
theorem forall₂_of_mapM {ε α β : Type} {f : α → Except ε β} {list : List α} {out : List β} (h : list.mapM f = .ok out) :
    List.Forall₂ (fun a b => f a = .ok b) list out := by
  induction list generalizing out with
  | nil =>
    cases h
    exact .nil
  | cons a rest ih =>
    obtain ⟨b, others, ha, hrest, rfl⟩ := mapM_cons_eq_ok_iff.1 h
    exact .cons ha (ih hrest)

/-- What holds of the result of every item holds of all results. -/
theorem forall_mem_of_mapM {ε α β : Type} {f : α → Except ε β} {P : β → Prop} {list : List α} {out : List β}
    (h : list.mapM f = .ok out) (hf : ∀ a ∈ list, ∀ b, f a = .ok b → P b) : ∀ b ∈ out, P b := by
  induction list generalizing out with
  | nil =>
    cases h
    simp
  | cons a rest ih =>
    obtain ⟨b, others, ha, hrest, rfl⟩ := mapM_cons_eq_ok_iff.1 h
    obtain ⟨hfirst, hfrest⟩ := List.forall_mem_cons.1 hf
    exact List.forall_mem_cons.2 ⟨hfirst b ha, ih hrest hfrest⟩

/-! ## Printing a listing -/

/-- The text of listed instructions, when the text so far has come to the start of the line `current`, and the line that it comes to. -/
def ListedInvocation.print : Nat → List ListedInvocation → String × Nat
  | current, [] => ("", current)
  | current, invocation :: rest =>
    let blank := (invocation.line.toInt - current).toNat
    let (texts, final) := print (current + blank + 1) rest
    ("".pushn '\n' blank ++ invocation.text ++ "\n" ++ texts, final)

/-- The heading of a listed block. -/
def ListedBlock.heading (block : ListedBlock) : String :=
  s!"== {block.name} =="

/-- The text of listed blocks, when the text so far has come to the start of the line `current`. A block without instructions takes a
blank line. -/
def ListedBlock.printFrom : Nat → List ListedBlock → String
  | _, [] => ""
  | current, block :: rest =>
    let gap := if block.invocations = [] then 1 else 0
    let (text, next) := ListedInvocation.print (current + 1 + gap) block.invocations
    block.heading ++ "\n" ++ "".pushn '\n' gap ++ text ++ printFrom next rest

/-- The text of a listing. -/
def ListedBlock.print (listed : List ListedBlock) : String :=
  printFrom 1 listed

/-! ## Lines and blank lines -/

/-- The text consists of the lines, in their order, and of blank lines. -/
inductive Spaces : List String → String → Prop where
  | done : Spaces [] ""
  | blank {lines : List String} {text : String} : Spaces lines text → Spaces lines ("\n" ++ text)
  | line {line : String} {lines : List String} {text : String} : Spaces lines text → Spaces (line :: lines) (line ++ "\n" ++ text)

theorem Spaces.pushn {lines : List String} {text : String} (h : Spaces lines text) (blank : Nat) :
    Spaces lines ("".pushn '\n' blank ++ text) := by
  induction blank generalizing text with
  | zero => rwa [show "".pushn '\n' 0 = "" from rfl, String.empty_append]
  | succ blank ih =>
    rw [show "".pushn '\n' (blank + 1) = "".pushn '\n' blank ++ "\n" from String.push_eq_append _, String.append_assoc]
    exact ih h.blank

/-- The heading of a block and the texts of its instructions. -/
def ListedBlock.lines (block : ListedBlock) : List String :=
  block.heading :: block.invocations.map (·.text)

/-- Printed instructions are their texts, with blank lines. -/
theorem ListedInvocation.spaces_print {lines : List String} {text : String} (h : Spaces lines text) (current : Nat)
    (invocations : List ListedInvocation) :
    Spaces (invocations.map (·.text) ++ lines) ((print current invocations).1 ++ text) := by
  induction invocations generalizing current with
  | nil => rwa [print, String.empty_append]
  | cons invocation rest ih =>
    simp only [print, List.map_cons, List.cons_append, String.append_assoc]
    refine Spaces.pushn ?_ _
    rw [← String.append_assoc]
    exact .line (ih _)

/-- A printed listing is its headings and texts, with blank lines. -/
theorem ListedBlock.spaces_printFrom (current : Nat) (listed : List ListedBlock) :
    Spaces (listed.flatMap lines) (printFrom current listed) := by
  induction listed generalizing current with
  | nil => exact .done
  | cons block rest ih =>
    simp only [printFrom, List.flatMap_cons, lines, List.cons_append, String.append_assoc]
    rw [← String.append_assoc]
    exact .line ((ListedInvocation.spaces_print (ih _) _ _).pushn _)

/-! ## Blocks of a table -/

namespace Block

theorem Ranges.le {first past : Nat} {blocks : List Block} (h : Ranges first blocks past) : first ≤ past := by
  induction h with
  | nil => exact Nat.le_refl _
  | cons hown _ ih => exact Nat.le_trans hown ih

theorem Ranges.past_le {first past : Nat} {blocks : List Block} (h : Ranges first blocks past) :
    ∀ block ∈ blocks, block.past ≤ past := by
  induction h with
  | nil => simp
  | cons _ hrest ih => exact List.forall_mem_cons.2 ⟨hrest.le, ih⟩

/-- The entries of a table stand in front of its end, also one that is cut short. -/
theorem address_lt_of_readAll {buf : Bytes} {catalog : Catalog} {symbols : SymbolTable} {tableEnd count entry first : Nat}
    {blocks : List Block} {invocations : List Invocation} (hcount : count = (tableEnd - entry + 7) / 8)
    (h : readAll buf catalog symbols tableEnd count entry first = .ok (blocks, invocations)) :
    ∀ block ∈ blocks, block.address < tableEnd := by
  intro block hblock
  obtain ⟨number, hlt, _, _, hread⟩ := exists_read_of_mem h block hblock
  obtain ⟨_, _, _, _, _, -, -, -, -, rfl⟩ := read_eq_ok_iff.1 hread
  simp only [Header.blockEntrySize]
  omega

/-- The instructions of a block are as many as its range says. -/
theorem slice_eq_nil_iff {block : Block} {invocations : List Invocation} (h : block.past ≤ invocations.length) :
    block.slice invocations = [] ↔ ¬block.first < block.past := by
  rw [slice, List.take_eq_nil_iff, List.drop_eq_nil_iff]
  omega

end Block

/-! ## Two traversals -/

namespace Script

/-- The text of instructions is their printed listing, and if one of them has none, both end with its fault. -/
theorem renderInvocations_eq_map (script : Script) (current : Nat) (invocations : List Invocation) :
    (script.renderer .semantic).renderInvocations current invocations =
      (invocations.mapM script.listInvocation).map (ListedInvocation.print current) := by
  induction invocations generalizing current with
  | nil => rfl
  | cons invocation rest ih =>
    simp only [Renderer.renderInvocations, List.mapM_cons, listInvocation, ih]
    cases (script.renderer .semantic).render invocation with
    | error e => rfl
    | ok text => cases rest.mapM script.listInvocation <;> rfl

theorem heading_append_newline (name : String) : s!"== {name} ==\n" = s!"== {name} ==" ++ "\n" :=
  (@String.append_assoc _ " ==" "\n").symm

/-- The text of blocks that have instructions exactly when their ranges say so is their printed listing. -/
theorem renderFrom_eq_map (script : Script) (current : Nat) {blocks : List Block}
    (h : ∀ block ∈ blocks, script.blockInvocations block = [] ↔ ¬block.first < block.past) :
    (script.renderer .semantic).renderFrom current blocks = (blocks.mapM script.listBlock).map (ListedBlock.printFrom current) := by
  induction blocks generalizing current with
  | nil => rfl
  | cons block rest ih =>
    obtain ⟨hblock, hrest⟩ := List.forall_mem_cons.1 h
    have htexts : ∀ line, (script.renderer .semantic).renderInvocations line (block.slice (script.renderer .semantic).invocations) =
        ((script.blockInvocations block).mapM script.listInvocation).map (ListedInvocation.print line) :=
      fun line => script.renderInvocations_eq_map line _
    simp only [Renderer.renderFrom, List.mapM_cons, listBlock, htexts, fun line => ih line hrest, heading_append_newline]
    cases hown : (script.blockInvocations block).mapM script.listInvocation with
    | error e => rfl
    | ok invocations =>
      have hempty : invocations = [] ↔ ¬block.first < block.past := by
        rw [← hblock, ← List.length_eq_zero_iff, ← List.length_eq_zero_iff, (forall₂_of_mapM hown).length_eq]
      have hgap : (if block.first < block.past then 0 else 1) = if invocations = [] then 1 else 0 := by
        simp only [hempty, ite_not]
      rw [hgap]
      cases rest.mapM script.listBlock <;> rfl

/-- The listed form of an instruction: where it stands, the line that it records, its command and its semantic form. -/
structure Lists (script : Script) (invocation : Invocation) (listed : ListedInvocation) : Prop where
  address : listed.address = UInt32.ofNat invocation.address
  line : listed.line = invocation.line
  mnemonic : listed.mnemonic = invocation.command.name
  text : (script.renderer .semantic).render invocation = .ok listed.text

theorem lists_of_listInvocation {script : Script} {invocation : Invocation} {listed : ListedInvocation}
    (h : script.listInvocation invocation = .ok listed) : script.Lists invocation listed := by
  simp only [listInvocation, bind_eq_ok_iff, pure_eq_ok_iff] at h
  obtain ⟨text, htext, rfl⟩ := h
  exact ⟨rfl, rfl, rfl, htext⟩

/-- A listed block has the name, the position and the start of the block, and its instructions. -/
theorem exists_of_listBlock {script : Script} {block : Block} {listed : ListedBlock} (h : script.listBlock block = .ok listed) :
    ∃ invocations, (script.blockInvocations block).mapM script.listInvocation = .ok invocations ∧
      listed = ⟨UInt32.ofNat block.address, block.name, block.start, invocations⟩ := by
  simp only [listBlock, bind_eq_ok_iff, pure_eq_ok_iff] at h
  obtain ⟨invocations, hinvocations, rfl⟩ := h
  exact ⟨invocations, hinvocations, rfl⟩

/-- The positions of the entries of a table are words. -/
theorem address_lt_of_parse? {bytes : Bytes} {catalog : Catalog} {encoding : Encoding} {script : Script}
    (h : parse? bytes catalog encoding = .ok (some script)) : ∀ block ∈ script.blocks, block.address < UInt32.size := by
  obtain ⟨header, symbols, blocks, invocations, -, htable, rfl⟩ := parse?_eq_ok_some_iff.1 h
  exact fun block hmem => Nat.lt_trans (Block.address_lt_of_readAll rfl htable block hmem) header.blockTableEnd.toNat_lt

/-- A script that has been read has a listing exactly when it has a text, and otherwise both fail in the same way. The listing has the
blocks in the order of the table and in them all instructions in their order, and the text is the printed listing: the headings and
the texts of the instructions, with blank lines. -/
theorem listing_of_parse? {bytes : Bytes} {catalog : Catalog} {encoding : Encoding} {script : Script}
    (h : parse? bytes catalog encoding = .ok (some script)) :
    (∀ e, script.listing = .error e ↔ script.decompile .semantic = .error e) ∧
    ∀ listed, script.listing = .ok listed →
      List.Forall₂ (fun block entry => entry.name = block.name ∧ entry.address.toNat = block.address ∧ entry.start = block.start)
        script.blocks listed ∧
      List.Forall₂ script.Lists script.invocations (listed.flatMap (·.invocations)) ∧
      script.decompile .semantic = .ok (ListedBlock.print listed) ∧
      Spaces (listed.flatMap ListedBlock.lines) (ListedBlock.print listed) := by
  obtain ⟨rfl, htiled⟩ := tiled_of_parse? h
  have htext : script.decompile .semantic = script.listing.map ListedBlock.print :=
    script.renderFrom_eq_map 1 fun block hmem => Block.slice_eq_nil_iff (htiled.ranges.past_le block hmem)
  refine ⟨fun e => ?_, fun listed hlisted => ?_⟩
  · rw [htext]
    cases script.listing <;> simp [Except.map]
  · have hblocks := forall₂_of_mapM hlisted
    refine ⟨?_, ?_, ?_, ListedBlock.spaces_printFrom ..⟩
    · have haddress : ∀ block ∈ script.blocks, block.address < UInt32.size := address_lt_of_parse? h
      refine ((List.forall₂_and_left _ _).2 ⟨haddress, hblocks⟩).imp fun block entry ⟨hlt, hentry⟩ => ?_
      obtain ⟨invocations, -, rfl⟩ := exists_of_listBlock hentry
      exact ⟨rfl, UInt32.toNat_ofNat_of_lt' hlt, rfl⟩
    · rw [← htiled.flatMap_blockInvocations]
      refine List.rel_flatMap hblocks fun block entry hentry => ?_
      obtain ⟨invocations, hinvocations, rfl⟩ := exists_of_listBlock hentry
      exact (forall₂_of_mapM hinvocations).imp fun _ _ => lists_of_listInvocation
    · rw [htext, hlisted]
      rfl

end Script

/-- The listing of the sample. -/
def ListedBlock.sample : List ListedBlock :=
  [⟨91, "MAIN", 99, [⟨99, 2, "JUMP", "JUMP(3)"⟩, ⟨117, 3, "NOP", "NOP()"⟩]⟩]

/-- The sample is listed, and its text is the printed listing. -/
theorem Script.listing_sample : parse? sample.bytes Catalog.sample sample.encoding = .ok (some sample) ∧
    sample.listing = .ok ListedBlock.sample ∧ ListedBlock.print ListedBlock.sample = "== MAIN ==\nJUMP(3)\nNOP()\n" ∧
    sample.decompile .semantic = .ok (ListedBlock.print ListedBlock.sample) := by
  have hlisting : sample.listing = .ok ListedBlock.sample := by rfl
  obtain ⟨-, hsuccess⟩ := listing_of_parse? consistent_sample.parsed
  obtain ⟨-, -, htext, -⟩ := hsuccess _ hlisting
  exact ⟨consistent_sample.parsed, hlisting, by rfl, htext⟩

end SceneScript
