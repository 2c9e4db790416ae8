import SceneScript.SampleCatalog
import SceneScript.Proofs.Reverting

/-!
# The file of a catalog

A command is read exactly where its file entry stands (`Catalog.readCommand_eq_ok_iff`). The entry says itself how long it is, so a
command that has been written is read back whatever follows it, and what stands behind the commands does not matter. A file that has
been cut short lacks at least the last byte of some entry: all reads of the whole file would be reads of the rest, and end where the
file ends. `Catalog.Writable.parse_toBytes` joins the two.
-/

namespace SceneScript

open Bytes

/-! ## Names -/

/-- Only the zero character is written with a zero byte. -/
theorem Utf8.zero_notMem_encodeChar {c : Char} (h : c ≠ '\x00') : 0 ∉ encodeChar c := by
  have hpos : c.toNat ≠ 0 := fun hzero => h (Char.toNat_inj.1 hzero)
  have hlt : c.toNat < 0x110000 := by
    rcases c.valid with h | ⟨-, h⟩
    · exact Nat.lt_trans h (by decide)
    · exact h
  have hbyte : ∀ {n : Nat}, 0 < n → n < 256 → 0 ≠ UInt8.ofNat n := by
    intro n hn hsmall heq
    have hnat := congrArg UInt8.toNat heq
    rw [UInt8.toNat_ofNat'] at hnat
    simp only [UInt8.toNat_zero] at hnat
    omega
  unfold encodeChar
  dsimp only
  repeat' split
  all_goals
    simp only [List.mem_cons, List.not_mem_nil, or_false, not_or]
    repeat' apply And.intro
  all_goals exact hbyte (by omega) (by omega)

namespace Catalog

/-- The text that a stored name is read as. -/
def nameText (stored : Bytes) : String :=
  String.ofList (Utf8.decoder.decode (stored.toList.takeWhile (· ≠ 0)))

/-- The stored name of a command, with its terminator. -/
def nameBytes (name : String) : Bytes :=
  (name.toList.flatMap Utf8.encodeChar).toArray ++ #[0]

/-- A name without the zero character is read back from its bytes, if nothing or a zero byte comes behind them. -/
theorem nameText_of_toList {stored : Bytes} {name : String} {rest : List UInt8} (h : '\x00' ∉ name.toList)
    (hstored : stored.toList = name.toList.flatMap Utf8.encodeChar ++ rest) (hrest : ∀ b ∈ rest.head?, b = 0) :
    nameText stored = name := by
  have hbytes : ∀ b ∈ name.toList.flatMap Utf8.encodeChar, decide (b ≠ 0) = true := by
    intro b hb
    obtain ⟨c, hc, hb⟩ := List.mem_flatMap.1 hb
    refine decide_eq_true ?_
    rintro rfl
    exact Utf8.zero_notMem_encodeChar (fun heq => h (heq ▸ hc)) hb
  have hend : rest.takeWhile (· ≠ 0) = [] := by
    cases rest with
    | nil => rfl
    | cons b rest => simp [hrest b rfl]
  have hdecode : Utf8.decoder.decode (name.toList.flatMap Utf8.encodeChar) = name.toList := Utf8.decodeChars_encodeChars name.toList
  rw [nameText, hstored, List.takeWhile_append_of_pos hbytes, hend, List.append_nil, hdecode, String.ofList_toList]

/-- A name without the zero character is read back. -/
theorem nameText_nameBytes {name : String} (h : '\x00' ∉ name.toList) : nameText (nameBytes name) = name :=
  nameText_of_toList h (by rw [nameBytes, Array.toList_append]) (by simp)

/-! ## Entries -/

/-- The file entry of a command with a stored name, the length that is told of the name, and parameter types. -/
def entryBytes (index : Int16) (nameLength : Int32) (stored : Bytes) (types : List UInt16) : Bytes :=
  ofInt16 index ++ (ofUInt16 (UInt16.ofNat types.length) ++ (ofInt32 nameLength ++ (stored ++ concat (types.map ofUInt16))))

theorem size_concat_ofUInt16 (types : List UInt16) : (concat (types.map ofUInt16)).size = 2 * types.length := by
  induction types with
  | nil => rfl
  | cons code rest ih =>
    rw [List.map_cons, concat_cons, Array.size_append, ih, size_ofUInt16, List.length_cons]
    omega

theorem size_entryBytes (index : Int16) (nameLength : Int32) (stored : Bytes) (types : List UInt16) :
    (entryBytes index nameLength stored types).size = 8 + stored.size + 2 * types.length := by
  have hword : (ofInt32 nameLength).size = 4 := rfl
  simp only [entryBytes, Array.size_append, size_ofInt16, size_ofUInt16, hword, size_concat_ofUInt16]
  omega

theorem commandBytes_eq (command : Command) :
    commandBytes command = entryBytes command.index (UInt32.ofNat (nameBytes command.name).size).toInt32 (nameBytes command.name)
      command.parameterTypes := by
  rw [entryBytes, ofInt32, UInt32.toUInt32_toInt32]
  simp [commandBytes, nameBytes, foldl_append_eq_concat, Array.append_assoc]

theorem toBytes_eq (catalog : Catalog) :
    catalog.toBytes = ofUInt32 (UInt32.ofNat catalog.commands.length) ++ concat (catalog.commands.map commandBytes) :=
  foldl_append_eq_concat commandBytes ..

variable {buf : Bytes} {pos : Nat}

theorem readTypes_eq_ok_iff {count : Nat} {types : List UInt16} (hpos : pos ≤ buf.size) :
    readTypes buf count pos = .ok types ↔ types.length = count ∧ buf.Holds pos (concat (types.map ofUInt16)) := by
  induction count generalizing pos types with
  | zero =>
    simp only [readTypes, pure_eq_ok_iff, List.length_eq_zero_iff]
    constructor
    · rintro rfl
      exact ⟨rfl, holds_empty.2 hpos⟩
    · rintro ⟨rfl, -⟩
      rfl
  | succ count ih =>
    simp only [readTypes, bind_eq_ok_iff, pure_eq_ok_iff, readUInt16_eq_ok_iff]
    constructor
    · rintro ⟨code, hcode, rest, hrest, rfl⟩
      obtain ⟨rfl, hholds⟩ := (ih hcode.le_size).1 hrest
      exact ⟨rfl, holds_append.2 ⟨hcode, hholds⟩⟩
    · rintro ⟨hlength, hholds⟩
      obtain ⟨code, rest, rfl⟩ := List.exists_cons_of_length_eq_add_one hlength
      obtain ⟨hcode, hrest⟩ := holds_append.1 hholds
      exact ⟨code, hcode, rest, (ih hcode.le_size).2 ⟨Nat.succ.inj hlength, hrest⟩, rfl⟩

/-- A command is read where an entry stands, and ends where the entry does. A negative length stands in front of an empty name. -/
theorem readCommand_eq_ok_iff {command : Command} {next : Nat} :
    readCommand buf pos = .ok (command, next) ↔ ∃ (nameLength : Int32) (stored : Bytes), stored.size = nameLength.toInt.toNat ∧
      command.parameterTypes.length < UInt16.size ∧
      buf.Holds pos (entryBytes command.index nameLength stored command.parameterTypes) ∧ command.name = nameText stored ∧
      next = pos + (entryBytes command.index nameLength stored command.parameterTypes).size := by
  have hword : ∀ word : Int32, (ofInt32 word).size = 4 := fun _ => rfl
  simp only [readCommand, bind_eq_ok_iff, pure_eq_ok_iff, readInt16_eq_ok_iff, readUInt16_eq_ok_iff, readInt32_eq_ok_iff,
    slice_eq_ok_iff, Prod.mk.injEq, size_entryBytes]
  simp only [entryBytes, holds_append, size_ofInt16, size_ofUInt16, hword, Nat.add_assoc, Nat.reduceAdd]
  constructor
  · rintro ⟨index, hindex, typeCount, htypeCount, nameLength, hnameLength, stored, ⟨hsize, hstored⟩, types, htypes, rfl, rfl⟩
    have hend := hstored.le_size
    rw [readTypes_eq_ok_iff (by omega)] at htypes
    obtain ⟨hlength, htypes⟩ := htypes
    have hcount : UInt16.ofNat types.length = typeCount := by rw [hlength, UInt16.ofNat_toNat]
    refine ⟨nameLength, stored, hsize, hlength ▸ typeCount.toNat_lt, ⟨hindex, ?_, hnameLength, hstored, ?_⟩, rfl, ?_⟩
    · rwa [hcount]
    · exact htypes.cast (by omega)
    · simp only [hsize, hlength]
  · rintro ⟨nameLength, stored, hsize, hlt, ⟨hindex, htypeCount, hnameLength, hstored, htypes⟩, hname, rfl⟩
    have hcount : (UInt16.ofNat command.parameterTypes.length).toNat = command.parameterTypes.length := by
      rw [UInt16.toNat_ofNat', Nat.mod_eq_of_lt hlt]
    have hend := htypes.le_size
    refine ⟨_, hindex, _, htypeCount, _, hnameLength, stored, ⟨hsize, hstored⟩, command.parameterTypes, ?_, ?_, ?_⟩
    · rw [readTypes_eq_ok_iff (by omega), hcount, ← hsize]
      exact ⟨rfl, htypes.cast (by omega)⟩
    · obtain ⟨index, name, types⟩ := command
      cases hname
      rfl
    · rw [hcount, hsize]

/-! ## Files that are cut short -/

/-- A command that is read from the front of a file is read from the whole file, and ends within the front. -/
theorem readCommand_append_left {front : Bytes} (rest : Bytes) {command : Command} {next : Nat}
    (h : readCommand front pos = .ok (command, next)) : readCommand (front ++ rest) pos = .ok (command, next) ∧ next ≤ front.size := by
  rw [readCommand_eq_ok_iff] at h ⊢
  obtain ⟨nameLength, stored, hsize, hlt, hholds, hname, hnext⟩ := h
  exact ⟨⟨nameLength, stored, hsize, hlt, hholds.append_left rest, hname, hnext⟩, hnext ▸ hholds.le_size⟩

end Catalog

/-! ## Commands that can be written -/

/-- The name of a command has no zero character, and what the entry counts fits the words for it. -/
structure Command.Writable (command : Command) : Prop where
  zero_notMem : '\x00' ∉ command.name.toList
  nameLength_lt : (command.name.toList.flatMap Utf8.encodeChar).length + 1 < sizeLimit
  typeCount_lt : command.parameterTypes.length < UInt16.size

/-- The commands of a catalog can be written, and so can their number. -/
structure Catalog.Writable (catalog : Catalog) : Prop where
  count_lt : catalog.commands.length < UInt32.size
  commands : ∀ command ∈ catalog.commands, command.Writable

namespace Catalog

variable {buf : Bytes} {pos : Nat}

/-- A command that was written is read back. -/
theorem readCommand_of_holds {command : Command} (hwritable : command.Writable) (hholds : buf.Holds pos (commandBytes command)) :
    readCommand buf pos = .ok (command, pos + (commandBytes command).size) := by
  have hsize : (nameBytes command.name).size < sizeLimit := by
    simpa [nameBytes] using hwritable.nameLength_lt
  have hnat := toNat_ofNat_of_lt hsize
  rw [commandBytes_eq] at hholds ⊢
  refine readCommand_eq_ok_iff.2 ⟨_, _, ?_, hwritable.typeCount_lt, hholds, (nameText_nameBytes hwritable.zero_notMem).symm, rfl⟩
  rw [toNat_toInt32 (hnat.symm ▸ hsize), hnat]

/-- Commands that were written one after another are read back. -/
theorem readCommands_of_holds {commands : List Command} (hwritable : ∀ command ∈ commands, command.Writable)
    (hholds : buf.Holds pos (concat (commands.map commandBytes))) : readCommands buf commands.length pos = .ok commands := by
  induction commands generalizing pos with
  | nil => rfl
  | cons command rest ih =>
    obtain ⟨hcommand, hrest⟩ := holds_append.1 hholds
    simp only [List.length_cons, readCommands, bind_eq_ok_iff, pure_eq_ok_iff, Prod.exists]
    exact ⟨command, _, readCommand_of_holds (hwritable command List.mem_cons_self) hcommand, rest,
      ih (fun c hc => hwritable c (List.mem_cons_of_mem _ hc)) hrest, rfl⟩

/-- If as many commands are read from the front of a file as were written to the whole file, the front holds all of them. -/
theorem size_le_of_readCommands {front rest : Bytes} {commands found : List Command}
    (hwritable : ∀ command ∈ commands, command.Writable) (hholds : (front ++ rest).Holds pos (concat (commands.map commandBytes)))
    (hpos : pos ≤ front.size) (hread : readCommands front commands.length pos = .ok found) :
    pos + (concat (commands.map commandBytes)).size ≤ front.size := by
  induction commands generalizing pos found with
  | nil => exact hpos
  | cons command others ih =>
    obtain ⟨hcommand, hothers⟩ := holds_append.1 hholds
    simp only [List.length_cons, readCommands, bind_eq_ok_iff, Prod.exists] at hread
    obtain ⟨first, next, hfirst, found, hfound, -⟩ := hread
    obtain ⟨hwhole, hnext⟩ := readCommand_append_left rest hfirst
    -- the whole file has only one command at this position, so the front ends it where it was written to end
    rw [readCommand_of_holds (hwritable command List.mem_cons_self) hcommand] at hwhole
    cases hwhole
    have hle := ih (fun c hc => hwritable c (List.mem_cons_of_mem _ hc)) hothers hnext hfound
    rw [List.map_cons, concat_cons, Array.size_append, ← Nat.add_assoc]
    exact hle

theorem parse_eq_ok_iff {catalog : Catalog} : parse buf = .ok catalog ↔
    ∃ count, buf.Holds 0 (ofUInt32 count) ∧ readCommands buf count.toNat 4 = .ok catalog.commands := by
  simp only [← readUInt32_eq_ok_iff, parse]
  split
  next commands heq =>
    rw [bind_eq_ok_iff] at heq
    obtain ⟨count, hcount, hread⟩ := heq
    constructor
    · rintro ⟨⟩
      exact ⟨count, hcount, hread⟩
    · rintro ⟨count', hcount', hread'⟩
      rw [hcount] at hcount'
      cases hcount'
      rw [hread] at hread'
      cases hread'
      rfl
  next e heq =>
    constructor
    · intro h
      cases h
    · rintro ⟨count, hcount, hread⟩
      rw [bind_eq_ok_iff.2 ⟨count, hcount, hread⟩] at heq
      cases heq

/-- Every file without a catalog fails in the same way. -/
theorem parse_eq_error_of_not_ok (h : ∀ catalog, parse buf ≠ .ok catalog) : parse buf = .error .invalidCatalog := by
  revert h
  unfold parse
  dsimp only
  split
  · intro h
    exact absurd rfl (h _)
  · intro _
    rfl

/-- The count and the entries stand at the start of the file. -/
theorem holds_toBytes (catalog : Catalog) (rest : Bytes) :
    (catalog.toBytes ++ rest).Holds 0 (ofUInt32 (UInt32.ofNat catalog.commands.length)) ∧
      (catalog.toBytes ++ rest).Holds 4 (concat (catalog.commands.map commandBytes)) := by
  have hself := (holds_self catalog.toBytes).append_left rest
  rw [toBytes_eq] at hself ⊢
  exact holds_append.1 hself

section

variable {catalog : Catalog}

theorem Writable.toNat_count (h : catalog.Writable) :
    (UInt32.ofNat catalog.commands.length).toNat = catalog.commands.length := by
  rw [UInt32.toNat_ofNat', Nat.mod_eq_of_lt h.count_lt]

theorem Writable.parse_append (h : catalog.Writable) (rest : Bytes) : parse (catalog.toBytes ++ rest) = .ok catalog := by
  obtain ⟨hcount, hcommands⟩ := catalog.holds_toBytes rest
  refine parse_eq_ok_iff.2 ⟨_, hcount, ?_⟩
  rw [h.toNat_count]
  exact readCommands_of_holds h.commands hcommands

/-- The front of a file that holds a catalog is the whole file. -/
theorem Writable.eq_empty_of_parse {front rest : Bytes} {found : Catalog} (h : catalog.Writable) (hfile : catalog.toBytes = front ++ rest)
    (hfound : parse front = .ok found) : rest = #[] := by
  obtain ⟨count, hword, hread⟩ := parse_eq_ok_iff.1 hfound
  obtain ⟨hcount, hcommands⟩ := catalog.holds_toBytes #[]
  rw [Array.append_empty, hfile] at hcount hcommands
  rw [ofUInt32_inj ((hword.append_left rest).eq hcount rfl), h.toNat_count] at hread
  have hle := size_le_of_readCommands h.commands hcommands hword.le_size hread
  have hsize := congrArg Array.size hfile
  rw [toBytes_eq, Array.size_append, Array.size_append, size_ofUInt32] at hsize
  exact Array.eq_empty_of_size_eq_zero (by omega)

/-- A catalog that can be written is read back from its file, whatever follows. A file that is cut short anywhere holds no catalog. -/
theorem Writable.parse_toBytes (h : catalog.Writable) :
    (∀ rest, parse (catalog.toBytes ++ rest) = .ok catalog) ∧
    ∀ size < catalog.toBytes.size, parse (catalog.toBytes.extract 0 size) = .error .invalidCatalog := by
  refine ⟨h.parse_append, ?_⟩
  intro size hsize
  have hfile : catalog.toBytes = catalog.toBytes.extract 0 size ++ catalog.toBytes.extract size catalog.toBytes.size := by
    rw [Array.extract_append_extract, Nat.zero_min, Nat.max_eq_right (Nat.le_of_lt hsize), Array.extract_size]
  refine parse_eq_error_of_not_ok fun found hfound => ?_
  have hrest := congrArg Array.size (h.eq_empty_of_parse hfile hfound)
  rw [Array.size_extract, Nat.min_self, Array.size_empty] at hrest
  omega

end

theorem writable_sample : sample.Writable :=
  ⟨by decide, by
    intro command hmem
    have hall : ∀ command ∈ sample.commands, '\x00' ∉ command.name.toList ∧
        (command.name.toList.flatMap Utf8.encodeChar).length + 1 < sizeLimit ∧ command.parameterTypes.length < UInt16.size := by
      decide +kernel
    obtain ⟨hzero, hlength, hcount⟩ := hall command hmem
    exact ⟨hzero, hlength, hcount⟩⟩

/-- The sample catalog is read back from its file with a byte behind it. Without the last byte of the file there is no catalog. -/
theorem parse_toBytes_sample : sample.Writable ∧ parse (sample.toBytes ++ #[7]) = .ok sample ∧ 0 < sample.toBytes.size ∧
    parse (sample.toBytes.extract 0 (sample.toBytes.size - 1)) = .error .invalidCatalog := by
  have hpos : 0 < sample.toBytes.size := by
    rw [toBytes_eq, Array.size_append, size_ofUInt32]
    omega
  have hlast : sample.toBytes.size - 1 < sample.toBytes.size := Nat.sub_lt hpos Nat.one_pos
  exact ⟨writable_sample, writable_sample.parse_toBytes.1 #[7], hpos, writable_sample.parse_toBytes.2 _ hlast⟩

end Catalog

end SceneScript
