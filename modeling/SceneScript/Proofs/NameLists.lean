import Mathlib.Data.List.TakeWhile
import SceneScript.NameList
import SceneScript.Proofs.CatalogFile

/-!
# Lists of names

A list can be read exactly if its file reaches the first byte of every record, and every name is then read from its own place
(`NameList.readNames_eq_ok_iff`). A name is the text of the bytes from the start of its record up to the first zero byte, the end of the
record or the end of the file (`NameList.Spans`), and no other byte has a part in it (`NameList.Spans.nameAt_congr`). Records that were
written as names filled up with zero bytes are read back as these names. `NameList.read_of_size` joins all this.
-/

namespace SceneScript

open Bytes

namespace NameList

/-! ## The bytes of a name -/

/-- Where a record starts. -/
def recordStart (index : Nat) : Nat :=
  headerSize + recordSize * index

/-- The record at `start`, as far as the file has it. -/
def recordAt (buf : Bytes) (start : Nat) : Bytes :=
  buf.extract start (start + recordSize)

/-- The name in the record at `start`. -/
def nameAt (buf : Bytes) (start : Nat) : String :=
  Catalog.nameText (recordAt buf start)

/-- The name in the record at `start` has the bytes up to `stop`: none of them is zero, and they end at a zero byte, with the record or
with the file. -/
structure Spans (buf : Bytes) (start stop : Nat) : Prop where
  le_stop : start ≤ stop
  stop_le_size : stop ≤ buf.size
  stop_le_record : stop ≤ start + recordSize
  ne_zero : ∀ pos, start ≤ pos → pos < stop → buf[pos]? ≠ some 0
  ended : buf[stop]? = some 0 ∨ stop = start + recordSize ∨ stop = buf.size

/-- Another file has the same bytes from `start` up to `stop`, and the same at `stop` itself if that belongs to the record at `start`. -/
def AgreesOn (other buf : Bytes) (start stop : Nat) : Prop :=
  ∀ pos, start ≤ pos → pos ≤ stop → pos < start + recordSize → other[pos]? = buf[pos]?

section

variable {buf other : Bytes} {start stop : Nat}

theorem size_recordAt : (recordAt buf start).size = min (start + recordSize) buf.size - start :=
  Array.size_extract

/-- Every record has a name, be it an empty one. -/
theorem exists_spans (hstart : start ≤ buf.size) : ∃ stop, Spans buf start stop := by
  have hsize := @size_recordAt buf start
  have hle : (recordAt buf start).findIdx (· == 0) ≤ (recordAt buf start).size := Array.findIdx_le_size
  refine ⟨start + (recordAt buf start).findIdx (· == 0), by omega, by omega, by omega, ?_, ?_⟩
  · intro pos hpos hlt hzero
    obtain ⟨hinside, hzero⟩ := Array.getElem?_eq_some_iff.1 hzero
    have hbyte := Array.not_of_lt_findIdx (show pos - start < (recordAt buf start).findIdx (· == 0) by omega)
    simp [recordAt, Array.getElem_extract, Nat.add_sub_cancel' hpos, hzero] at hbyte
  · by_cases hlt : (recordAt buf start).findIdx (· == 0) < (recordAt buf start).size
    · have hbyte := Array.findIdx_getElem (w := hlt)
      left
      rw [Array.getElem?_eq_getElem (by omega)]
      simpa [recordAt, Array.getElem_extract] using hbyte
    · right
      omega

/-- The name in a record is the text of its bytes. -/
theorem Spans.nameAt_eq (h : Spans buf start stop) : nameAt buf start = Encoding.utf8.decode (buf.extract start stop).toList := by
  have hsplit : recordAt buf start = buf.extract start stop ++ buf.extract stop (start + recordSize) := by
    rw [recordAt, Array.extract_append_extract, Nat.min_eq_left h.le_stop, Nat.max_eq_right h.stop_le_record]
  have hname : ∀ b ∈ (buf.extract start stop).toList, decide (b ≠ 0) = true := by
    intro b hb
    obtain ⟨place, hplace, rfl⟩ := Array.mem_extract_iff_getElem.1 (Array.mem_toList_iff.1 hb)
    have hbyte := h.ne_zero (start + place) (Nat.le_add_right ..) (by omega)
    rw [Array.getElem?_eq_getElem (by omega)] at hbyte
    exact decide_eq_true fun hzero => hbyte (congrArg some hzero)
  have hrest : (buf.extract stop (start + recordSize)).toList.takeWhile (· ≠ 0) = [] := by
    rw [List.takeWhile_eq_nil_iff]
    intro hlength
    rw [Array.length_toList, Array.size_extract] at hlength
    -- there is a byte behind the name in its record, so the name ends neither with the record nor with the file
    have hzero : buf[stop]? = some 0 := by
      rcases h.ended with hzero | hstop | hstop
      · exact hzero
      · omega
      · omega
    rw [Array.getElem?_eq_getElem (by omega), Option.some.injEq] at hzero
    simp [hzero]
  rw [nameAt, Catalog.nameText, hsplit, Array.toList_append, List.takeWhile_append_of_pos hname, hrest, List.append_nil]
  rfl

theorem AgreesOn.getElem?_eq (hagree : AgreesOn other buf start stop) (h : Spans buf start stop) {pos : Nat} (hpos : start ≤ pos)
    (hlt : pos < stop) : other[pos]? = buf[pos]? :=
  hagree pos hpos (Nat.le_of_lt hlt) (Nat.lt_of_lt_of_le hlt h.stop_le_record)

/-- The name ends at the same place in the other file, and for the same reason. -/
theorem Spans.congr (h : Spans buf start stop) (hstart : start ≤ other.size) (hagree : AgreesOn other buf start stop) :
    Spans other start stop := by
  have hsize : stop ≤ other.size := by
    by_contra hshort
    have hlast := hagree.getElem?_eq h (show start ≤ stop - 1 by omega) (by omega)
    have hfits := h.stop_le_size
    rw [Array.getElem?_eq_none (by omega), Array.getElem?_eq_getElem (by omega)] at hlast
    nomatch hlast
  refine ⟨h.le_stop, hsize, h.stop_le_record, fun pos hpos hlt => ?_, ?_⟩
  · rw [hagree.getElem?_eq h hpos hlt]
    exact h.ne_zero pos hpos hlt
  · by_cases hrecord : stop = start + recordSize
    · exact .inr (.inl hrecord)
    · have hbehind := hagree stop h.le_stop (Nat.le_refl stop) (Nat.lt_of_le_of_ne h.stop_le_record hrecord)
      rcases h.ended with hzero | hend | hend
      · exact .inl (hbehind.trans hzero)
      · exact absurd hend hrecord
      · rw [Array.getElem?_eq_none (Nat.le_of_eq hend.symm), Array.getElem?_eq_none_iff] at hbehind
        exact .inr (.inr (Nat.le_antisymm hsize hbehind))

/-- A name depends on its bytes and on what ends them alone. -/
theorem Spans.nameAt_congr (h : Spans buf start stop) (hstart : start ≤ other.size) (hagree : AgreesOn other buf start stop) :
    nameAt other start = nameAt buf start := by
  have hother := h.congr hstart hagree
  have hbytes : other.extract start stop = buf.extract start stop := by
    refine Array.ext_getElem? fun place => ?_
    rw [Array.getElem?_extract, Array.getElem?_extract, Nat.min_eq_left hother.stop_le_size, Nat.min_eq_left h.stop_le_size]
    split
    next hplace => exact hagree.getElem?_eq h (Nat.le_add_right ..) (by omega)
    next => rfl
  rw [hother.nameAt_eq, h.nameAt_eq, hbytes]

end

/-! ## Records at their places -/

/-- The first byte of the last record is there if the first byte of the first one is, and that of the last one behind it. -/
theorem reaches_succ_iff {size count offset : Nat} :
    (count + 1 = 0 ∨ offset + recordSize * (count + 1 - 1) < size) ↔
      offset + 1 ≤ size ∧ (count = 0 ∨ offset + recordSize + recordSize * (count - 1) < size) := by
  unfold recordSize
  omega

/-- Names are read exactly if the first byte of the last record is there, and each from its own record. -/
theorem readNames_eq_ok_iff {buf : Bytes} {count offset : Nat} {names : List String} :
    readNames buf count offset = .ok names ↔ (count = 0 ∨ offset + recordSize * (count - 1) < buf.size) ∧
      names = (List.range count).map fun index => nameAt buf (offset + recordSize * index) := by
  induction count generalizing offset names with
  | zero =>
    rw [readNames, pure_eq_ok_iff]
    simp [eq_comm]
  | succ count ih =>
    have hnames : (List.range (count + 1)).map (fun index => nameAt buf (offset + recordSize * index)) =
        nameAt buf offset :: (List.range count).map fun index => nameAt buf (offset + recordSize + recordSize * index) := by
      rw [List.range_succ_eq_map, List.map_cons, List.map_map]
      refine congrArg₂ List.cons rfl (List.map_congr_left fun index _ => ?_)
      rw [Function.comp_apply, Nat.mul_succ, Nat.add_assoc, Nat.add_comm recordSize]
    simp only [readNames, bind_eq_ok_iff, pure_eq_ok_iff, ensure_eq_ok_iff, ih]
    rw [hnames, reaches_succ_iff]
    constructor
    · rintro ⟨-, hfirst, rest, ⟨hreach, rfl⟩, rfl⟩
      exact ⟨⟨hfirst, hreach⟩, rfl⟩
    · rintro ⟨⟨hfirst, hreach⟩, rfl⟩
      exact ⟨(), hfirst, _, ⟨hreach, rfl⟩, rfl⟩

theorem read_eq_ok_iff {buf : Bytes} {count : UInt32} {names : List String} (hcount : buf.Holds 0 (ofUInt32 count)) :
    read buf = .ok names ↔ (count = 0 ∨ headerSize + recordSize * (count.toNat - 1) < buf.size) ∧
      names = (List.range count.toNat).map fun index => nameAt buf (recordStart index) := by
  rw [read, readUInt32_eq_ok_iff.2 hcount]
  change readNames buf count.toNat headerSize = .ok names ↔ _
  rw [readNames_eq_ok_iff, ← UInt32.toNat_inj, UInt32.toNat_zero]
  rfl

/-- Every name is read from the record with its number, and the file reaches that record. -/
theorem getElem?_of_read {buf : Bytes} {names : List String} {index : Nat} (h : read buf = .ok names) (hindex : index < names.length) :
    recordStart index < buf.size ∧ names[index]? = some (nameAt buf (recordStart index)) := by
  obtain ⟨count, hcount, -⟩ := bind_eq_ok_iff.1 h
  obtain ⟨hreach, rfl⟩ := (read_eq_ok_iff (readUInt32_eq_ok_iff.1 hcount)).1 h
  rw [List.length_map, List.length_range] at hindex
  refine ⟨?_, by simp [hindex]⟩
  rcases hreach with rfl | hreach
  · nomatch hindex
  · have hle : recordSize * index ≤ recordSize * (count.toNat - 1) := Nat.mul_le_mul_left recordSize (by omega)
    unfold recordStart
    omega

/-! ## Names that were written -/

/-- The bytes of a name, filled up with zero bytes. -/
def recordBytes (name : String) : Bytes :=
  (Encoding.utf8.encode name ++ List.replicate (recordSize - (Encoding.utf8.encode name).length) 0).toArray

/-- A name without the zero character that fits into a record. -/
structure Storable (name : String) : Prop where
  zero_notMem : '\x00' ∉ name.toList
  length_le : (Encoding.utf8.encode name).length ≤ recordSize

theorem Storable.size_recordBytes {name : String} (h : Storable name) : (recordBytes name).size = recordSize := by
  have hle := h.length_le
  simp [recordBytes, Nat.add_sub_cancel' hle]

/-- A name is read back from its record. -/
theorem Storable.nameText_recordBytes {name : String} (h : Storable name) : Catalog.nameText (recordBytes name) = name := by
  have hbytes : (recordBytes name).toList =
      name.toList.flatMap Utf8.encodeChar ++ List.replicate (recordSize - (Encoding.utf8.encode name).length) 0 := rfl
  refine Catalog.nameText_of_toList h.zero_notMem hbytes fun b hb => ?_
  exact List.eq_of_mem_replicate (List.mem_of_mem_head? hb)

/-- Names whose records stand one after another are read back in order. -/
theorem readNames_of_holds {buf : Bytes} {names : List String} {offset : Nat} (hnames : ∀ name ∈ names, Storable name)
    (h : buf.Holds offset (concat (names.map recordBytes))) : readNames buf names.length offset = .ok names := by
  induction names generalizing offset with
  | nil => rfl
  | cons name rest ih =>
    have hname := hnames name List.mem_cons_self
    rw [List.map_cons, concat_cons, holds_append, hname.size_recordBytes] at h
    obtain ⟨hrecord, hrest⟩ := h
    have hsize := hrecord.le_size
    have hbytes : recordAt buf offset = recordBytes name := by
      rw [recordAt, ← hname.size_recordBytes]
      exact hrecord.2
    have hfirst : 0 < recordSize := by decide
    rw [hname.size_recordBytes] at hsize
    simp only [List.length_cons, readNames, bind_eq_ok_iff, pure_eq_ok_iff, ensure_eq_ok_iff]
    refine ⟨(), by omega, rest, ih (fun other hother => hnames other (List.mem_cons_of_mem name hother)) hrest, ?_⟩
    refine congrArg (· :: rest) ?_
    calc nameAt buf offset
        = Catalog.nameText (recordBytes name) := by rw [nameAt, hbytes]
      _ = name := hname.nameText_recordBytes

/-! ## Files of names -/

theorem exists_count {buf : Bytes} (hsize : 4 ≤ buf.size) : ∃ count : UInt32, buf.Holds 0 (ofUInt32 count) := by
  have hword : (buf.extract 0 4).size = 4 := by
    rw [Array.size_extract]
    omega
  refine ⟨UInt32.ofNat (bigEndian (buf.extract 0 4)), ?_⟩
  rw [ofUInt32_bigEndian hword]
  exact ⟨by omega, by rw [hword]⟩

/-- A file of four bytes or more is read as a list exactly if it reaches all records that its first word counts, and it has that many
names then. Each is the text of the bytes that it spans, and another file that has these bytes, and ends them alike, has the same name
there. Storable names are read back in order from their records. -/
theorem read_of_size {buf : Bytes} (hsize : 4 ≤ buf.size) : ∃ count : UInt32, buf.Holds 0 (ofUInt32 count) ∧
    ((∃ names, read buf = .ok names) ↔ count = 0 ∨ headerSize + recordSize * (count.toNat - 1) < buf.size) ∧
    (∀ names, read buf = .ok names → names.length = count.toNat ∧
      ∀ index name, names[index]? = some name → ∃ stop, Spans buf (recordStart index) stop ∧
        name = Encoding.utf8.decode (buf.extract (recordStart index) stop).toList ∧
        ∀ other others, read other = .ok others → index < others.length → AgreesOn other buf (recordStart index) stop →
          others[index]? = some name) ∧
    ∀ names, names.length = count.toNat → (∀ name ∈ names, Storable name) →
      buf.Holds headerSize (concat (names.map recordBytes)) → read buf = .ok names := by
  obtain ⟨count, hcount⟩ := exists_count hsize
  refine ⟨count, hcount, ?_, ?_, ?_⟩
  · constructor
    · rintro ⟨names, hnames⟩
      exact ((read_eq_ok_iff hcount).1 hnames).1
    · intro hreach
      exact ⟨_, (read_eq_ok_iff hcount).2 ⟨hreach, rfl⟩⟩
  · intro names hnames
    have hlength : names.length = count.toNat := by
      rw [((read_eq_ok_iff hcount).1 hnames).2, List.length_map, List.length_range]
    refine ⟨hlength, fun index name hname => ?_⟩
    obtain ⟨hindex, -⟩ := List.getElem?_eq_some_iff.1 hname
    obtain ⟨hstart, hread⟩ := getElem?_of_read hnames hindex
    obtain ⟨stop, hstop⟩ := exists_spans (Nat.le_of_lt hstart)
    obtain rfl : nameAt buf (recordStart index) = name := Option.some.inj (hread.symm.trans hname)
    refine ⟨stop, hstop, hstop.nameAt_eq, fun other others hothers hother hagree => ?_⟩
    obtain ⟨hstart', hread'⟩ := getElem?_of_read hothers hother
    rw [hread', hstop.nameAt_congr (Nat.le_of_lt hstart') hagree]
  · intro names hlength hnames hrecords
    rw [read, readUInt32_eq_ok_iff.2 hcount]
    change readNames buf count.toNat headerSize = .ok names
    rw [← hlength]
    exact readNames_of_holds hnames hrecords

/-- Two names, of which the second one fills its record. -/
def sampleNames : List String :=
  ["S01A", "ABCDEFGHIJKLMNOPQRSTUVWXYZ0123456789"]

/-- The file that lists them. -/
def sampleList : Bytes :=
  ofUInt32 2 ++ (#[0, 0, 0, 0] ++ concat (sampleNames.map recordBytes))

/-- The names of the sample are read back. Two names are still read when one byte of the second record is left. -/
theorem read_sampleList : 4 ≤ sampleList.size ∧ (∀ name ∈ sampleNames, Storable name) ∧ read sampleList = .ok sampleNames ∧
    4 ≤ (sampleList.extract 0 45).size ∧ ∃ names, read (sampleList.extract 0 45) = .ok names ∧ names.length = 2 := by
  have hcut : (sampleList.extract 0 45).size = 45 := by decide +kernel
  obtain ⟨hword, hbehind⟩ := holds_append.1 (holds_self sampleList)
  obtain ⟨-, hrecords⟩ := holds_append.1 hbehind
  have hsize : 4 ≤ sampleList.size := hword.le_size
  have hcutWord : Holds (sampleList.extract 0 45) 0 (ofUInt32 2) := ⟨by rw [hcut]; decide, by decide +kernel⟩
  have hstorable : ∀ name ∈ sampleNames, Storable name := by
    have hall : ∀ name ∈ sampleNames, '\x00' ∉ name.toList ∧ (Encoding.utf8.encode name).length ≤ recordSize := by decide +kernel
    intro name hname
    obtain ⟨hzero, hlength⟩ := hall name hname
    exact ⟨hzero, hlength⟩
  have hcutSize : 4 ≤ (sampleList.extract 0 45).size := by omega
  obtain ⟨count, hcount, -, -, hback⟩ := read_of_size hsize
  obtain rfl : count = 2 := ofUInt32_inj (hcount.eq hword rfl)
  obtain ⟨count, hcount, hreach, hnames, -⟩ := read_of_size hcutSize
  obtain rfl : count = 2 := ofUInt32_inj (hcount.eq hcutWord rfl)
  obtain ⟨names, hread⟩ := hreach.2 (.inr (by rw [hcut]; decide))
  exact ⟨hsize, hstorable, hback sampleNames rfl hstorable hrecords, hcutSize, names, hread, (hnames names hread).1⟩

end NameList

end SceneScript
