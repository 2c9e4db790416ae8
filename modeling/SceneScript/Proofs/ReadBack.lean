import SceneScript.Text.Encoding

/-!
# Reading back what was written

Each encoding writes a text character by character. Where the bytes of every character are read as one character again, with nothing
pending before and after (`ByteDecoder.Reads`), the whole text is read back so (`ByteDecoder.decode_flatMap`). This holds of all
characters that an encoding has (`Encoding.reads_encodeChar`), but not all of them are read back as they are: `Encoding.fold` tells
which other character shares their code. In UTF-8 there are none, in Shift_JIS three, and in GB 18030 those private-use characters whose
two-byte codes were given to other characters.
-/

namespace SceneScript

/-! ## Decoders -/

/-- The characters that bytes yield from a state on, and the state after them. -/
def feed {State : Type} (step : State → UInt8 → List Char × State) : State → List UInt8 → List Char × State
  | state, [] => ([], state)
  | state, b :: rest =>
    let (chars, next) := feed step (step state b).2 rest
    ((step state b).1 ++ chars, next)

@[simp] theorem feed_nil {State : Type} (step : State → UInt8 → List Char × State) (state : State) :
    feed step state [] = ([], state) := rfl

@[simp] theorem feed_cons {State : Type} (step : State → UInt8 → List Char × State) (state : State) (b : UInt8)
    (rest : List UInt8) : feed step state (b :: rest) =
      ((step state b).1 ++ (feed step (step state b).2 rest).1, (feed step (step state b).2 rest).2) := rfl

namespace ByteDecoder

variable {d : ByteDecoder}

theorem decodeFrom_append (state : d.State) (bytes rest : List UInt8) :
    d.decodeFrom state (bytes ++ rest) = (feed d.step state bytes).1 ++ d.decodeFrom (feed d.step state bytes).2 rest := by
  induction bytes generalizing state with
  | nil => rfl
  | cons b bytes ih => rw [List.cons_append, decodeFrom_cons, ih, feed_cons, List.append_assoc]

/-- The bytes are read as one character, with nothing pending before and after. -/
def Reads (d : ByteDecoder) (bytes : List UInt8) (c : Char) : Prop :=
  feed d.step d.initial bytes = ([c], d.initial)

/-- Where each character is written as bytes that are read as one character, a text is read back character by character. -/
theorem decode_flatMap {encode : Char → List UInt8} {fold : Char → Char} {text : List Char}
    (h : ∀ c ∈ text, d.Reads (encode c) (fold c)) (hfinish : d.finish d.initial = []) :
    d.decode (text.flatMap encode) = text.map fold := by
  rw [decode]
  induction text with
  | nil => exact hfinish
  | cons c text ih =>
    have hfirst := h c (List.mem_cons_self ..)
    rw [Reads] at hfirst
    rw [List.flatMap_cons, decodeFrom_append, hfirst, ih fun other hother => h other (List.mem_cons_of_mem _ hother)]
    rfl

end ByteDecoder

theorem toNat_ofNat_of_lt_size {n : Nat} (h : n < 256) : (UInt8.ofNat n).toNat = n :=
  UInt8.toNat_ofNat_of_lt' h

namespace Utf8

theorem step_none (b : UInt8) : step none b = start b := rfl

/-- A byte in the range of the next one adds six bits. -/
theorem step_some (value missing : Nat) {digit : Nat} {lowest highest : UInt8} (hdigit : digit < 64)
    (hlowest : lowest.toNat ≤ 0x80 + digit) (hhighest : 0x80 + digit ≤ highest.toNat) :
    step (some ⟨value, missing + 1, lowest, highest⟩) (UInt8.ofNat (0x80 + digit)) =
      if missing = 0 then ([Char.ofNat (64 * value + digit)], none) else ([], some ⟨64 * value + digit, missing, 0x80, 0xBF⟩) := by
  have hnat : (UInt8.ofNat (0x80 + digit)).toNat = 0x80 + digit := toNat_ofNat_of_lt_size (by omega)
  have hrange : lowest ≤ UInt8.ofNat (0x80 + digit) ∧ UInt8.ofNat (0x80 + digit) ≤ highest := by
    rw [UInt8.le_iff_toNat_le, UInt8.le_iff_toNat_le, hnat]
    exact ⟨hlowest, hhighest⟩
  simp only [step, if_pos hrange, hnat, Nat.add_sub_cancel_left, Nat.add_sub_cancel, Nat.add_eq_right]

theorem le_highest {digit : Nat} (h : digit < 64) : 0x80 + digit ≤ (0xBF : UInt8).toNat := by
  have hhighest : (0xBF : UInt8).toNat = 0xBF := rfl
  omega

/-- The second byte of three or four. -/
theorem step_second (value missing : Nat) {digit : Nat} {lowest highest : UInt8} (hdigit : digit < 64)
    (hlowest : lowest.toNat ≤ 0x80 + digit) (hhighest : 0x80 + digit ≤ highest.toNat) :
    step (some ⟨value, missing + 2, lowest, highest⟩) (UInt8.ofNat (0x80 + digit)) =
      ([], some ⟨64 * value + digit, missing + 1, 0x80, 0xBF⟩) := by
  rw [step_some value (missing + 1) hdigit hlowest hhighest, if_neg (Nat.succ_ne_zero missing)]

/-- The third byte of four. -/
theorem step_third (value : Nat) {digit : Nat} (hdigit : digit < 64) :
    step (some ⟨value, 2, 0x80, 0xBF⟩) (UInt8.ofNat (0x80 + digit)) = ([], some ⟨64 * value + digit, 1, 0x80, 0xBF⟩) :=
  step_second value 0 hdigit (Nat.le_add_right ..) (le_highest hdigit)

/-- The last byte. -/
theorem step_last (value : Nat) {digit : Nat} (hdigit : digit < 64) :
    step (some ⟨value, 1, 0x80, 0xBF⟩) (UInt8.ofNat (0x80 + digit)) = ([Char.ofNat (64 * value + digit)], none) := by
  rw [step_some value 0 hdigit (Nat.le_add_right ..) (le_highest hdigit), if_pos rfl]

theorem start_lead {lead : Nat} {pending : Pending} (hlead : 0x80 ≤ lead) (hlt : lead < 256)
    (h : pendingOf? (UInt8.ofNat lead) = some pending) : start (UInt8.ofNat lead) = ([], some pending) := by
  have hnat := toNat_ofNat_of_lt_size hlt
  have hascii : ¬ UInt8.ofNat lead < 0x80 := by
    rw [UInt8.lt_iff_toNat_lt, hnat]
    exact Nat.not_lt.2 hlead
  rw [start, if_neg hascii, h]

/-- The first byte of two. -/
theorem pendingOf?_two {n : Nat} (h : 0x80 ≤ n) (hlt : n < 0x800) :
    pendingOf? (UInt8.ofNat (0xC0 + n / 64)) = some ⟨n / 64, 1, 0x80, 0xBF⟩ := by
  have hnat : (UInt8.ofNat (0xC0 + n / 64)).toNat = 0xC0 + n / 64 := toNat_ofNat_of_lt_size (by omega)
  unfold pendingOf?
  simp only [UInt8.le_iff_toNat_le, hnat, UInt8.reduceToNat]
  rw [if_pos (by omega), Nat.add_sub_cancel_left]

/-- The first byte of three. The range of the second one has the byte that is written there. -/
theorem exists_pendingOf?_three {n : Nat} (h : 0x800 ≤ n) (hlt : n < 0x10000) (hvalid : n < 0xD800 ∨ 0xDFFF < n) :
    ∃ lowest highest : UInt8, pendingOf? (UInt8.ofNat (0xE0 + n / 4096)) = some ⟨n / 4096, 2, lowest, highest⟩ ∧
      lowest.toNat ≤ 0x80 + n / 64 % 64 ∧ 0x80 + n / 64 % 64 ≤ highest.toNat := by
  have hnat : (UInt8.ofNat (0xE0 + n / 4096)).toNat = 0xE0 + n / 4096 := toNat_ofNat_of_lt_size (by omega)
  unfold pendingOf?
  simp only [UInt8.le_iff_toNat_le, ← UInt8.toNat_inj, hnat, UInt8.reduceToNat]
  rw [if_neg (by omega)]
  by_cases hfirst : n / 4096 = 0
  · rw [if_pos (by omega), hfirst]
    exact ⟨0xA0, 0xBF, rfl, by simp; omega, by simp; omega⟩
  rw [if_neg (by omega)]
  by_cases hsurrogates : n / 4096 = 0xD
  · rw [if_pos (by omega), hsurrogates]
    exact ⟨0x80, 0x9F, rfl, by simp, by simp; omega⟩
  rw [if_neg (by omega), if_pos (by omega), Nat.add_sub_cancel_left]
  exact ⟨0x80, 0xBF, rfl, by simp, by simp; omega⟩

/-- The first byte of four. The range of the second one has the byte that is written there. -/
theorem exists_pendingOf?_four {n : Nat} (h : 0x10000 ≤ n) (hlt : n < 0x110000) :
    ∃ lowest highest : UInt8, pendingOf? (UInt8.ofNat (0xF0 + n / 262144)) = some ⟨n / 262144, 3, lowest, highest⟩ ∧
      lowest.toNat ≤ 0x80 + n / 4096 % 64 ∧ 0x80 + n / 4096 % 64 ≤ highest.toNat := by
  have hnat : (UInt8.ofNat (0xF0 + n / 262144)).toNat = 0xF0 + n / 262144 := toNat_ofNat_of_lt_size (by omega)
  unfold pendingOf?
  simp only [UInt8.le_iff_toNat_le, ← UInt8.toNat_inj, hnat, UInt8.reduceToNat]
  rw [if_neg (by omega), if_neg (by omega), if_neg (by omega), if_neg (by omega)]
  by_cases hfirst : n / 262144 = 0
  · rw [if_pos (by omega), hfirst]
    exact ⟨0x90, 0xBF, rfl, by simp; omega, by simp; omega⟩
  rw [if_neg (by omega)]
  by_cases hlast : n / 262144 = 4
  · rw [if_pos (by omega), hlast]
    exact ⟨0x80, 0x8F, rfl, by simp, by simp; omega⟩
  rw [if_neg (by omega), if_pos (by omega), Nat.add_sub_cancel_left]
  exact ⟨0x80, 0xBF, rfl, by simp, by simp; omega⟩

/-- Every character is read back. -/
theorem reads_encodeChar (c : Char) : decoder.Reads (encodeChar c) c := by
  have hvalid : c.toNat < 0xD800 ∨ 0xDFFF < c.toNat ∧ c.toNat < 0x110000 := c.valid
  have hchar := Char.ofNat_toNat c
  show feed step none (encodeChar c) = ([c], none)
  unfold encodeChar
  dsimp only
  generalize c.toNat = n at *
  by_cases hone : n < 0x80
  · have hnat : (UInt8.ofNat n).toNat = n := toNat_ofNat_of_lt_size (by omega)
    have hascii : UInt8.ofNat n < 0x80 := by
      rw [UInt8.lt_iff_toNat_lt, hnat]
      exact hone
    simp only [if_pos hone, feed_cons, feed_nil, step, start, if_pos hascii, hnat, hchar, List.append_nil]
  by_cases htwo : n < 0x800
  · have hlead := start_lead (by omega) (by omega) (pendingOf?_two (Nat.not_lt.1 hone) htwo)
    have hlast := step_last (n / 64) (Nat.mod_lt n (show 0 < 64 by decide))
    rw [Nat.div_add_mod, hchar] at hlast
    simp only [if_neg hone, if_pos htwo, feed_cons, feed_nil, step_none, hlead, hlast, List.append_nil, List.nil_append]
  by_cases hthree : n < 0x10000
  · obtain ⟨lowest, highest, hpending, hlowest, hhighest⟩ := exists_pendingOf?_three (Nat.not_lt.1 htwo) hthree (by omega)
    have hlead := start_lead (by omega) (by omega) hpending
    have hsecond := step_second (n / 4096) 0 (Nat.mod_lt (n / 64) (show 0 < 64 by decide)) hlowest hhighest
    have hlast := step_last (n / 64) (Nat.mod_lt n (show 0 < 64 by decide))
    rw [show 64 * (n / 4096) + n / 64 % 64 = n / 64 by omega] at hsecond
    rw [Nat.div_add_mod, hchar] at hlast
    simp only [if_neg hone, if_neg htwo, if_pos hthree, feed_cons, feed_nil, step_none, hlead, hsecond, hlast, List.append_nil,
      List.nil_append]
  · obtain ⟨lowest, highest, hpending, hlowest, hhighest⟩ := exists_pendingOf?_four (Nat.not_lt.1 hthree) (by omega)
    have hlead := start_lead (by omega) (by omega) hpending
    have hsecond := step_second (n / 262144) 1 (Nat.mod_lt (n / 4096) (show 0 < 64 by decide)) hlowest hhighest
    have hthird := step_third (n / 4096) (Nat.mod_lt (n / 64) (show 0 < 64 by decide))
    have hlast := step_last (n / 64) (Nat.mod_lt n (show 0 < 64 by decide))
    rw [show 64 * (n / 262144) + n / 4096 % 64 = n / 4096 by omega] at hsecond
    rw [show 64 * (n / 4096) + n / 64 % 64 = n / 64 by omega] at hthird
    rw [Nat.div_add_mod, hchar] at hlast
    simp only [if_neg hone, if_neg htwo, if_neg hthree, feed_cons, feed_nil, step_none, hlead, hsecond, hthird, hlast, List.append_nil,
      List.nil_append]

end Utf8

/-! ## Code tables -/

/-- A text that is written out has the characters of its literal. -/
theorem toList_of_eq {text : String} {chars : List Char} {P : List Char → Prop} (h : text = String.ofList chars) (hchars : P chars) :
    P text.toList := by
  rw [h, String.toList_ofList]
  exact hchars

namespace CodeTable

variable {rows : Array String} {row column : Nat} {c : Char}

/-- The characters of a table are those of its rows, except for the replacement character. -/
theorem char?_ofRows_eq_some_iff : (ofRows rows).char? row column = some c ↔
    ∃ text, rows[row]? = some text ∧ text.toList[column]? = some c ∧ c ≠ replacement := by
  simp only [char?, ofRows, Array.getElem?_map, Option.bind_eq_bind, Option.bind_eq_some_iff, Option.map_eq_some_iff]
  constructor
  · rintro ⟨cells, ⟨text, htext, rfl⟩, found, hfound, hc⟩
    split at hc
    · cases hc
    next hne =>
      cases hc
      exact ⟨text, htext, by simpa using hfound, hne⟩
  · rintro ⟨text, htext, hfound, hne⟩
    exact ⟨_, ⟨text, htext, rfl⟩, c, by simpa using hfound, if_neg hne⟩

/-- A character stands in one of the rows, and in one of the columns if no row has more of them. -/
theorem lt_of_char?_ofRows {width : Nat} (hwidth : ∀ text ∈ rows, text.toList.length ≤ width)
    (h : (ofRows rows).char? row column = some c) : row < rows.size ∧ column < width := by
  obtain ⟨text, htext, hcell, -⟩ := char?_ofRows_eq_some_iff.1 h
  obtain ⟨hrow, -⟩ := Array.getElem?_eq_some_iff.1 htext
  obtain ⟨hcolumn, -⟩ := List.getElem?_eq_some_iff.1 hcell
  have hle := hwidth text (Array.mem_of_getElem? htext)
  exact ⟨hrow, by omega⟩

/-- A cell in a row that is written out can be looked up. -/
theorem char?_ofRows_of_eq {text : String} {chars : List Char} (hrow : rows[row]? = some text) (htext : text = String.ofList chars)
    (hcell : chars[column]? = some c) (hc : c ≠ replacement) : (ofRows rows).char? row column = some c :=
  char?_ofRows_eq_some_iff.2 ⟨text, hrow, toList_of_eq (P := fun cells => cells[column]? = some c) htext hcell, hc⟩

end CodeTable

/-! ## Shift_JIS -/

namespace ShiftJis

-- A row is unfolded into its characters by its literal: evaluating `toList` would decode the bytes of the text.
set_option maxRecDepth 2000 in
/-- No row has more columns than there are trail bytes. -/
theorem length_toList_le : ∀ text ∈ rows, text.toList.length ≤ 188 := by
  simp only [rows, List.mem_toArray, List.mem_cons, forall_eq_or_imp, List.not_mem_nil, false_implies, implies_true, and_true]
  and_intros
  all_goals
    apply toList_of_eq (P := fun chars => chars.length ≤ 188)
    · with_reducible rfl
    · decide +kernel

/-- The rows of the user's own characters are empty. -/
theorem rows_of_isUserRow {row : Nat} (h : isUserRow row = true) : rows[row]? = some "" := by
  have hrows : ∀ row < 60, isUserRow row = true → rows[row]? = some "" := by decide
  refine hrows row ?_ h
  simp only [isUserRow, Bool.and_eq_true, decide_eq_true_eq] at h
  omega

/-- What a character is read back as. The yen sign, the overline and the minus sign are written with the codes of other characters. -/
def fold (c : Char) : Char :=
  if c = '\u00A5' then '\\' else if c = '\u203E' then '~' else if c = '\u2212' then '\uFF0D' else c

/-- A byte that stands for a character on its own. -/
theorem reads_single {b : UInt8} {c : Char} (h : start b = ([c], none)) : decoder.Reads [b] c := by
  show feed step none [b] = ([c], none)
  simp only [feed_cons, feed_nil, step, h, List.append_nil]

/-- The lead byte of a row waits for another byte, and tells the row. -/
theorem start_lead {row : Nat} (hrow : row < 60) {lead : UInt8} (hlead : lead.toNat = if row < 31 then 0x81 + row else 0xC1 + row) :
    start lead = ([], some lead) ∧ rowOf lead = row := by
  have hlow : ¬ lead.toNat ≤ 0x80 := by split at hlead <;> omega
  have hkana : ¬ (0xA1 ≤ lead.toNat ∧ lead.toNat ≤ 0xDF) := by split at hlead <;> omega
  have hrange : 0x81 ≤ lead.toNat ∧ lead.toNat ≤ 0x9F ∨ 0xE0 ≤ lead.toNat ∧ lead.toNat ≤ 0xFC := by split at hlead <;> omega
  constructor
  · simp only [start, isLead, UInt8.le_iff_toNat_le, UInt8.reduceToNat, if_neg hlow, if_neg hkana, Bool.or_eq_true, Bool.and_eq_true,
      decide_eq_true_eq, if_pos hrange]
  · simp only [rowOf, UInt8.lt_iff_toNat_lt, UInt8.reduceToNat]
    split at hlead <;> split <;> omega

/-- The trail byte of a column tells the column. -/
theorem columnOf?_trail {column : Nat} (hcolumn : column < 188) {trail : UInt8}
    (htrail : trail.toNat = if column < 63 then 0x40 + column else 0x41 + column) : columnOf? trail = some column := by
  simp only [columnOf?, UInt8.le_iff_toNat_le, UInt8.reduceToNat]
  split at htrail
  · rw [if_pos (by omega)]
    congr 1
    omega
  · rw [if_neg (by omega), if_pos (by omega)]
    congr 1
    omega

/-- The bytes of a cell are read as its character. -/
theorem reads_cellBytes {row column : Nat} {c : Char} (h : table.char? row column = some c) : decoder.Reads (cellBytes row column) c := by
  obtain ⟨hrow, hcolumn⟩ := CodeTable.lt_of_char?_ofRows length_toList_le h
  have huser : ¬ isUserRow row = true := by
    intro huser
    obtain ⟨text, htext, hcell, -⟩ := CodeTable.char?_ofRows_eq_some_iff.1 h
    rw [rows_of_isUserRow huser, Option.some.injEq] at htext
    rw [← htext] at hcell
    nomatch hcell
  have hsize : rows.size = 60 := rfl
  rw [hsize] at hrow
  have hlead : (UInt8.ofNat (if row < 31 then 0x81 + row else 0xC1 + row)).toNat = if row < 31 then 0x81 + row else 0xC1 + row :=
    toNat_ofNat_of_lt_size (by split <;> omega)
  have htrail : (UInt8.ofNat (if column < 63 then 0x40 + column else 0x41 + column)).toNat =
      if column < 63 then 0x40 + column else 0x41 + column := toNat_ofNat_of_lt_size (by split <;> omega)
  obtain ⟨hstart, hrowOf⟩ := start_lead hrow hlead
  show feed step none (cellBytes row column) = ([c], none)
  simp only [cellBytes, feed_cons, feed_nil, step, hstart, pair?, columnOf?_trail hcolumn htrail, hrowOf, Option.bind_eq_bind,
    Option.bind_some, if_neg huser, h, List.append_nil, List.nil_append]

theorem fold_of_ne {c : Char} (hyen : c.toNat ≠ 0xA5) (hoverline : c.toNat ≠ 0x203E) (hminus : c.toNat ≠ 0x2212) : fold c = c := by
  have hne : ∀ other : Char, c.toNat ≠ other.toNat → c ≠ other := fun _ h heq => h (congrArg Char.toNat heq)
  rw [fold, if_neg (hne '\u00A5' hyen), if_neg (hne '\u203E' hoverline), if_neg (hne '\u2212' hminus)]

/-- What can be written is read back, except for three characters. -/
theorem reads_of_encodeChar? {c : Char} {bytes : List UInt8} (h : encodeChar? c = some bytes) : decoder.Reads bytes (fold c) := by
  have hchar := Char.ofNat_toNat c
  have heq : ∀ other : Char, c.toNat = other.toNat → c = other := fun _ => Char.toNat_inj.1
  unfold encodeChar? at h
  dsimp only at h
  by_cases hsingle : c.toNat ≤ 0x80
  · have hnat : (UInt8.ofNat c.toNat).toNat = c.toNat := toNat_ofNat_of_lt_size (by omega)
    rw [if_pos hsingle, Option.some.injEq] at h
    subst h
    rw [fold_of_ne (by omega) (by omega) (by omega)]
    refine reads_single ?_
    simp only [start, UInt8.le_iff_toNat_le, hnat, UInt8.reduceToNat, if_pos hsingle, hchar]
  rw [if_neg hsingle] at h
  by_cases hyen : c.toNat = 0xA5
  · rw [if_pos hyen, Option.some.injEq] at h
    subst h
    rw [heq '\u00A5' hyen]
    exact reads_single rfl
  rw [if_neg hyen] at h
  by_cases hoverline : c.toNat = 0x203E
  · rw [if_pos hoverline, Option.some.injEq] at h
    subst h
    rw [heq '\u203E' hoverline]
    exact reads_single rfl
  rw [if_neg hoverline] at h
  by_cases hkana : 0xFF61 ≤ c.toNat ∧ c.toNat ≤ 0xFF9F
  · rw [if_pos hkana, Option.some.injEq] at h
    subst h
    have hnat : (UInt8.ofNat (c.toNat - 0xFF61 + 0xA1)).toNat = c.toNat - 0xFF61 + 0xA1 := toNat_ofNat_of_lt_size (by omega)
    have hsum : 0xFF61 + (c.toNat - 0xFF61 + 0xA1 - 0xA1) = c.toNat := by omega
    rw [fold_of_ne hyen hoverline (by omega)]
    refine reads_single ?_
    simp only [start, UInt8.le_iff_toNat_le, hnat, UInt8.reduceToNat]
    rw [if_neg (by omega), if_pos (by omega), hsum, hchar]
  rw [if_neg hkana, Option.map_eq_some_iff] at h
  obtain ⟨⟨row, column⟩, hposition, rfl⟩ := h
  obtain ⟨hcell, -⟩ := CodeTable.char?_of_position? hposition
  by_cases hminus : c.toNat = 0x2212
  · rw [if_pos hminus] at hcell
    rw [heq '\u2212' hminus]
    exact reads_cellBytes hcell
  · rw [if_neg hminus] at hcell
    rw [fold_of_ne hyen hoverline hminus]
    exact reads_cellBytes hcell

end ShiftJis

/-! ## GB 18030 -/

namespace Gb18030

/-- A cell of the table whose code a private-use character had before another character took it over. -/
structure Succession where
  former : Char
  row : Nat
  column : Nat
  char : Char
  deriving DecidableEq, Repr

/-- All codes that were taken over. -/
def successions : List Succession := [
  ⟨'\uE78D', 37, 152, '\uFE10'⟩, ⟨'\uE78E', 37, 153, '\uFE12'⟩, ⟨'\uE78F', 37, 154, '\uFE11'⟩, ⟨'\uE790', 37, 155, '\uFE13'⟩,
  ⟨'\uE791', 37, 156, '\uFE14'⟩, ⟨'\uE792', 37, 157, '\uFE15'⟩, ⟨'\uE793', 37, 158, '\uFE16'⟩, ⟨'\uE794', 37, 171, '\uFE17'⟩,
  ⟨'\uE795', 37, 172, '\uFE18'⟩, ⟨'\uE796', 37, 178, '\uFE19'⟩, ⟨'\uE81E', 125, 25, '\u9FB4'⟩, ⟨'\uE826', 125, 33, '\u9FB5'⟩,
  ⟨'\uE82B', 125, 38, '\u9FB6'⟩, ⟨'\uE82C', 125, 39, '\u9FB7'⟩, ⟨'\uE832', 125, 45, '\u9FB8'⟩, ⟨'\uE843', 125, 62, '\u9FB9'⟩,
  ⟨'\uE854', 125, 79, '\u9FBA'⟩, ⟨'\uE864', 125, 95, '\u9FBB'⟩]

/-- What a character is read back as. A private-use character whose code was taken over is read back as the character that has the
code now. -/
def fold (c : Char) : Char :=
  match successions.find? fun succession => succession.former = c with
  | some succession => succession.char
  | none => c

theorem formerCodes_eq :
    formerCodes = successions.map fun succession => (succession.former.toNat, cellBytes succession.row succession.column) :=
  rfl

theorem fold_former : ∀ succession ∈ successions, fold succession.former = succession.char := by
  decide

theorem fold_of_ne {c : Char} (h : ∀ succession ∈ successions, succession.former ≠ c) : fold c = c := by
  have hnone : successions.find? (fun succession => succession.former = c) = none := by
    rw [List.find?_eq_none]
    intro succession hmem
    simpa using h succession hmem
  rw [fold, hnone]

/-- Is the character none of those whose codes were taken over? -/
def isKept (c : Char) : Bool :=
  c.toNat < 0xE78D || 0xE864 < c.toNat || successions.all fun succession => succession.former ≠ c

theorem fold_of_isKept {c : Char} (h : isKept c = true) : fold c = c := by
  have hrange : ∀ succession ∈ successions, 0xE78D ≤ succession.former.toNat ∧ succession.former.toNat ≤ 0xE864 := by decide
  refine fold_of_ne ?_
  rintro succession hmem rfl
  obtain ⟨hlow, hhigh⟩ := hrange succession hmem
  simp only [isKept, Bool.or_eq_true, decide_eq_true_eq, List.all_eq_true] at h
  rcases h with (h | h) | h
  · omega
  · omega
  · exact h succession hmem rfl

/-- Has the row no more columns than there are trail bytes, and no character whose code was taken over? -/
def isRow (chars : List Char) : Bool :=
  chars.length ≤ 190 && chars.all isKept

theorem fold_of_ascii {c : Char} (h : c.toNat < 0x80) : fold c = c := by
  refine fold_of_isKept ?_
  rw [isKept, decide_eq_true (show c.toNat < 0xE78D by omega), Bool.true_or, Bool.true_or]

-- As for Shift_JIS, the rows are unfolded by their literals.
set_option maxRecDepth 5000 in
theorem isRow_toList : ∀ text ∈ rows, isRow text.toList = true := by
  simp only [rows, List.mem_toArray, List.mem_cons, forall_eq_or_imp, List.not_mem_nil, false_implies, implies_true, and_true]
  and_intros
  all_goals
    apply toList_of_eq (P := fun chars => isRow chars = true)
    · with_reducible rfl
    · decide +kernel

/-- A character stands in one of the rows, in a column that has a trail byte, and no other character had its code. -/
theorem lt_of_char?_table {row column : Nat} {c : Char} (h : table.char? row column = some c) :
    row < 126 ∧ column < 190 ∧ isKept c = true := by
  have hrows : ∀ text ∈ rows, text.toList.length ≤ 190 ∧ ∀ c ∈ text.toList, isKept c = true := by
    intro text htext
    have hrow := isRow_toList text htext
    simpa only [isRow, Bool.and_eq_true, decide_eq_true_eq, List.all_eq_true] using hrow
  obtain ⟨hrow, hcolumn⟩ := CodeTable.lt_of_char?_ofRows (fun text htext => (hrows text htext).1) h
  obtain ⟨text, htext, hcell, -⟩ := CodeTable.char?_ofRows_eq_some_iff.1 h
  exact ⟨hrow, hcolumn, (hrows text (Array.mem_of_getElem? htext)).2 c (List.mem_of_getElem? hcell)⟩

/-- A lead byte waits for another byte. -/
theorem start_lead {lead : UInt8} (hlow : 0x81 ≤ lead.toNat) (hhigh : lead.toNat ≤ 0xFE) : start lead = ([], .one lead) := by
  simp only [start, isLead, UInt8.lt_iff_toNat_lt, UInt8.le_iff_toNat_le, ← UInt8.toNat_inj, UInt8.reduceToNat, Bool.and_eq_true,
    decide_eq_true_eq]
  rw [if_neg (by omega), if_neg (by omega), if_pos ⟨hlow, hhigh⟩]

theorem isLead_of_le {b : UInt8} (hlow : 0x81 ≤ b.toNat) (hhigh : b.toNat ≤ 0xFE) : isLead b = true := by
  simp only [isLead, UInt8.le_iff_toNat_le, UInt8.reduceToNat, Bool.and_eq_true, decide_eq_true_eq]
  exact ⟨hlow, hhigh⟩

theorem isDigit_eq (b : UInt8) : isDigit b = (decide (0x30 ≤ b.toNat) && decide (b.toNat ≤ 0x39)) := by
  simp only [isDigit, UInt8.le_iff_toNat_le, UInt8.reduceToNat]

/-- The trail byte of a column tells the column. -/
theorem columnOf?_trail {column : Nat} (hcolumn : column < 190) {trail : UInt8}
    (htrail : trail.toNat = if column < 63 then 0x40 + column else 0x41 + column) : columnOf? trail = some column := by
  simp only [columnOf?, UInt8.le_iff_toNat_le, UInt8.reduceToNat]
  split at htrail
  · rw [if_pos (by omega)]
    congr 1
    omega
  · rw [if_neg (by omega), if_pos (by omega)]
    congr 1
    omega

/-- The bytes of a cell are read as its character. -/
theorem reads_cellBytes {row column : Nat} {c : Char} (h : table.char? row column = some c) : decoder.Reads (cellBytes row column) c := by
  obtain ⟨hrow, hcolumn, -⟩ := lt_of_char?_table h
  have hlead : (UInt8.ofNat (0x81 + row)).toNat = 0x81 + row := toNat_ofNat_of_lt_size (by omega)
  have htrail : (UInt8.ofNat (if column < 63 then 0x40 + column else 0x41 + column)).toNat =
      if column < 63 then 0x40 + column else 0x41 + column := toNat_ofNat_of_lt_size (by split <;> omega)
  have hdigit : ¬ isDigit (UInt8.ofNat (if column < 63 then 0x40 + column else 0x41 + column)) = true := by
    rw [isDigit_eq, Bool.and_eq_true, decide_eq_true_eq, decide_eq_true_eq, htrail]
    split <;> omega
  show feed step .idle (cellBytes row column) = ([c], .idle)
  simp only [cellBytes, feed_cons, feed_nil, step, @start_lead (UInt8.ofNat (0x81 + row)) (by omega) (by omega), second,
    if_neg hdigit, pair?, columnOf?_trail hcolumn htrail, hlead, Nat.add_sub_cancel_left, Option.bind_eq_bind, Option.bind_some, h,
    List.append_nil, List.nil_append]

set_option maxRecDepth 5000 in
/-- The characters that took codes over stand in their cells. -/
theorem char?_of_mem_successions : ∀ succession ∈ successions, table.char? succession.row succession.column = some succession.char := by
  simp only [successions, List.mem_cons, forall_eq_or_imp, List.not_mem_nil, false_implies, implies_true, and_true]
  and_intros
  all_goals
    apply CodeTable.char?_ofRows_of_eq
    · simp only [rows, List.getElem?_toArray, List.getElem?_cons_succ, List.getElem?_cons_zero]
      rfl
    · with_reducible rfl
    · rfl
    · decide

/-- A former code is read as the character that took it over. -/
theorem reads_former {c : Char} {bytes : List UInt8} (h : formerCodes.lookup c.toNat = some bytes) :
    decoder.Reads bytes (fold c) := by
  have hmem : (c.toNat, bytes) ∈ formerCodes := by
    obtain ⟨front, rest, heq, -⟩ := List.lookup_eq_some_iff.1 h
    rw [heq]
    simp
  rw [formerCodes_eq, List.mem_map] at hmem
  obtain ⟨succession, hsuccession, heq⟩ := hmem
  obtain ⟨hformer, rfl⟩ := Prod.mk.inj heq
  rw [← Char.toNat_inj.1 hformer, fold_former succession hsuccession]
  exact reads_cellBytes (char?_of_mem_successions succession hsuccession)

theorem fold_of_lookup_eq_none {c : Char} (h : formerCodes.lookup c.toNat = none) : fold c = c := by
  have hcodes : ∀ succession ∈ successions, formerCodes.lookup succession.former.toNat ≠ none := by decide
  refine fold_of_ne ?_
  rintro succession hmem rfl
  exact hcodes succession hmem h

/-! ### Four bytes -/

/-- The numbers that four bytes can spell. -/
def numbersEnd : Nat := 126 * 12600

/-- Four bytes are read as the character with the number that they spell. -/
theorem reads_numberBytes {number : Nat} {c : Char} (hlt : number < numbersEnd) (h : numbered? number = some c) :
    decoder.Reads (numberBytes number) c := by
  rw [numbersEnd] at hlt
  have hfirst : (UInt8.ofNat (0x81 + number / 12600)).toNat = 0x81 + number / 12600 := toNat_ofNat_of_lt_size (by omega)
  have hsecond : (UInt8.ofNat (0x30 + number / 1260 % 10)).toNat = 0x30 + number / 1260 % 10 := toNat_ofNat_of_lt_size (by omega)
  have hthird : (UInt8.ofNat (0x81 + number / 10 % 126)).toNat = 0x81 + number / 10 % 126 := toNat_ofNat_of_lt_size (by omega)
  have hfourth : (UInt8.ofNat (0x30 + number % 10)).toNat = 0x30 + number % 10 := toNat_ofNat_of_lt_size (by omega)
  have hstart := @start_lead (UInt8.ofNat (0x81 + number / 12600)) (by omega) (by omega)
  have hlead : isLead (UInt8.ofNat (0x81 + number / 10 % 126)) = true := isLead_of_le (by omega) (by omega)
  have hdigit : isDigit (UInt8.ofNat (0x30 + number / 1260 % 10)) = true := by
    rw [isDigit_eq, Bool.and_eq_true, decide_eq_true_eq, decide_eq_true_eq]
    omega
  have hlast : isDigit (UInt8.ofNat (0x30 + number % 10)) = true := by
    rw [isDigit_eq, Bool.and_eq_true, decide_eq_true_eq, decide_eq_true_eq]
    omega
  have hnumber : numberOf (UInt8.ofNat (0x81 + number / 12600)) (UInt8.ofNat (0x30 + number / 1260 % 10))
      (UInt8.ofNat (0x81 + number / 10 % 126)) (UInt8.ofNat (0x30 + number % 10)) = number := by
    rw [numberOf, hfirst, hsecond, hthird, hfourth]
    omega
  show feed step .idle (numberBytes number) = ([c], .idle)
  simp only [numberBytes, feed_cons, feed_nil, step, hstart, second, if_pos hdigit, if_pos hlead, if_pos hlast, hnumber, h,
    Option.getD_some, List.append_nil, List.nil_append]

/-- The runs are numbered one after another. -/
theorem pairwise_runs : runs.Pairwise fun before after => before.1 + before.2.2 ≤ after.1 := by
  decide +kernel

/-- The runs end in front of the characters past the basic plane. -/
theorem end_le_of_mem_runs : ∀ run ∈ runs, run.1 + run.2.2 ≤ supplementary := by
  decide +kernel

/-- A number in a run is the number of a character of the run. -/
theorem numbered?_of_mem_runs {first codePoint count number : Nat} (hmem : (first, codePoint, count) ∈ runs) (hfirst : first ≤ number)
    (hlast : number < first + count) : numbered? number = some (Char.ofNat (codePoint + (number - first))) := by
  have hsupplementary : ¬ supplementary ≤ number := by
    have hle := end_le_of_mem_runs _ hmem
    dsimp only at hle
    omega
  obtain ⟨front, rest, hruns⟩ := List.append_of_mem hmem
  have hfront : ∀ run ∈ front, run.1 + run.2.2 ≤ first := by
    have hpairwise := pairwise_runs
    rw [hruns, List.pairwise_append] at hpairwise
    exact fun run hrun => hpairwise.2.2 run hrun _ (List.mem_cons_self ..)
  rw [numbered?, if_neg hsupplementary, List.findSome?_eq_some_iff]
  refine ⟨front, (first, codePoint, count), rest, hruns, if_pos ⟨hfirst, hlast⟩, ?_⟩
  rintro ⟨_, _, _⟩ hrun
  have hle := hfront _ hrun
  dsimp only at hle ⊢
  rw [if_neg (by omega)]

/-- The number of a character is that of no other. -/
theorem numbered?_of_number? {c : Char} {number : Nat} (h : number? c.toNat = some number) :
    number < numbersEnd ∧ numbered? number = some c := by
  have hchar := Char.ofNat_toNat c
  have hvalid : c.toNat < 0x110000 := by
    have hvalid : c.toNat < 0xD800 ∨ 0xDFFF < c.toNat ∧ c.toNat < 0x110000 := c.valid
    omega
  rw [number?] at h
  split at h
  next hplane =>
    rw [Option.some.injEq] at h
    subst h
    have hsum : 0x10000 + (supplementary + (c.toNat - 0x10000) - supplementary) = c.toNat := by omega
    rw [numbered?, if_pos (Nat.le_add_right ..), if_pos (by omega), hsum, hchar]
    refine ⟨?_, rfl⟩
    rw [numbersEnd, supplementary]
    omega
  next hplane =>
    obtain ⟨⟨first, codePoint, count⟩, hmem, hrun⟩ := List.exists_of_findSome?_eq_some h
    dsimp only at hrun
    split at hrun
    next hwithin =>
      rw [Option.some.injEq] at hrun
      subst hrun
      have hsum : codePoint + (first + (c.toNat - codePoint) - first) = c.toNat := by omega
      have hnumbered := numbered?_of_mem_runs hmem (Nat.le_add_right first (c.toNat - codePoint)) (by omega)
      rw [hsum, hchar] at hnumbered
      refine ⟨?_, hnumbered⟩
      have hle := end_le_of_mem_runs _ hmem
      simp only [supplementary, numbersEnd] at hle ⊢
      omega
    next => nomatch hrun

/-- What can be written is read back, except for the private-use characters whose codes were taken over. -/
theorem reads_of_encodeChar? {c : Char} {bytes : List UInt8} (h : encodeChar? c = some bytes) : decoder.Reads bytes (fold c) := by
  unfold encodeChar? at h
  dsimp only at h
  by_cases hascii : c.toNat < 0x80
  · have hnat : (UInt8.ofNat c.toNat).toNat = c.toNat := toNat_ofNat_of_lt_size (by omega)
    rw [if_pos hascii, Option.some.injEq] at h
    subst h
    rw [fold_of_ascii hascii]
    show feed step .idle _ = ([c], .idle)
    simp only [feed_cons, feed_nil, step, start, UInt8.lt_iff_toNat_lt, hnat, UInt8.reduceToNat, if_pos hascii, Char.ofNat_toNat,
      List.append_nil]
  rw [if_neg hascii] at h
  cases hposition : table.position? (fun _ => true) c with
  | some position =>
    obtain ⟨row, column⟩ := position
    obtain ⟨hcell, -⟩ := CodeTable.char?_of_position? hposition
    obtain ⟨-, -, hkept⟩ := lt_of_char?_table hcell
    rw [hposition, Option.some.injEq] at h
    subst h
    rw [fold_of_isKept hkept]
    exact reads_cellBytes hcell
  | none =>
    rw [hposition] at h
    dsimp only at h
    cases hlookup : formerCodes.lookup c.toNat with
    | some code =>
      rw [hlookup, Option.some.injEq] at h
      subst h
      exact reads_former hlookup
    | none =>
      rw [hlookup, Option.map_eq_some_iff] at h
      obtain ⟨number, hnumber, rfl⟩ := h
      obtain ⟨hlt, hnumbered⟩ := numbered?_of_number? hnumber
      rw [fold_of_lookup_eq_none hlookup]
      exact reads_numberBytes hlt hnumbered

end Gb18030

/-! ## Encodings -/

namespace Encoding

/-- What a character is read back as once it is written. -/
def fold : Encoding → Char → Char
  | .shiftJis, c => ShiftJis.fold c
  | .gbk, c => Gb18030.fold c
  | .utf8, c => c

/-- Has the encoding all characters of the text, so that none is written as a reference? -/
def Writes (encoding : Encoding) (text : List Char) : Prop :=
  ∀ c ∈ text, encoding.encodeChar? c ≠ none

/-- Every encoding has the ASCII characters. -/
theorem encodeChar?_of_ascii (encoding : Encoding) {c : Char} (h : c.toNat < 0x80) : encoding.encodeChar? c ≠ none := by
  cases encoding with
  | shiftJis =>
    rw [encodeChar?, ShiftJis.encodeChar?, if_pos (Nat.le_of_lt h)]
    exact Option.some_ne_none _
  | gbk =>
    rw [encodeChar?, Gb18030.encodeChar?, if_pos h]
    exact Option.some_ne_none _
  | utf8 => exact Option.some_ne_none _

/-- An ASCII character is read back as it is. -/
theorem fold_of_ascii (encoding : Encoding) {c : Char} (h : c.toNat < 0x80) : encoding.fold c = c := by
  cases encoding with
  | shiftJis => exact ShiftJis.fold_of_ne (by omega) (by omega) (by omega)
  | gbk => exact Gb18030.fold_of_ascii h
  | utf8 => rfl

/-- A character that the encoding has is read back, up to folding. -/
theorem reads_encodeChar {encoding : Encoding} {c : Char} (h : encoding.encodeChar? c ≠ none) :
    encoding.decoder.Reads (encoding.encodeChar c) (encoding.fold c) := by
  obtain ⟨bytes, hbytes⟩ := Option.ne_none_iff_exists'.1 h
  rw [encodeChar, hbytes, Option.getD_some]
  cases encoding with
  | shiftJis => exact ShiftJis.reads_of_encodeChar? hbytes
  | gbk => exact Gb18030.reads_of_encodeChar? hbytes
  | utf8 =>
    cases hbytes
    exact Utf8.reads_encodeChar c

/-- A text is read back, up to folding, unless its bytes look like a byte order mark to the reader. -/
theorem decodeChars_encodeChars {encoding : Encoding} {text : List Char} (h : encoding.Writes text)
    (hmark : encoding = .utf8 ∨ marked? (encoding.encodeChars text) = none) :
    encoding.decodeChars (encoding.encodeChars text) = text.map encoding.fold := by
  have hread : encoding.decoder.decode (encoding.encodeChars text) = text.map encoding.fold :=
    ByteDecoder.decode_flatMap (fun c hc => reads_encodeChar (h c hc)) (by cases encoding <;> rfl)
  cases encoding with
  | utf8 => exact hread
  | shiftJis =>
    have hnone := hmark.resolve_left (by decide)
    simp only [decodeChars, hnone]
    exact hread
  | gbk =>
    have hnone := hmark.resolve_left (by decide)
    simp only [decodeChars, hnone]
    exact hread

end Encoding

end SceneScript
