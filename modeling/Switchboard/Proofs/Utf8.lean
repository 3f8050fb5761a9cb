import Switchboard.Text.Utf8
import Mathlib.Data.List.Basic
import Mathlib.Data.String.Basic

/-! # Bytes that were read as text

A text that was read from bytes has these bytes and no others. So the text in a file says all there is in the file. And
the bytes of a text are read as that text. Texts and their bytes come in the same order (`utf8_lt_iff`). -/

namespace Switchboard.Text

/-! ### The bytes of a text, character by character -/

theorem toList_loop_eq (bytes : ByteArray) (i : Nat) (done : List UInt8) :
    ByteArray.toList.loop bytes i done = done.reverse ++ bytes.data.toList.drop i := by
  fun_induction ByteArray.toList.loop bytes i done with
  | case1 i done h ih =>
    have hi : i < bytes.data.toList.length := by simpa using h
    rw [ih, List.drop_eq_getElem_cons hi]
    simp [ByteArray.get!, h]
  | case2 i done h =>
    have hi : bytes.data.toList.length ≤ i := by simpa using h
    rw [List.drop_eq_nil_of_le hi, List.append_nil]

theorem utf8_ofList (cs : List Char) : utf8 (String.ofList cs) = cs.flatMap String.utf8EncodeChar := by
  have bytes : (String.ofList cs).toUTF8.data = (cs.flatMap String.utf8EncodeChar).toArray := by
    rw [String.toUTF8, String.toByteArray_ofList, List.utf8Encode, List.data_toByteArray]
  rw [utf8, ByteArray.toList, toList_loop_eq, bytes]
  rfl

theorem utf8_append (s t : String) : utf8 (s ++ t) = utf8 s ++ utf8 t := by
  have bytes (s : String) : utf8 s = s.toList.flatMap String.utf8EncodeChar := by
    rw [← utf8_ofList, String.ofList_toList]
  rw [bytes, bytes, bytes, String.toList_append, List.flatMap_append]

/-! ### The bytes of a character that was read -/

theorem toNat_val_ofNat {n : Nat} (h : n.isValidChar) : (Char.ofNat n).val.toNat = n := by
  rw [Char.ofNat, dif_pos h]
  rfl

/-- What can follow a first byte keeps characters from being longer than they need be, and in the range that
characters have. -/
theorem continuationRange?_cases {b low high : UInt8} {count : Nat}
    (h : continuationRange? b = some (low, high, count)) :
    (count = 1 ∧ 0xC2 ≤ b.toNat ∧ b.toNat ≤ 0xDF ∧ 0x80 ≤ low.toNat ∧ high.toNat ≤ 0xBF) ∨
    (count = 2 ∧ 0xE0 ≤ b.toNat ∧ b.toNat ≤ 0xEF ∧ 0x80 ≤ low.toNat ∧ high.toNat ≤ 0xBF ∧
      (b.toNat = 0xE0 → 0xA0 ≤ low.toNat) ∧ (b.toNat = 0xED → high.toNat ≤ 0x9F)) ∨
    (count = 3 ∧ 0xF0 ≤ b.toNat ∧ b.toNat ≤ 0xF4 ∧ 0x80 ≤ low.toNat ∧ high.toNat ≤ 0xBF ∧
      (b.toNat = 0xF0 → 0x90 ≤ low.toNat) ∧ (b.toNat = 0xF4 → high.toNat ≤ 0x8F)) := by
  unfold continuationRange? at h
  simp only [Bool.and_eq_true, decide_eq_true_eq, beq_iff_eq, UInt8.le_iff_toNat_le, ← UInt8.toNat_inj] at h
  split_ifs at h <;> simp only [Option.some.injEq, Prod.mk.injEq] at h <;> obtain ⟨rfl, rfl, rfl⟩ := h <;>
    simp_all <;> omega

theorem toNat_of_inRange {b low high : UInt8} (h : ¬(!(decide (low ≤ b) && decide (b ≤ high))) = true) :
    low.toNat ≤ b.toNat ∧ b.toNat ≤ high.toNat := by
  simpa [UInt8.le_iff_toNat_le] using h

theorem toNat_of_isContinuation {b : UInt8} (h : ¬(!isContinuation b) = true) : 0x80 ≤ b.toNat ∧ b.toNat ≤ 0xBF :=
  toNat_of_inRange h

theorem encode_one {b : UInt8} (hb : b.toNat < 0x80) : String.utf8EncodeChar (Char.ofNat b.toNat) = [b] := by
  have value : (Char.ofNat b.toNat).val.toNat = b.toNat := toNat_val_ofNat (by simp [Nat.isValidChar]; omega)
  rw [String.utf8EncodeChar.eq_1, value, if_pos (by omega), UInt8.ofNat_toNat]

theorem encode_two {b c : UInt8} (hb : 0xC2 ≤ b.toNat) (hb' : b.toNat ≤ 0xDF) (hc : 0x80 ≤ c.toNat)
    (hc' : c.toNat ≤ 0xBF) :
    String.utf8EncodeChar (Char.ofNat (b.toNat % 32 * 64 + payload c)) = [b, c] := by
  have value : (Char.ofNat (b.toNat % 32 * 64 + payload c)).val.toNat = (b.toNat - 192) * 64 + (c.toNat - 128) := by
    rw [toNat_val_ofNat (by simp only [Nat.isValidChar, payload]; omega), payload]
    omega
  rw [String.utf8EncodeChar.eq_1, value, if_neg (by omega), if_pos (by omega)]
  simp only [List.cons.injEq, and_true, ← UInt8.toNat_inj, UInt8.toNat_ofNat']
  omega

theorem encode_three {b c d : UInt8} (hb : 0xE0 ≤ b.toNat) (hb' : b.toNat ≤ 0xEF) (hc : 0x80 ≤ c.toNat)
    (hc' : c.toNat ≤ 0xBF) (least : b.toNat = 0xE0 → 0xA0 ≤ c.toNat) (surrogate : b.toNat = 0xED → c.toNat ≤ 0x9F)
    (hd : 0x80 ≤ d.toNat) (hd' : d.toNat ≤ 0xBF) :
    String.utf8EncodeChar (Char.ofNat ((b.toNat % 16 * 64 + payload c) * 64 + payload d)) = [b, c, d] := by
  have value : (Char.ofNat ((b.toNat % 16 * 64 + payload c) * 64 + payload d)).val.toNat =
      (b.toNat - 224) * 4096 + (c.toNat - 128) * 64 + (d.toNat - 128) := by
    rw [toNat_val_ofNat (by simp only [Nat.isValidChar, payload]; omega)]
    simp only [payload]
    omega
  rw [String.utf8EncodeChar.eq_1, value, if_neg (by omega), if_neg (by omega), if_pos (by omega)]
  simp only [List.cons.injEq, and_true, ← UInt8.toNat_inj, UInt8.toNat_ofNat']
  omega

theorem encode_four {b c d e : UInt8} (hb : 0xF0 ≤ b.toNat) (hb' : b.toNat ≤ 0xF4) (hc : 0x80 ≤ c.toNat)
    (hc' : c.toNat ≤ 0xBF) (least : b.toNat = 0xF0 → 0x90 ≤ c.toNat) (greatest : b.toNat = 0xF4 → c.toNat ≤ 0x8F)
    (hd : 0x80 ≤ d.toNat) (hd' : d.toNat ≤ 0xBF) (he : 0x80 ≤ e.toNat) (he' : e.toNat ≤ 0xBF) :
    String.utf8EncodeChar
      (Char.ofNat (((b.toNat % 8 * 64 + payload c) * 64 + payload d) * 64 + payload e)) = [b, c, d, e] := by
  have value : (Char.ofNat (((b.toNat % 8 * 64 + payload c) * 64 + payload d) * 64 + payload e)).val.toNat =
      (b.toNat - 240) * 262144 + (c.toNat - 128) * 4096 + (d.toNat - 128) * 64 + (e.toNat - 128) := by
    rw [toNat_val_ofNat (by simp only [Nat.isValidChar, payload]; omega)]
    simp only [payload]
    omega
  rw [String.utf8EncodeChar.eq_1, value, if_neg (by omega), if_neg (by omega), if_neg (by omega)]
  simp only [List.cons.injEq, and_true, ← UInt8.toNat_inj, UInt8.toNat_ofNat']
  omega

/-- A step that is a character takes the bytes of the character. -/
theorem encode_utf8Step {b : UInt8} {rest : List UInt8} {c : Char} {size : Nat}
    (h : utf8Step b rest = .character c size) : String.utf8EncodeChar c ++ rest.drop (size - 1) = b :: rest := by
  revert h
  -- Only four of the ways through a step end at a character, one for each number of bytes.
  fun_cases utf8Step b rest with
  | case1 =>
    rintro ⟨⟩
    rename_i hb
    rw [encode_one (UInt8.lt_iff_toNat_lt.mp hb)]
    rfl
  | case5 =>
    rintro ⟨⟩
    rename_i hc hrange
    have hc := toNat_of_inRange hc
    rcases continuationRange?_cases hrange with ⟨-, hb, hb', hlow, hhigh⟩ | ⟨⟨⟩, -⟩ | ⟨⟨⟩, -⟩
    rw [encode_two hb hb' (by omega) (by omega)]
    rfl
  | case8 =>
    rintro ⟨⟩
    rename_i hc d _ hd hrange _
    have hc := toNat_of_inRange hc
    have hd := toNat_of_isContinuation hd
    rcases continuationRange?_cases hrange with ⟨⟨⟩, -⟩ | ⟨-, hb, hb', hlow, hhigh, least, greatest⟩ | ⟨⟨⟩, -⟩
    rw [encode_three hb hb' (by omega) (by omega) (by omega) (by omega) hd.1 hd.2]
    rfl
  | case11 =>
    rintro ⟨⟩
    rename_i hrange _ hc hone _ hd htwo _ _ he
    have hc := toNat_of_inRange hc
    have hd := toNat_of_isContinuation hd
    have he := toNat_of_isContinuation he
    rcases continuationRange?_cases hrange with
      ⟨hcount, -⟩ | ⟨hcount, -⟩ | ⟨-, hb, hb', hlow, hhigh, least, greatest⟩
    · exact absurd hcount hone
    · exact absurd hcount htwo
    · rw [encode_four hb hb' (by omega) (by omega) (by omega) (by omega) hd.1 hd.2 he.1 he.2]
      rfl
  | _ => nofun

theorem flatMap_decodeUtf8With {before : Nat} {bytes : List UInt8} {cs : List Char}
    (h : decodeUtf8With none before bytes = .ok cs) : cs.flatMap String.utf8EncodeChar = bytes := by
  fun_induction decodeUtf8With none before bytes generalizing cs with
  | case1 => cases h; rfl
  | case2 before b rest c size hstep ih =>
    cases hrest : decodeUtf8With none (before + size) (rest.drop (size - 1)) with
    | error e =>
      rw [hrest] at h
      nomatch h
    | ok tail =>
      rw [hrest] at h
      cases h
      rw [List.flatMap_cons, ih hrest, encode_utf8Step hstep]
  | case3 =>
    rename_i hnone _
    nomatch hnone
  | case4 => nomatch h

/-- A text that was read from bytes has these bytes. -/
theorem utf8_of_decodeUtf8? {bytes : List UInt8} {text : String} (h : decodeUtf8? bytes = some text) :
    utf8 text = bytes := by
  unfold decodeUtf8? decodeUtf8 at h
  cases hcs : decodeUtf8With none 0 bytes with
  | error e =>
    rw [hcs] at h
    nomatch h
  | ok cs =>
    rw [hcs] at h
    cases h
    rw [utf8_ofList, flatMap_decodeUtf8With hcs]

/-! ### The text of encoded characters -/

theorem utf8Step_one {b : UInt8} (hb : b.toNat < 0x80) (rest : List UInt8) :
    utf8Step b rest = .character (Char.ofNat b.toNat) 1 := by
  rw [utf8Step, if_pos (UInt8.lt_iff_toNat_lt.mpr hb)]

theorem not_lt_of_le_toNat {b : UInt8} {n : Nat} (hb : 0x80 ≤ n) (h : n ≤ b.toNat) : ¬b < 0x80 := by
  rw [UInt8.lt_iff_toNat_lt]
  have : (0x80 : UInt8).toNat = 128 := rfl
  omega

theorem inRange_iff {low high b : UInt8} :
    (decide (low ≤ b) && decide (b ≤ high)) = true ↔ low.toNat ≤ b.toNat ∧ b.toNat ≤ high.toNat := by
  simp [UInt8.le_iff_toNat_le]

theorem continuationRange?_two {b : UInt8} (hb : 0xC2 ≤ b.toNat) (hb' : b.toNat ≤ 0xDF) :
    continuationRange? b = some (0x80, 0xBF, 1) := by
  have htwo : (0xC2 ≤ b && b ≤ 0xDF) = true := inRange_iff.mpr ⟨hb, hb'⟩
  rw [continuationRange?, if_pos htwo]

/-- The second byte of a character of three is in the range of the first. -/
theorem exists_range_three {b c : UInt8} (hb : 0xE0 ≤ b.toNat) (hb' : b.toNat ≤ 0xEF) (hc : 0x80 ≤ c.toNat)
    (hc' : c.toNat ≤ 0xBF) (least : b.toNat = 0xE0 → 0xA0 ≤ c.toNat) (surrogate : b.toNat = 0xED → c.toNat ≤ 0x9F) :
    ∃ low high, continuationRange? b = some (low, high, 2) ∧ (low ≤ c && c ≤ high) = true := by
  by_cases hleast : b = 0xE0
  · subst hleast
    exact ⟨0xA0, 0xBF, rfl, inRange_iff.mpr ⟨least rfl, hc'⟩⟩
  by_cases hsurrogate : b = 0xED
  · subst hsurrogate
    exact ⟨0x80, 0x9F, rfl, inRange_iff.mpr ⟨hc, surrogate rfl⟩⟩
  refine ⟨0x80, 0xBF, ?_, inRange_iff.mpr ⟨hc, hc'⟩⟩
  have htwo : ¬(0xC2 ≤ b && b ≤ 0xDF) = true := fun h => absurd (inRange_iff.mp h).2 (Nat.not_le.mpr hb)
  have hne : b.toNat ≠ 0xE0 := fun h => hleast (UInt8.toNat_inj.mp h)
  have hthree : (0xE1 ≤ b && b ≤ 0xEF) = true := inRange_iff.mpr ⟨Nat.lt_of_le_of_ne hb hne.symm, hb'⟩
  rw [continuationRange?, if_neg htwo, if_neg (by simpa using hleast), if_neg (by simpa using hsurrogate), if_pos hthree]

theorem exists_range_four {b c : UInt8} (hb : 0xF0 ≤ b.toNat) (hb' : b.toNat ≤ 0xF4) (hc : 0x80 ≤ c.toNat)
    (hc' : c.toNat ≤ 0xBF) (least : b.toNat = 0xF0 → 0x90 ≤ c.toNat) (greatest : b.toNat = 0xF4 → c.toNat ≤ 0x8F) :
    ∃ low high, continuationRange? b = some (low, high, 3) ∧ (low ≤ c && c ≤ high) = true := by
  by_cases hleast : b = 0xF0
  · subst hleast
    exact ⟨0x90, 0xBF, rfl, inRange_iff.mpr ⟨least rfl, hc'⟩⟩
  by_cases hgreatest : b = 0xF4
  · subst hgreatest
    exact ⟨0x80, 0x8F, rfl, inRange_iff.mpr ⟨hc, greatest rfl⟩⟩
  refine ⟨0x80, 0xBF, ?_, inRange_iff.mpr ⟨hc, hc'⟩⟩
  have hlow : b.toNat ≠ 0xF0 := fun h => hleast (UInt8.toNat_inj.mp h)
  have hhigh : b.toNat ≠ 0xF4 := fun h => hgreatest (UInt8.toNat_inj.mp h)
  have hfour : (0xF1 ≤ b && b ≤ 0xF3) = true := inRange_iff.mpr (show 0xF1 ≤ b.toNat ∧ b.toNat ≤ 0xF3 by omega)
  have fewer {low high : UInt8} (h : high.toNat < 0xF0) : ¬(low ≤ b && b ≤ high) = true := by
    rw [inRange_iff]
    omega
  have other {n : UInt8} (h : n.toNat < 0xF0) : ¬(b == n) = true := by
    rw [beq_iff_eq]
    rintro rfl
    omega
  rw [continuationRange?, if_neg (fewer (by decide)), if_neg (other (by decide)), if_neg (other (by decide)),
    if_neg (fewer (by decide)), if_neg (by simpa using hleast), if_pos hfour]

theorem isContinuation_of_toNat {b : UInt8} (h : 0x80 ≤ b.toNat) (h' : b.toNat ≤ 0xBF) : isContinuation b = true :=
  inRange_iff.mpr ⟨h, h'⟩

theorem utf8Step_two {b c : UInt8} (hb : 0xC2 ≤ b.toNat) (hb' : b.toNat ≤ 0xDF) (hc : 0x80 ≤ c.toNat)
    (hc' : c.toNat ≤ 0xBF) (rest : List UInt8) :
    utf8Step b (c :: rest) = .character (Char.ofNat (b.toNat % 32 * 64 + payload c)) 2 := by
  have hrange : (0x80 ≤ c && c ≤ 0xBF) = true := isContinuation_of_toNat hc hc'
  rw [utf8Step, if_neg (not_lt_of_le_toNat (by omega) hb), continuationRange?_two hb hb']
  simp only [hrange]
  rfl

theorem utf8Step_three {b c d : UInt8} (hb : 0xE0 ≤ b.toNat) (hb' : b.toNat ≤ 0xEF) (hc : 0x80 ≤ c.toNat)
    (hc' : c.toNat ≤ 0xBF) (least : b.toNat = 0xE0 → 0xA0 ≤ c.toNat) (surrogate : b.toNat = 0xED → c.toNat ≤ 0x9F)
    (hd : 0x80 ≤ d.toNat) (hd' : d.toNat ≤ 0xBF) (rest : List UInt8) :
    utf8Step b (c :: d :: rest) =
      .character (Char.ofNat ((b.toNat % 16 * 64 + payload c) * 64 + payload d)) 3 := by
  obtain ⟨low, high, hrange, hc⟩ := exists_range_three hb hb' hc hc' least surrogate
  rw [utf8Step, if_neg (not_lt_of_le_toNat (by omega) hb), hrange]
  simp only [hc, isContinuation_of_toNat hd hd']
  rfl

theorem utf8Step_four {b c d e : UInt8} (hb : 0xF0 ≤ b.toNat) (hb' : b.toNat ≤ 0xF4) (hc : 0x80 ≤ c.toNat)
    (hc' : c.toNat ≤ 0xBF) (least : b.toNat = 0xF0 → 0x90 ≤ c.toNat) (greatest : b.toNat = 0xF4 → c.toNat ≤ 0x8F)
    (hd : 0x80 ≤ d.toNat) (hd' : d.toNat ≤ 0xBF) (he : 0x80 ≤ e.toNat) (he' : e.toNat ≤ 0xBF) (rest : List UInt8) :
    utf8Step b (c :: d :: e :: rest) =
      .character (Char.ofNat (((b.toNat % 8 * 64 + payload c) * 64 + payload d) * 64 + payload e)) 4 := by
  obtain ⟨low, high, hrange, hc⟩ := exists_range_four hb hb' hc hc' least greatest
  rw [utf8Step, if_neg (not_lt_of_le_toNat (by omega) hb), hrange]
  simp only [hc, isContinuation_of_toNat hd hd', isContinuation_of_toNat he he']
  rfl

/-- The bytes of a character are one step, whatever follows them. -/
theorem utf8Step_encode (c : Char) (rest : List UInt8) : ∃ b bytes, String.utf8EncodeChar c = b :: bytes ∧
    utf8Step b (bytes ++ rest) = .character c (bytes.length + 1) := by
  have hvalid : c.val.toNat < 0xD800 ∨ 0xDFFF < c.val.toNat ∧ c.val.toNat < 0x110000 := c.valid
  have hc (n : Nat) (h : n = c.val.toNat) : Char.ofNat n = c := h ▸ Char.ofNat_toNat c
  rw [String.utf8EncodeChar.eq_1]
  generalize c.val.toNat = v at hvalid hc
  split_ifs with h1 h2 h3
  · refine ⟨_, _, rfl, ?_⟩
    rw [utf8Step_one (by rw [UInt8.toNat_ofNat']; omega), hc _ (by rw [UInt8.toNat_ofNat']; omega)]
    rfl
  · refine ⟨_, _, rfl, ?_⟩
    rw [List.cons_append, utf8Step_two, hc]
    · rfl
    all_goals simp only [UInt8.toNat_ofNat', payload]; omega
  · refine ⟨_, _, rfl, ?_⟩
    rw [List.cons_append, List.cons_append, utf8Step_three, hc]
    · rfl
    all_goals simp only [UInt8.toNat_ofNat', payload]; omega
  · refine ⟨_, _, rfl, ?_⟩
    rw [List.cons_append, List.cons_append, List.cons_append, utf8Step_four, hc]
    · rfl
    all_goals simp only [UInt8.toNat_ofNat', payload]; omega

theorem decodeUtf8With_encode (replace : Option Char) (before : Nat) (cs : List Char) :
    decodeUtf8With replace before (cs.flatMap String.utf8EncodeChar) = .ok cs := by
  induction cs generalizing before with
  | nil => rw [List.flatMap_nil, decodeUtf8With]
  | cons c cs ih =>
    obtain ⟨b, bytes, hbytes, hstep⟩ := utf8Step_encode c (cs.flatMap String.utf8EncodeChar)
    rw [List.flatMap_cons, hbytes, List.cons_append, decodeUtf8With, hstep]
    simp only [Nat.add_sub_cancel, List.drop_left, ih]
    rfl

/-- The bytes of a text are read as the text. -/
theorem decodeUtf8_encode (cs : List Char) : decodeUtf8 (cs.flatMap String.utf8EncodeChar) = .ok (String.ofList cs) := by
  rw [decodeUtf8, decodeUtf8With_encode]
  rfl

theorem decodeUtf8?_utf8 (s : String) : decodeUtf8? (utf8 s) = some s := by
  have bytes : utf8 s = s.toList.flatMap String.utf8EncodeChar := by rw [← utf8_ofList, String.ofList_toList]
  rw [bytes, decodeUtf8?, decodeUtf8_encode, String.ofList_toList]
  rfl

theorem decodeUtf8?_eq_some_iff {bytes : List UInt8} {s : String} : decodeUtf8? bytes = some s ↔ utf8 s = bytes := by
  constructor
  · exact utf8_of_decodeUtf8?
  · rintro rfl
    exact decodeUtf8?_utf8 s

theorem utf8_injective {s t : String} (h : utf8 s = utf8 t) : s = t :=
  Option.some.inj ((decodeUtf8?_utf8 s).symm.trans (h ▸ decodeUtf8?_utf8 t))

/-! ### The order of texts and of their bytes -/

/-- The digits that the bytes of a character hold, from those before them. -/
theorem div_div_64 (n : Nat) : n / 4096 = n / 64 / 64 ∧ n / 262144 = n / 64 / 64 / 64 := by
  omega

/-- A lesser character has lesser bytes, whatever follows. -/
theorem encode_append_lt {c d : Char} (h : c < d) (rest rest' : List UInt8) :
    String.utf8EncodeChar c ++ rest < String.utf8EncodeChar d ++ rest' := by
  have hd : d.val.toNat < 0xD800 ∨ 0xDFFF < d.val.toNat ∧ d.val.toNat < 0x110000 := d.valid
  have hlt : c.val.toNat < d.val.toNat := h
  rw [String.utf8EncodeChar.eq_1, String.utf8EncodeChar.eq_1]
  generalize c.val.toNat = v at *
  generalize d.val.toNat = w at *
  rw [(div_div_64 v).1, (div_div_64 v).2, (div_div_64 w).1, (div_div_64 w).2]
  -- More bytes start with a greater one, and among as many the first digits that differ decide.
  split_ifs <;>
    simp only [List.cons_append, List.nil_append, List.cons_lt_cons_iff, UInt8.lt_iff_toNat_lt, ← UInt8.toNat_inj,
      UInt8.toNat_ofNat'] <;>
    omega

theorem utf8_lt {s t : String} (h : s < t) : utf8 s < utf8 t := by
  have hlist : s.toList < t.toList := String.lt_iff_toList_lt.mp h
  rw [← s.ofList_toList, ← t.ofList_toList, utf8_ofList, utf8_ofList]
  generalize s.toList = cs at hlist
  generalize t.toList = ds at hlist
  induction hlist with
  | @nil d ds =>
    obtain ⟨b, bytes, hbytes, -⟩ := utf8Step_encode d []
    rw [List.flatMap_nil, List.flatMap_cons, hbytes]
    exact List.nil_lt_cons _ _
  | cons _ ih => exact List.append_left_lt ih
  | rel hcd => exact encode_append_lt hcd _ _

/-- Texts are in the order of their bytes. -/
theorem utf8_lt_iff {s t : String} : utf8 s < utf8 t ↔ s < t := by
  refine ⟨fun h => ?_, utf8_lt⟩
  rcases lt_trichotomy s t with hst | rfl | hts
  · exact hst
  · exact absurd h (List.lt_irrefl _)
  · exact absurd (List.lt_trans h (utf8_lt hts)) (List.lt_irrefl _)

end Switchboard.Text
