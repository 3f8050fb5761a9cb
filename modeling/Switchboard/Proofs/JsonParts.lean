import Mathlib.Data.List.TakeWhile
import Switchboard.Json.Text
import Switchboard.Proofs.Utf8

/-! # Parts of JSON text that are read back

A reader that takes some bytes in front of a rest (`Takes`) does so wherever it stands, and two readers one behind the
other take the bytes of both. The strings and integers of JSON text are taken as what they are the text of. -/

namespace Switchboard.Json

open Reader

/-! ### Readers and the bytes they take -/

/-- In front of a rest, a reader takes the given bytes, wherever it stands, with a result. -/
def Takes {α : Type} (r : Reader α) (bytes rest : List UInt8) (a : α) : Prop :=
  ∀ place, ∃ place', r ⟨bytes ++ rest, place⟩ = .ok (a, ⟨rest, place'⟩)

section
variable {α β : Type} {r : Reader α} {f : α → Reader β} {a : α} {b : β} {bytes bytes' rest : List UInt8}

theorem Reader.bind_of_ok {c c' : ByteCursor} (h : r c = .ok (a, c')) : (r >>= f) c = f a c' := by
  change (r c >>= fun p => f p.1 p.2) = f a c'
  rw [h]
  rfl

theorem Takes.bind (h : Takes r bytes (bytes' ++ rest) a) (h' : Takes (f a) bytes' rest b) :
    Takes (r >>= f) (bytes ++ bytes') rest b := by
  intro place
  obtain ⟨place₁, hr⟩ := h place
  obtain ⟨place₂, hf⟩ := h' place₁
  exact ⟨place₂, by rw [List.append_assoc, Reader.bind_of_ok hr, hf]⟩

/-- What comes behind a reader may take nothing more. -/
theorem Takes.bind_nil (h : Takes r bytes rest a) (h' : Takes (f a) [] rest b) : Takes (r >>= f) bytes rest b := by
  have both : Takes (r >>= f) (bytes ++ []) rest b := Takes.bind h h'
  rwa [List.append_nil] at both

/-- What a reader has seen of the bytes ahead, without taking any, decides how it goes on. -/
theorem Takes.look (h : Takes r [] (bytes ++ rest) a) (h' : Takes (f a) bytes rest b) : Takes (r >>= f) bytes rest b :=
  h.bind h'

theorem Takes.map {g : α → β} (h : Takes r bytes rest a) : Takes (r >>= fun a => pure (g a)) bytes rest (g a) := by
  intro place
  obtain ⟨place', hr⟩ := h place
  exact ⟨place', by rw [Reader.bind_of_ok hr]; rfl⟩

theorem takes_pure (a : α) (rest : List UInt8) : Takes (pure a) [] rest a :=
  fun place => ⟨place, rfl⟩

theorem takes_ahead (see : List UInt8 → α) (rest : List UInt8) : Takes (fun c => .ok (see c.rest, c)) [] rest (see rest) :=
  fun place => ⟨place, rfl⟩

theorem takes_peek (rest : List UInt8) : Takes peek [] rest rest.head? :=
  takes_ahead List.head? rest

theorem takes_remaining (rest : List UInt8) : Takes remaining [] rest rest.length :=
  takes_ahead List.length rest

theorem ByteCursor.exists_skip (bytes rest : List UInt8) (place : BytePlace) :
    ∃ place', ByteCursor.skip ⟨bytes ++ rest, place⟩ bytes.length = ⟨rest, place'⟩ := by
  induction bytes generalizing place with
  | nil => exact ⟨place, rfl⟩
  | cons b bytes ih => exact ih (placeAfter place b)

theorem takes_skip (bytes rest : List UInt8) : Takes (skip bytes.length) bytes rest () := by
  intro place
  obtain ⟨place', hskip⟩ := ByteCursor.exists_skip bytes rest place
  exact ⟨place', by rw [skip, hskip]⟩

theorem takes_next (b : UInt8) (rest : List UInt8) : Takes next [b] rest (some b) :=
  (takes_peek (b :: rest)).look (takes_skip [b] rest).map

/-- A run of bytes ends in front of the first that fails the test. -/
theorem takes_peekWhile {p : UInt8 → Bool} (hbytes : ∀ b ∈ bytes, p b = true) (hrest : ∀ b ∈ rest.head?, p b = false) :
    Takes (peekWhile p) [] (bytes ++ rest) bytes := by
  have hrun : (bytes ++ rest).takeWhile p = bytes := by
    rw [List.takeWhile_append_of_pos hbytes]
    cases rest with
    | nil => simp
    | cons b rest => simp [hrest b rfl]
  have h := takes_ahead (List.takeWhile p) (bytes ++ rest)
  rwa [hrun] at h

/-- In front of anything but a blank, no blanks are gone past. -/
theorem takes_peekPastBlanks (h : ∀ b ∈ rest.head?, isBlankByte b = false) : Takes peekPastBlanks [] rest rest.head? := by
  have hblanks : Takes (peekWhile isBlankByte) [] ([] ++ rest) [] := takes_peekWhile nofun h
  exact hblanks.look ((takes_skip [] rest).look (takes_peek rest))

theorem takes_peekPastBlanks_cons {b : UInt8} (hb : isBlankByte b = false) (rest : List UInt8) :
    Takes peekPastBlanks [] (b :: rest) (some b) :=
  takes_peekPastBlanks (by simpa using hb)

theorem takes_word (word : List Char) (bytes rest : List UInt8) (h : bytes.map (·.toNat) = word.map (·.toNat)) :
    Takes (Reader.word word) bytes rest () := by
  induction word generalizing bytes with
  | nil =>
    obtain rfl : bytes = [] := List.map_eq_nil_iff.mp h
    exact takes_pure () rest
  | cons expected word ih =>
    cases bytes with
    | nil => cases h
    | cons b bytes =>
      obtain ⟨hb, hword⟩ := List.cons.inj h
      refine (takes_next b (bytes ++ rest)).bind ?_
      simp only [hb, ↓reduceIte]
      exact ih bytes hword

end

/-! ### Strings -/

/-- The bytes of some characters. -/
abbrev encode (cs : List Char) : List UInt8 :=
  cs.flatMap String.utf8EncodeChar

theorem encode_append (cs ds : List Char) : encode (cs ++ ds) = encode cs ++ encode ds :=
  List.flatMap_append

theorem takes_hexEscape {n : Nat} {b₁ b₂ b₃ b₄ : UInt8} (h : hexNumber? [b₁, b₂, b₃, b₄] = some n) (rest : List UInt8) :
    Takes hexEscape [b₁, b₂, b₃, b₄] rest n := by
  have hleft : ¬([b₁, b₂, b₃, b₄] ++ rest).length < 4 := by simp
  refine (takes_remaining ([b₁, b₂, b₃, b₄] ++ rest)).look ?_
  rw [if_neg hleft]
  refine (takes_ahead (List.take 4) ([b₁, b₂, b₃, b₄] ++ rest)).look ?_
  refine (takes_skip [b₁, b₂, b₃, b₄] rest).bind_nil ?_
  have htake : ([b₁, b₂, b₃, b₄] ++ rest).take 4 = [b₁, b₂, b₃, b₄] := rfl
  rw [htake, h]
  exact takes_pure n rest

/-- A control that has no letter of its own is escaped by its number. -/
theorem takes_controlEscape {c : Char} (hc : c.toNat < 0x20) (rest : List UInt8) :
    Takes escape (encode ['u', '0', '0', hexDigit (c.toNat / 16), hexDigit (c.toNat % 16)]) rest c := by
  let digit (n : Nat) : UInt8 := .ofNat (hexDigit n).toNat
  have hdigits : ∀ n < 0x20, encode ['u', '0', '0', hexDigit (n / 16), hexDigit (n % 16)] =
      [0x75, 0x30, 0x30, digit (n / 16), digit (n % 16)] ∧
      hexNumber? [0x30, 0x30, digit (n / 16), digit (n % 16)] = some n := by decide
  obtain ⟨hbytes, hnumber⟩ := hdigits c.toNat hc
  have hunit : isTrailingUnit c.toNat = false ∧ isLeadingUnit c.toNat = false := by
    simp only [isTrailingUnit, isLeadingUnit, Bool.and_eq_false_iff, decide_eq_false_iff_not]
    omega
  rw [hbytes]
  refine (takes_next 0x75 _).bind ?_
  refine (takes_hexEscape hnumber rest).bind_nil ?_
  simp only [hunit.1, hunit.2, Bool.false_eq_true, ↓reduceIte, Char.ofNat_toNat]
  exact takes_pure c rest

theorem endsRun_encode {c : Char} (hquote : c ≠ '"') (hslash : c ≠ '\\') (hcontrol : 0x20 ≤ c.toNat) :
    ∀ b ∈ String.utf8EncodeChar c, endsRun b = false := by
  have plain {b : UInt8} (h : 0x20 ≤ b.toNat) (h22 : b.toNat ≠ 0x22) (h5C : b.toNat ≠ 0x5C) : endsRun b = false := by
    simp only [endsRun, Bool.or_eq_false_iff, beq_eq_false_iff_ne, ne_eq, ← UInt8.toNat_inj, decide_eq_false_iff_not,
      UInt8.lt_iff_toNat_lt]
    exact ⟨⟨h22, h5C⟩, Nat.not_lt.mpr h⟩
  have hne (d : Char) (h : c ≠ d) : c.val.toNat ≠ d.val.toNat := fun e => h (Char.toNat_inj.mp e)
  have h22 : c.val.toNat ≠ 0x22 := hne '"' hquote
  have h5C : c.val.toNat ≠ 0x5C := hne '\\' hslash
  have h20 : 0x20 ≤ c.val.toNat := hcontrol
  intro b hb
  rw [String.utf8EncodeChar.eq_1] at hb
  split_ifs at hb <;> simp only [List.mem_cons, List.not_mem_nil, or_false] at hb
  · subst hb
    apply plain <;> rw [UInt8.toNat_ofNat'] <;> omega
  -- In a character of several bytes every byte is above all of ASCII.
  · rcases hb with rfl | rfl <;> apply plain <;> rw [UInt8.toNat_ofNat'] <;> omega
  · rcases hb with rfl | rfl | rfl <;> apply plain <;> rw [UInt8.toNat_ofNat'] <;> omega
  · rcases hb with rfl | rfl | rfl | rfl <;> apply plain <;> rw [UInt8.toNat_ofNat'] <;> omega

/-- A character of a string stands as itself, in bytes of a run, or is escaped. -/
theorem stringChar_cases (c : Char) : (stringChar c = [c] ∧ ∀ b ∈ String.utf8EncodeChar c, endsRun b = false) ∨
    ∃ cs, stringChar c = '\\' :: cs ∧ ∀ rest, Takes escape (encode cs) rest c := by
  unfold stringChar
  split
  case h_8 =>
    split
    · exact Or.inr ⟨_, rfl, takes_controlEscape ‹_›⟩
    · refine Or.inl ⟨rfl, endsRun_encode ‹_› ‹_› ?_⟩
      omega
  all_goals exact Or.inr ⟨_, rfl, fun rest place => ⟨_, rfl⟩⟩

theorem takes_plainRun (cs : List Char) (rest : List UInt8) : Takes (plainRun (encode cs)) (encode cs) rest cs := by
  simp only [plainRun, Text.decodeUtf8_encode, String.toList_ofList]
  exact (takes_skip (encode cs) rest).map

/-- In front of a byte that ends a run, the bytes of the run and that byte are seen. -/
theorem Takes.lookAtRun {α : Type} {f : List UInt8 → Option UInt8 → Reader α} {run : List UInt8} {b : UInt8}
    {bytes rest : List UInt8} {a : α} (hrun : ∀ b ∈ run, endsRun b = false) (hb : endsRun b = true)
    (h : Takes (f run (some b)) (run ++ b :: bytes) rest a) :
    Takes (do
      let seen ← peekWhile (!endsRun ·)
      f seen (← fun c => .ok (c.rest[seen.length]?, c))) (run ++ b :: bytes) rest a := by
  have hpeek : Takes (peekWhile (!endsRun ·)) [] (run ++ (b :: bytes ++ rest)) run :=
    takes_peekWhile (fun b' hb' => by simp [hrun b' hb']) (by simp [hb])
  have hend : Takes (fun c => .ok (c.rest[run.length]?, c)) [] (run ++ (b :: bytes ++ rest)) (some b) := by
    have hahead := takes_ahead (fun bs => bs[run.length]?) (run ++ (b :: bytes ++ rest))
    simpa using hahead
  rw [← List.append_assoc] at hpeek hend
  exact hpeek.look (hend.look h)

/-- A string is read run by run: plain characters that were seen, and then those of the rest. -/
theorem takes_stringRuns (run cs : List Char) (hrun : ∀ b ∈ encode run, endsRun b = false) {n : Nat} (hn : cs.length < n)
    (rest : List UInt8) : Takes (stringRuns n) (encode run ++ (encode (cs.flatMap stringChar) ++ [0x22])) rest (run ++ cs) := by
  -- A plain character moves from the rest into the run, so a call of the reader is met at the next escape or at the end.
  induction cs generalizing run n with
  | nil =>
    obtain ⟨n, rfl⟩ := Nat.exists_eq_add_one_of_ne_zero (Nat.ne_of_gt hn)
    have hquote : endsRun 0x22 = true := rfl
    rw [List.append_nil, stringRuns]
    refine Takes.lookAtRun hrun hquote ?_
    exact (takes_plainRun run (0x22 :: rest)).bind (takes_skip [0x22] rest).map
  | cons c cs ih =>
    rcases stringChar_cases c with ⟨hplain, hbytes⟩ | ⟨escaped, hescaped, htakes⟩
    · have hrun' : ∀ b ∈ encode (run ++ [c]), endsRun b = false := by
        rw [encode_append, List.forall_mem_append]
        exact ⟨hrun, by simpa using hbytes⟩
      have h := ih (run ++ [c]) hrun' (Nat.lt_of_succ_lt hn)
      simpa [hplain] using h
    · obtain ⟨n, rfl⟩ := Nat.exists_eq_add_one_of_ne_zero (Nat.ne_zero_of_lt hn)
      have hslash : endsRun 0x5C = true := rfl
      have hbytes : encode ((c :: cs).flatMap stringChar) ++ [0x22] =
          0x5C :: (encode escaped ++ (encode (cs.flatMap stringChar) ++ [0x22])) := by
        rw [List.flatMap_cons, hescaped, List.cons_append, encode, List.flatMap_cons, ← encode, encode_append,
          List.append_assoc, List.append_assoc]
        rfl
      rw [hbytes, stringRuns]
      refine Takes.lookAtRun hrun hslash ?_
      refine (takes_plainRun run _).bind ?_
      refine (takes_skip [0x5C] _).bind ?_
      refine (htakes _).bind ?_
      exact (ih [] nofun (Nat.lt_of_succ_lt_succ hn)).map

theorem length_le_flatMap {α β : Type} {f : α → List β} (h : ∀ a, f a ≠ []) (as : List α) :
    as.length ≤ (as.flatMap f).length := by
  induction as with
  | nil => exact Nat.zero_le _
  | cons a as ih =>
    have hpos : 0 < (f a).length := List.length_pos_iff.mpr (h a)
    rw [List.flatMap_cons, List.length_append, List.length_cons]
    omega

/-- The bytes of a string behind its first quote. -/
def stringTail (s : String) : List UInt8 :=
  encode (s.toList.flatMap stringChar) ++ [0x22]

theorem stringChar_ne_nil (c : Char) : stringChar c ≠ [] := by
  rcases stringChar_cases c with ⟨hplain, -⟩ | ⟨escaped, hescaped, -⟩
  · rw [hplain]
    exact List.cons_ne_nil c []
  · rw [hescaped]
    exact List.cons_ne_nil _ escaped

theorem takes_stringBody (s : String) (rest : List UInt8) : Takes stringBody (stringTail s) rest s := by
  have hfuel : s.toList.length < (stringTail s ++ rest).length + 1 := by
    have hchars := length_le_flatMap stringChar_ne_nil s.toList
    have hbytes : (s.toList.flatMap stringChar).length ≤ (encode (s.toList.flatMap stringChar)).length :=
      length_le_flatMap (fun _ => String.utf8EncodeChar_ne_nil) _
    rw [stringTail, List.length_append, List.length_append]
    omega
  refine (takes_remaining (stringTail s ++ rest)).look ?_
  have h := (takes_stringRuns [] s.toList nofun hfuel rest).map (g := String.ofList)
  rwa [List.nil_append, String.ofList_toList] at h

theorem utf8_stringText (s : String) : Text.utf8 (stringText s) = 0x22 :: stringTail s := by
  rw [stringText, Text.utf8_ofList, List.append_assoc, ← encode, encode_append, encode_append, stringTail]
  rfl

/-! ### Integers -/

/-- Nothing comes next, or what can stand behind a value inside a list or an object. -/
def EndsValue (rest : List UInt8) : Prop :=
  ∀ b ∈ rest.head?, b = 0x2C ∨ b = 0x5D ∨ b = 0x7D

theorem appendDigits_of_lt {bound n : Nat} {ds : List Nat} (h : ds.foldl (fun n d => 10 * n + d) n < bound) :
    appendDigits bound n ds = (ds.foldl (fun n d => 10 * n + d) n, ds.length) := by
  have le_foldl (ds : List Nat) (n : Nat) : n ≤ ds.foldl (fun n d => 10 * n + d) n := by
    induction ds generalizing n with
    | nil => exact Nat.le_refl n
    | cons d ds ih =>
      have := ih (10 * n + d)
      rw [List.foldl_cons]
      omega
  induction ds generalizing n with
  | nil => rfl
  | cons d ds ih =>
    have hd : 10 * n + d < bound := Nat.lt_of_le_of_lt (le_foldl ds _) h
    rw [appendDigits, if_pos hd, ih h]
    rfl

/-- The digits of a number, as they are read. -/
def digitsOf (n : Nat) : List Nat :=
  (Nat.toDigits 10 n).map fun c => c.toNat - 0x30

theorem foldl_digitsOf (n : Nat) : (digitsOf n).foldl (fun n d => 10 * n + d) 0 = n := by
  have h := Nat.ofDigitChars_toDigits (b := 10) (n := n) (by decide) (by decide)
  rw [Nat.ofDigitChars_eq_foldl] at h
  rw [digitsOf, List.foldl_map]
  exact h

/-- Only zero starts with a zero. -/
theorem digitsOf_cases (n : Nat) : ∃ d ds, digitsOf n = d :: ds ∧ (d = 0 → n = 0) := by
  induction n using Nat.strong_induction_on with
  | _ n ih =>
    by_cases hn : n < 10
    · have hdigit : ∀ n < 10, (Nat.digitChar n).toNat - 0x30 = n := by decide
      refine ⟨n, [], ?_, id⟩
      rw [digitsOf, Nat.toDigits_of_lt_base hn, List.map_singleton, hdigit n hn]
    · obtain ⟨d, ds, hds, hzero⟩ := ih (n / 10) (by omega)
      have hd : d ≠ 0 := fun h => by have := hzero h; omega
      refine ⟨d, ds ++ [(Nat.digitChar (n % 10)).toNat - 0x30], ?_, fun h => absurd h hd⟩
      rw [digitsOf, Nat.toDigits_of_base_le (by decide) (by omega), List.map_append, ← digitsOf, hds]
      rfl

/-- The bytes of the digits of a number. -/
def digitBytes (n : Nat) : List UInt8 :=
  encode (Nat.toDigits 10 n)

theorem toNat_of_isDigit {c : Char} (h : c.isDigit = true) : 0x30 ≤ c.toNat ∧ c.toNat ≤ 0x39 := by
  rw [Char.isDigit, Bool.and_eq_true, decide_eq_true_eq, decide_eq_true_eq, ge_iff_le, UInt32.le_iff_toNat_le,
    UInt32.le_iff_toNat_le] at h
  exact h

theorem encode_digits {cs : List Char} (h : ∀ c ∈ cs, c.isDigit = true) :
    encode cs = cs.map fun c => UInt8.ofNat c.toNat := by
  induction cs with
  | nil => rfl
  | cons c cs ih =>
    obtain ⟨hc, hcs⟩ := List.forall_mem_cons.mp h
    have hbyte : String.utf8EncodeChar c = [UInt8.ofNat c.toNat] := by
      rw [String.utf8EncodeChar.eq_1]
      exact if_pos (Nat.le_trans (toNat_of_isDigit hc).2 (by decide))
    rw [encode, List.flatMap_cons, hbyte, ← encode, ih hcs]
    rfl

theorem isDigit_of_mem {n : Nat} {c : Char} (hc : c ∈ Nat.toDigits 10 n) : c.isDigit = true :=
  Nat.isDigit_of_mem_toDigits (by decide) (by decide) hc

theorem digitBytes_eq (n : Nat) : digitBytes n = (Nat.toDigits 10 n).map fun c => UInt8.ofNat c.toNat :=
  encode_digits fun _ hc => isDigit_of_mem hc

theorem isDigitByte_of_mem {n : Nat} {b : UInt8} (hb : b ∈ digitBytes n) : isDigitByte b = true := by
  rw [digitBytes_eq] at hb
  obtain ⟨c, hc, rfl⟩ := List.mem_map.mp hb
  have hdigit := toNat_of_isDigit (isDigit_of_mem hc)
  rw [isDigitByte, Bool.and_eq_true, decide_eq_true_eq, decide_eq_true_eq, UInt8.le_iff_toNat_le, UInt8.le_iff_toNat_le,
    UInt8.toNat_ofNat', Nat.mod_eq_of_lt (by omega)]
  exact hdigit

theorem map_digitBytes (n : Nat) : (digitBytes n).map (fun b => b.toNat - 0x30) = digitsOf n := by
  rw [digitBytes_eq, digitsOf, List.map_map]
  refine List.map_congr_left fun c hc => ?_
  have hdigit := toNat_of_isDigit (isDigit_of_mem hc)
  rw [Function.comp_apply, UInt8.toNat_ofNat', Nat.mod_eq_of_lt (by omega)]

theorem EndsValue.not_isDigitByte {rest : List UInt8} (h : EndsValue rest) : ∀ b ∈ rest.head?, isDigitByte b = false := by
  intro b hb
  rcases h b hb with rfl | rfl | rfl <;> rfl

theorem takes_peekDigits (n : Nat) {rest : List UInt8} (hrest : EndsValue rest) :
    Takes peekDigits [] (digitBytes n ++ rest) (digitsOf n) := by
  have hpeek : Takes (peekWhile isDigitByte) [] (digitBytes n ++ rest) (digitBytes n) :=
    takes_peekWhile (fun _ hb => isDigitByte_of_mem hb) hrest.not_isDigitByte
  have h := hpeek.map (g := fun bytes => bytes.map fun b => b.toNat - 0x30)
  rwa [map_digitBytes] at h

theorem takes_afterInteger (negative : Bool) (n : Nat) {rest : List UInt8} (hrest : EndsValue rest) :
    Takes (afterInteger negative n 0) [] rest (integerNumber negative n) := by
  refine (takes_peek rest).look ?_
  split
  case h_4 => exact takes_pure _ rest
  all_goals rename_i hhead; rcases hrest _ hhead with h | h | h <;> cases h

theorem takes_unsignedNumber (negative : Bool) {n : Nat} (hn : n < wordBound) {rest : List UInt8} (hrest : EndsValue rest) :
    Takes (unsignedNumber negative) (digitBytes n) rest (integerNumber negative n) := by
  have hdigits : appendDigits wordBound 0 (digitsOf n) = (n, (digitsOf n).length) := by
    have hfold : (digitsOf n).foldl (fun n d => 10 * n + d) 0 < wordBound := by rwa [foldl_digitsOf]
    rw [appendDigits_of_lt hfold, foldl_digitsOf]
  have hlength : (digitsOf n).length = (digitBytes n).length := by rw [← map_digitBytes, List.length_map]
  refine (takes_peekDigits n hrest).look ?_
  split
  · rename_i hnil
    obtain ⟨d, ds, hds, -⟩ := digitsOf_cases n
    cases hnil.symm.trans hds
  · rename_i hlead
    obtain ⟨d, ds, hds, hzero⟩ := digitsOf_cases n
    obtain ⟨rfl, rfl⟩ := List.cons.inj (hlead.symm.trans hds)
    rw [hzero rfl] at hlead
    cases hlead
  · simp only [hdigits, Nat.sub_self]
    rw [hlength]
    exact (takes_skip (digitBytes n) rest).bind_nil (takes_afterInteger negative n hrest)

/-- The bytes of an integer. -/
def integerBytes : Int → List UInt8
  | .ofNat n => digitBytes n
  | .negSucc n => 0x2D :: digitBytes (n + 1)

theorem utf8_toString_nat (n : Nat) : Text.utf8 (toString n) = digitBytes n := by
  rw [Nat.toString_eq_ofList_toDigits, Text.utf8_ofList]
  rfl

theorem exists_digitBytes (n : Nat) : ∃ b bytes, digitBytes n = b :: bytes ∧ isDigitByte b = true := by
  cases hbytes : digitBytes n with
  | nil =>
    obtain ⟨d, ds, hds, -⟩ := digitsOf_cases n
    rw [← map_digitBytes, hbytes] at hds
    cases hds
  | cons b bytes => exact ⟨b, bytes, rfl, isDigitByte_of_mem (hbytes ▸ List.mem_cons_self)⟩

theorem utf8_toString_int (n : Int) : Text.utf8 (toString n) = integerBytes n := by
  cases n with
  | ofNat n => exact utf8_toString_nat n
  | negSucc n =>
    have htext : toString (Int.negSucc n) = String.ofList ('-' :: Nat.toDigits 10 (n + 1)) := by
      change "-" ++ toString (n + 1) = _
      rw [Nat.toString_eq_ofList_toDigits, ← String.toList_inj]
      simp
    rw [htext, Text.utf8_ofList]
    rfl

/-- An integer of 64 bits, with a sign or without one. -/
def FitsWord (n : Int) : Prop :=
  -0x8000000000000000 ≤ n ∧ n < 0x10000000000000000

theorem takes_number {n : Int} (hn : FitsWord n) {rest : List UInt8} (hrest : EndsValue rest) :
    Takes number (integerBytes n) rest (.integer n) := by
  obtain ⟨hlow, hhigh⟩ := hn
  have hbound : wordBound = 0x10000000000000000 := rfl
  cases n with
  | ofNat n =>
    obtain ⟨b, bytes, hbytes, hdigit⟩ := exists_digitBytes n
    have hminus : b ≠ 0x2D := by
      rintro rfl
      cases hdigit
    have hhead : (digitBytes n ++ rest).head? = some b := by rw [hbytes]; rfl
    have hn : (n : Int) < 0x10000000000000000 := hhigh
    refine (takes_peek (digitBytes n ++ rest)).look ?_
    rw [hhead, if_neg (by simpa using hminus)]
    exact takes_unsignedNumber false (by omega) hrest
  | negSucc n =>
    have hlow' : n + 1 ≤ Nat.pow 2 63 := by
      have hpow : Nat.pow 2 63 = 0x8000000000000000 := rfl
      omega
    have hnumber : integerNumber true (n + 1) = .integer (Int.negSucc n) := by
      rw [integerNumber, if_pos rfl, if_pos ⟨Nat.succ_pos n, hlow'⟩]
      rfl
    refine (takes_peek (0x2D :: digitBytes (n + 1) ++ rest)).look ?_
    refine (takes_skip [0x2D] _).bind ?_
    rw [← hnumber]
    exact takes_unsignedNumber true (by omega) hrest

end Switchboard.Json
