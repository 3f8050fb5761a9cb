import Switchboard.Proofs.JsonParts

/-! # JSON text that is read back

The text of a value is read as the value itself: by induction on how deep brackets may nest, and inside brackets element
by element. Doubles are left out, as their reading rounds, and so are integers beyond 64 bits, which are read as doubles. -/

namespace Switchboard.Json

open Reader

/-- A value without doubles that the reader has room for: its brackets nest up to a depth, its integers fit 64 bits, and the
fields of its objects are in order. -/
inductive IsReadBack : Nat → Json → Prop where
  | null {depth : Nat} : IsReadBack depth .null
  | bool {depth : Nat} (b : Bool) : IsReadBack depth (.bool b)
  | integer {depth : Nat} {n : Int} (hn : FitsWord n) : IsReadBack depth (.integer n)
  | string {depth : Nat} (s : String) : IsReadBack depth (.string s)
  | array {depth : Nat} {vs : List Json} (h : ∀ v ∈ vs, IsReadBack depth v) : IsReadBack (depth + 1) (.array vs)
  | object {depth : Nat} {fields : List (String × Json)} (hsorted : fields.Pairwise fun f g => f.1 < g.1)
      (h : ∀ f ∈ fields, IsReadBack depth f.2) : IsReadBack (depth + 1) (.object fields)

/-- More room does no harm. -/
theorem IsReadBack.mono {depth depth' : Nat} {v : Json} (h : IsReadBack depth v) (hle : depth ≤ depth') :
    IsReadBack depth' v := by
  induction h generalizing depth' with
  | null => exact .null
  | bool b => exact .bool b
  | integer hn => exact .integer hn
  | string s => exact .string s
  | array _ ih =>
    obtain ⟨depth', rfl⟩ := Nat.exists_eq_add_one_of_ne_zero (Nat.ne_zero_of_lt hle)
    exact .array fun v hv => ih v hv (Nat.le_of_succ_le_succ hle)
  | object hsorted _ ih =>
    obtain ⟨depth', rfl⟩ := Nat.exists_eq_add_one_of_ne_zero (Nat.ne_zero_of_lt hle)
    exact .object hsorted fun f hf => ih f hf (Nat.le_of_succ_le_succ hle)

/-! ### Values without parts -/

/-- A byte that can come first in a value without parts. -/
def BeginsPlain (b : UInt8) : Prop :=
  isBlankByte b = false ∧ b ≠ 0x5B ∧ b ≠ 0x7B ∧ b ≠ 0x5D

instance (b : UInt8) : Decidable (BeginsPlain b) :=
  inferInstanceAs (Decidable (_ ∧ _))

variable {rest : List UInt8}

theorem takes_null (rest : List UInt8) : Takes plainValue [0x6E, 0x75, 0x6C, 0x6C] rest .null :=
  (takes_peek ([0x6E, 0x75, 0x6C, 0x6C] ++ rest)).look
    ((takes_skip [0x6E] _).bind (takes_word ['u', 'l', 'l'] [0x75, 0x6C, 0x6C] rest rfl).map)

theorem takes_true (rest : List UInt8) : Takes plainValue [0x74, 0x72, 0x75, 0x65] rest (.bool true) :=
  (takes_peek ([0x74, 0x72, 0x75, 0x65] ++ rest)).look
    ((takes_skip [0x74] _).bind (takes_word ['r', 'u', 'e'] [0x72, 0x75, 0x65] rest rfl).map)

theorem takes_false (rest : List UInt8) : Takes plainValue [0x66, 0x61, 0x6C, 0x73, 0x65] rest (.bool false) :=
  (takes_peek ([0x66, 0x61, 0x6C, 0x73, 0x65] ++ rest)).look
    ((takes_skip [0x66] _).bind (takes_word ['a', 'l', 's', 'e'] [0x61, 0x6C, 0x73, 0x65] rest rfl).map)

theorem takes_string (s : String) (rest : List UInt8) : Takes plainValue (0x22 :: stringTail s) rest (.string s) :=
  (takes_peek (0x22 :: stringTail s ++ rest)).look ((takes_skip [0x22] _).bind (takes_stringBody s rest).map)

theorem takes_plain_digit {b : UInt8} {bytes : List UInt8} {v : Json} (hdigit : isDigitByte b = true)
    (h : Takes number (b :: bytes) rest v) : Takes plainValue (b :: bytes) rest v := by
  refine (takes_peek (b :: bytes ++ rest)).look ?_
  split
  case h_5 hhead =>
    cases hhead
    rwa [hdigit, Bool.or_true, if_pos rfl]
  case h_6 hhead => cases hhead
  all_goals rename_i hhead; cases hhead; cases hdigit

theorem beginsPlain_of_isDigitByte {b : UInt8} (h : isDigitByte b = true) : BeginsPlain b := by
  rw [isDigitByte, Bool.and_eq_true, decide_eq_true_eq, decide_eq_true_eq, UInt8.le_iff_toNat_le, UInt8.le_iff_toNat_le] at h
  have hlow : 0x30 ≤ b.toNat := h.1
  have hhigh : b.toNat ≤ 0x39 := h.2
  simp only [BeginsPlain, isBlankByte, Bool.or_eq_false_iff, beq_eq_false_iff_ne, ne_eq, ← UInt8.toNat_inj,
    UInt8.reduceToNat]
  omega

theorem exists_integerBytes (n : Int) : ∃ b bytes, integerBytes n = b :: bytes ∧ BeginsPlain b := by
  cases n with
  | ofNat n =>
    obtain ⟨b, bytes, hbytes, hdigit⟩ := exists_digitBytes n
    exact ⟨b, bytes, hbytes, beginsPlain_of_isDigitByte hdigit⟩
  | negSucc n => exact ⟨0x2D, _, rfl, by decide⟩

theorem takes_integer {n : Int} (hn : FitsWord n) (hrest : EndsValue rest) :
    Takes plainValue (integerBytes n) rest (.integer n) := by
  have hnumber := takes_number hn hrest
  cases n with
  | ofNat n =>
    obtain ⟨b, bytes, hbytes, hdigit⟩ := exists_digitBytes n
    rw [integerBytes, hbytes] at hnumber ⊢
    exact takes_plain_digit hdigit hnumber
  | negSucc n => exact (takes_peek (0x2D :: digitBytes (n + 1) ++ rest)).look hnumber

/-- A value without parts is read at any depth. -/
theorem takes_valueWithin_plain {b : UInt8} {bytes : List UInt8} {v : Json} (hb : BeginsPlain b)
    (h : Takes plainValue (b :: bytes) rest v) (depth : Nat) : Takes (valueWithin depth) (b :: bytes) rest v := by
  obtain ⟨hblank, hlist, hobject, -⟩ := hb
  have hpeek : Takes peekPastBlanks [] (b :: bytes ++ rest) (some b) := takes_peekPastBlanks_cons hblank _
  cases depth with
  | zero =>
    refine hpeek.look ?_
    rwa [if_neg (by simp [hlist, hobject])]
  | succ depth =>
    refine hpeek.look ?_
    split
    · rename_i hhead
      exact absurd (Option.some.inj hhead) hlist
    · rename_i hhead
      exact absurd (Option.some.inj hhead) hobject
    · exact h

/-! ### Lists -/

/-- A byte that can come first in an element of a list. -/
def BeginsElement (b : UInt8) : Prop :=
  isBlankByte b = false ∧ b ≠ 0x5D

theorem takes_nextElement_end (first : Bool) (rest : List UInt8) : Takes (nextElement first) [] (0x5D :: rest) false := by
  refine (takes_peekPastBlanks_cons rfl rest).look ?_
  exact takes_pure false _

theorem takes_nextElement_first {b : UInt8} (hb : BeginsElement b) (rest : List UInt8) :
    Takes (nextElement true) [] (b :: rest) true := by
  refine (takes_peekPastBlanks_cons hb.1 rest).look ?_
  split
  case h_3 => exact takes_pure true _
  case h_2 hhead => exact absurd (Option.some.inj hhead) hb.2
  case h_1 hhead => cases hhead

theorem takes_nextElement_more {b : UInt8} (hb : BeginsElement b) (rest : List UInt8) :
    Takes (nextElement false) [0x2C] (b :: rest) true := by
  refine (takes_peekPastBlanks_cons rfl (b :: rest)).look ?_
  refine (takes_skip [0x2C] (b :: rest)).bind_nil ?_
  refine (takes_peekPastBlanks_cons hb.1 rest).look ?_
  split
  case h_3 => exact takes_pure true _
  case h_2 hhead => exact absurd (Option.some.inj hhead) hb.2
  case h_1 hhead => cases hhead

section
variable {α : Type} {element : Reader α} {text : α → List UInt8} {as : List α} {n : Nat}

/-- Texts with a comma in front of each. -/
def afterCommas (text : α → List UInt8) (as : List α) : List UInt8 :=
  as.flatMap fun a => 0x2C :: text a

/-- Texts with commas between them. -/
def betweenCommas (text : α → List UInt8) : List α → List UInt8
  | [] => []
  | a :: as => text a ++ afterCommas text as

theorem length_le_betweenCommas (h : ∀ a ∈ as, text a ≠ []) : as.length ≤ (betweenCommas text as).length := by
  cases as with
  | nil => exact Nat.le_refl _
  | cons a as =>
    have ha : 0 < (text a).length := List.length_pos_iff.mpr (h a List.mem_cons_self)
    have has : as.length ≤ (afterCommas text as).length := length_le_flatMap (fun _ => List.cons_ne_nil _ _) as
    rw [betweenCommas, List.length_append, List.length_cons]
    omega

theorem endsValue_afterCommas (text : α → List UInt8) (as : List α) {close : UInt8} (hclose : close = 0x5D ∨ close = 0x7D)
    (rest : List UInt8) : EndsValue (afterCommas text as ++ close :: rest) := by
  intro b hb
  cases as with
  | nil =>
    cases hb
    exact Or.inr hclose
  | cons a as =>
    cases hb
    exact Or.inl rfl

/-- A reader of elements takes the text of each in front of what can stand behind it. -/
def TakesEach (element : Reader α) (text : α → List UInt8) (as : List α) : Prop :=
  ∀ a ∈ as, (∃ b bytes, text a = b :: bytes ∧ BeginsElement b) ∧ ∀ rest, EndsValue rest → Takes element (text a) rest a

theorem takes_elements_more (h : TakesEach element text as) (hn : as.length < n) (rest : List UInt8) :
    Takes (elements element false n) (afterCommas text as) (0x5D :: rest) as := by
  induction as generalizing n with
  | nil =>
    obtain ⟨n, rfl⟩ := Nat.exists_eq_add_one_of_ne_zero (Nat.ne_zero_of_lt hn)
    refine (takes_nextElement_end false rest).look ?_
    exact takes_pure [] _
  | cons a as ih =>
    obtain ⟨n, rfl⟩ := Nat.exists_eq_add_one_of_ne_zero (Nat.ne_zero_of_lt hn)
    obtain ⟨ha, has⟩ := List.forall_mem_cons.mp h
    obtain ⟨⟨b, bytes, htext, hb⟩, helement⟩ := ha
    have hnext : Takes (nextElement false) [0x2C] (text a ++ afterCommas text as ++ 0x5D :: rest) true := by
      rw [htext]
      exact takes_nextElement_more hb _
    refine hnext.bind ?_
    refine (helement _ (endsValue_afterCommas text as (Or.inl rfl) rest)).bind ?_
    exact (ih has (Nat.lt_of_succ_lt_succ hn)).map

/-- The elements of a list are read one by one, as long as there is room for their number. -/
theorem takes_elements (h : TakesEach element text as) (hn : as.length < n) (rest : List UInt8) :
    Takes (elements element true n) (betweenCommas text as) (0x5D :: rest) as := by
  obtain ⟨n, rfl⟩ := Nat.exists_eq_add_one_of_ne_zero (Nat.ne_zero_of_lt hn)
  cases as with
  | nil =>
    refine (takes_nextElement_end true rest).look ?_
    exact takes_pure [] _
  | cons a as =>
    obtain ⟨ha, has⟩ := List.forall_mem_cons.mp h
    obtain ⟨⟨b, bytes, htext, hb⟩, helement⟩ := ha
    have hnext : Takes (nextElement true) [] (text a ++ afterCommas text as ++ 0x5D :: rest) true := by
      rw [htext]
      exact takes_nextElement_first hb _
    refine hnext.look ?_
    refine (helement _ (endsValue_afterCommas text as (Or.inl rfl) rest)).bind ?_
    exact (takes_elements_more has (Nat.lt_of_succ_lt_succ hn) rest).map

end

/-! ### Fields -/

theorem takes_nextKey_end (first : Bool) (rest : List UInt8) : Takes (nextKey first) [] (0x7D :: rest) false := by
  refine (takes_peekPastBlanks_cons rfl rest).look ?_
  exact takes_pure false _

theorem takes_nextKey_first (rest : List UInt8) : Takes (nextKey true) [] (0x22 :: rest) true := by
  refine (takes_peekPastBlanks_cons rfl rest).look ?_
  exact takes_pure true _

theorem takes_nextKey_more (rest : List UInt8) : Takes (nextKey false) [0x2C] (0x22 :: rest) true := by
  refine (takes_peekPastBlanks_cons rfl (0x22 :: rest)).look ?_
  refine (takes_skip [0x2C] (0x22 :: rest)).bind_nil ?_
  refine (takes_peekPastBlanks_cons rfl rest).look ?_
  exact takes_pure true _

theorem takes_key (name : String) (rest : List UInt8) : Takes key (0x22 :: stringTail name) rest name :=
  (takes_skip [0x22] (stringTail name ++ rest)).bind (takes_stringBody name rest)

theorem takes_colon (rest : List UInt8) : Takes colon [0x3A] rest () := by
  refine (takes_peekPastBlanks_cons rfl rest).look ?_
  exact takes_skip [0x3A] rest

section
variable {α : Type} {field : String → Reader α} {text : α → List UInt8} {fs : List (String × α)} {n : Nat}

/-- The text of a field. -/
def fieldText (text : α → List UInt8) (f : String × α) : List UInt8 :=
  0x22 :: (stringTail f.1 ++ 0x3A :: text f.2)

/-- A reader of fields takes the text of each value in front of what can stand behind it. -/
def TakesEachField (field : String → Reader α) (text : α → List UInt8) (fs : List (String × α)) : Prop :=
  ∀ f ∈ fs, ∀ rest, EndsValue rest → Takes (field f.1) (text f.2) rest f.2

/-- A field is read up to the value, and then what follows. -/
theorem takes_field {β : Type} {f : String × α} {g : String → α → Reader β} {bytes : List UInt8} {b : β}
    (h : Takes (field f.1) (text f.2) (bytes ++ rest) f.2) (hg : Takes (g f.1 f.2) bytes rest b) :
    Takes (do
      let name ← key
      colon
      g name (← field name)) (fieldText text f ++ bytes) rest b := by
  have hsplit : fieldText text f ++ bytes = (0x22 :: stringTail f.1) ++ ([0x3A] ++ (text f.2 ++ bytes)) := by
    simp [fieldText]
  rw [hsplit]
  exact (takes_key f.1 _).bind ((takes_colon _).bind (h.bind hg))

theorem takes_fields_more (h : TakesEachField field text fs) (hn : fs.length < n) (rest : List UInt8) :
    Takes (fields field false n) (afterCommas (fieldText text) fs) (0x7D :: rest) fs := by
  induction fs generalizing n with
  | nil =>
    obtain ⟨n, rfl⟩ := Nat.exists_eq_add_one_of_ne_zero (Nat.ne_zero_of_lt hn)
    refine (takes_nextKey_end false rest).look ?_
    exact takes_pure [] _
  | cons f fs ih =>
    obtain ⟨n, rfl⟩ := Nat.exists_eq_add_one_of_ne_zero (Nat.ne_zero_of_lt hn)
    obtain ⟨hf, hfs⟩ := List.forall_mem_cons.mp h
    have hnext : Takes (nextKey false) [0x2C] (fieldText text f ++ afterCommas (fieldText text) fs ++ 0x7D :: rest) true :=
      takes_nextKey_more _
    refine hnext.bind ?_
    refine takes_field (hf _ (endsValue_afterCommas _ fs (Or.inr rfl) rest)) ?_
    exact (ih hfs (Nat.lt_of_succ_lt_succ hn)).map

/-- The fields of an object are read one by one, as long as there is room for their number. -/
theorem takes_fields (h : TakesEachField field text fs) (hn : fs.length < n) (rest : List UInt8) :
    Takes (fields field true n) (betweenCommas (fieldText text) fs) (0x7D :: rest) fs := by
  obtain ⟨n, rfl⟩ := Nat.exists_eq_add_one_of_ne_zero (Nat.ne_zero_of_lt hn)
  cases fs with
  | nil =>
    refine (takes_nextKey_end true rest).look ?_
    exact takes_pure [] _
  | cons f fs =>
    obtain ⟨hf, hfs⟩ := List.forall_mem_cons.mp h
    have hnext : Takes (nextKey true) [] (fieldText text f ++ afterCommas (fieldText text) fs ++ 0x7D :: rest) true :=
      takes_nextKey_first _
    refine hnext.look ?_
    refine takes_field (hf _ (endsValue_afterCommas _ fs (Or.inr rfl) rest)) ?_
    exact (takes_fields_more hfs (Nat.lt_of_succ_lt_succ hn) rest).map

end

/-- Setting a field behind all others adds it at the end. -/
theorem setField_concat {fields : List (String × Json)} {name : String} (h : ∀ f ∈ fields, f.1 < name) (v : Json) :
    setField fields name v = fields ++ [(name, v)] := by
  induction fields with
  | nil => rfl
  | cons f fields ih =>
    obtain ⟨hf, hfields⟩ := List.forall_mem_cons.mp h
    have hne : name ≠ f.1 := fun e => String.lt_irrefl _ (e ▸ hf)
    rw [setField, if_neg (String.lt_asymm hf), if_neg hne, ih hfields]
    rfl

/-- Fields in order are an object as they are. -/
theorem ofFields_of_sorted {fields : List (String × Json)} (h : fields.Pairwise fun f g => f.1 < g.1) :
    ofFields fields = .object fields := by
  have collect (front back : List (String × Json)) (h : (front ++ back).Pairwise fun f g => f.1 < g.1) :
      back.foldl (fun o (f : String × Json) => setField o f.1 f.2) front = front ++ back := by
    induction back generalizing front with
    | nil => simp
    | cons f back ih =>
      have hfront : ∀ g ∈ front, g.1 < f.1 := fun g hg => (List.pairwise_append.mp h).2.2 g hg f List.mem_cons_self
      rw [List.foldl_cons, setField_concat hfront, ih _ (by simpa using h)]
      simp
  exact congrArg Json.object (collect [] fields h)

/-! ### Values -/

/-- The bytes of the text of a value. -/
abbrev textBytes (v : Json) : List UInt8 :=
  Text.utf8 v.compact

theorem utf8_comma : Text.utf8 "," = [0x2C] :=
  Text.utf8_ofList [',']

theorem betweenCommas_cons_cons {α : Type} (text : α → List UInt8) (a b : α) (as : List α) :
    betweenCommas text (a :: b :: as) = text a ++ 0x2C :: betweenCommas text (b :: as) := rfl

theorem utf8_compactElements (vs : List Json) : Text.utf8 (compactElements vs) = betweenCommas textBytes vs := by
  induction vs with
  | nil => exact Text.utf8_ofList []
  | cons v vs ih =>
    cases vs with
    | nil => exact (List.append_nil _).symm
    | cons w vs =>
      rw [compactElements, Text.utf8_append, Text.utf8_append, ih, utf8_comma, betweenCommas_cons_cons, List.append_assoc]
      rfl

theorem utf8_compactFields (fs : List (String × Json)) :
    Text.utf8 (compactFields fs) = betweenCommas (fieldText textBytes) fs := by
  have htext (f : String × Json) : Text.utf8 (stringText f.1 ++ ":" ++ f.2.compact) = fieldText textBytes f := by
    have hcolon : Text.utf8 ":" = [0x3A] := Text.utf8_ofList [':']
    rw [Text.utf8_append, Text.utf8_append, utf8_stringText, hcolon, List.append_assoc]
    rfl
  induction fs with
  | nil => exact Text.utf8_ofList []
  | cons f fs ih =>
    cases fs with
    | nil => exact (htext f).trans (List.append_nil _).symm
    | cons g fs =>
      rw [compactFields, Text.utf8_append, Text.utf8_append, htext f, ih, utf8_comma, betweenCommas_cons_cons,
        List.append_assoc]
      rfl

theorem textBytes_array (vs : List Json) : textBytes (.array vs) = 0x5B :: (betweenCommas textBytes vs ++ [0x5D]) := by
  have hopen : Text.utf8 "[" = [0x5B] := Text.utf8_ofList ['[']
  have hclose : Text.utf8 "]" = [0x5D] := Text.utf8_ofList [']']
  rw [textBytes, compact, Text.utf8_append, Text.utf8_append, utf8_compactElements, hopen, hclose]
  rfl

theorem textBytes_object (fs : List (String × Json)) :
    textBytes (.object fs) = 0x7B :: (betweenCommas (fieldText textBytes) fs ++ [0x7D]) := by
  have hopen : Text.utf8 "\x7b" = [0x7B] := Text.utf8_ofList ['\x7b']
  have hclose : Text.utf8 "\x7d" = [0x7D] := Text.utf8_ofList ['\x7d']
  rw [textBytes, compact, Text.utf8_append, Text.utf8_append, utf8_compactFields, hopen, hclose]
  rfl

variable {depth : Nat} {v : Json}

/-- What is read back where no bracket can nest has no parts. -/
theorem exists_plain (h : IsReadBack 0 v) : ∃ b bytes, textBytes v = b :: bytes ∧ BeginsPlain b ∧
    ∀ rest, EndsValue rest → Takes plainValue (b :: bytes) rest v := by
  cases h with
  | null => exact ⟨_, _, Text.utf8_ofList ['n', 'u', 'l', 'l'], by decide, fun rest _ => takes_null rest⟩
  | bool b =>
    cases b with
    | false => exact ⟨_, _, Text.utf8_ofList ['f', 'a', 'l', 's', 'e'], by decide, fun rest _ => takes_false rest⟩
    | true => exact ⟨_, _, Text.utf8_ofList ['t', 'r', 'u', 'e'], by decide, fun rest _ => takes_true rest⟩
  | @integer _ n hn =>
    obtain ⟨b, bytes, hbytes, hb⟩ := exists_integerBytes n
    refine ⟨b, bytes, (utf8_toString_int n).trans hbytes, hb, fun rest hrest => ?_⟩
    rw [← hbytes]
    exact takes_integer hn hrest
  | string s => exact ⟨_, _, utf8_stringText s, by decide, fun rest _ => takes_string s rest⟩

theorem exists_textBytes (h : IsReadBack depth v) : ∃ b bytes, textBytes v = b :: bytes ∧ BeginsElement b := by
  have plain (h : IsReadBack 0 v) : ∃ b bytes, textBytes v = b :: bytes ∧ BeginsElement b := by
    obtain ⟨b, bytes, hbytes, ⟨hblank, -, -, hclose⟩, -⟩ := exists_plain h
    exact ⟨b, bytes, hbytes, hblank, hclose⟩
  cases h with
  | null => exact plain .null
  | bool b => exact plain (.bool b)
  | integer hn => exact plain (.integer hn)
  | string s => exact plain (.string s)
  | array => exact ⟨0x5B, _, textBytes_array _, by decide, by decide⟩
  | object => exact ⟨0x7B, _, textBytes_object _, by decide, by decide⟩

/-- The text of a value is read as the value, at any depth where there is room for its brackets. -/
theorem takes_valueWithin (h : IsReadBack depth v) (hrest : EndsValue rest) :
    Takes (valueWithin depth) (textBytes v) rest v := by
  have plain {depth : Nat} {v : Json} (h : IsReadBack 0 v) {rest : List UInt8} (hrest : EndsValue rest) :
      Takes (valueWithin depth) (textBytes v) rest v := by
    obtain ⟨b, bytes, hbytes, hb, htakes⟩ := exists_plain h
    rw [hbytes]
    exact takes_valueWithin_plain hb (htakes rest hrest) depth
  induction h generalizing rest with
  | null => exact plain .null hrest
  | bool b => exact plain (.bool b) hrest
  | integer hn => exact plain (.integer hn) hrest
  | string s => exact plain (.string s) hrest
  | @array depth vs hvs ih =>
    have heach : TakesEach (valueWithin depth) textBytes vs :=
      fun v hv => ⟨exists_textBytes (hvs v hv), fun rest hrest => ih v hv hrest⟩
    -- The reader makes room for as many elements as there are bytes left, and each element has one at least.
    have hroom : vs.length < (betweenCommas textBytes vs ++ [0x5D] ++ rest).length + 1 := by
      have hlength : vs.length ≤ (betweenCommas textBytes vs).length := by
        refine length_le_betweenCommas fun v hv => ?_
        obtain ⟨⟨b, bytes, hbytes, -⟩, -⟩ := heach v hv
        rw [hbytes]
        exact List.cons_ne_nil b bytes
      rw [List.length_append, List.length_append]
      omega
    rw [textBytes_array]
    refine (takes_peekPastBlanks_cons rfl _).look ?_
    refine (takes_skip [0x5B] _).bind ?_
    refine (takes_remaining _).look ?_
    refine (takes_elements heach hroom rest).bind ?_
    exact (takes_skip [0x5D] rest).map
  | @object depth fields hsorted hfields ih =>
    have heach : TakesEachField (fun _ => valueWithin depth) textBytes fields :=
      fun f hf rest hrest => ih f hf hrest
    have hroom : fields.length < (betweenCommas (fieldText textBytes) fields ++ [0x7D] ++ rest).length + 1 := by
      have hlength : fields.length ≤ (betweenCommas (fieldText textBytes) fields).length :=
        length_le_betweenCommas fun _ _ => List.cons_ne_nil _ _
      rw [List.length_append, List.length_append]
      omega
    rw [textBytes_object, ← ofFields_of_sorted hsorted]
    refine (takes_peekPastBlanks_cons rfl _).look ?_
    refine (takes_skip [0x7B] _).bind ?_
    refine (takes_remaining _).look ?_
    refine (takes_fields heach hroom rest).bind ?_
    exact (takes_skip [0x7D] rest).map

theorem runWhole_of_takes {α : Type} {r : Reader α} {bytes : List UInt8} {a : α} (h : Takes r bytes [] a) :
    runWhole r bytes = .ok a := by
  have hnothing : Takes peekPastBlanks [] [] none := takes_peekPastBlanks nofun
  obtain ⟨place, hrun⟩ := h ⟨1, 0⟩
  obtain ⟨place', hend⟩ := hnothing place
  rw [List.append_nil] at hrun hend
  dsimp only [runWhole, ByteCursor.start]
  rw [Reader.bind_of_ok hrun, Reader.bind_of_ok hend]
  rfl

/-- A value is read back from the bytes of its text. -/
theorem parse_compact (h : IsReadBack deepest v) : parse (Text.utf8 v.compact) = .ok v :=
  runWhole_of_takes (takes_valueWithin h nofun)

end Switchboard.Json
