import Switchboard.Sample.Handlers

/-! # Which slots a body fills

Without slots a body is not read. One slot takes the whole value of the body, and several take the elements of an array,
each the one at its place. They are filled from the first on, up to the first element that does not fit its slot
(`IsFirstMisfit`): what is in front of it is replaced, the rest is as it was (`FilledUpTo`). Every other failure is
found before any slot is touched. -/

namespace Switchboard.JsonMessage

variable {Slot Value : Type}

section
variable (fill : Slot → Json → Except JsonFault Slot)

/-- A slot can be filled from a value. -/
def Fits (slot : Slot) (v : Json) : Prop := ∃ filled, fill slot v = .ok filled

/-- Each slot can be filled from the element at its place. -/
def FitsAll (slots : List Slot) (vs : List Json) : Prop :=
  ∀ (i : Nat) (slot : Slot) (v : Json), slots[i]? = some slot → vs[i]? = some v → Fits fill slot v

/-- The element at a place does not fit its slot, and all in front of it do. -/
structure IsFirstMisfit (slots : List Slot) (vs : List Json) (k : Nat) (fault : JsonFault) : Prop where
  misfit : ∃ slot v, slots[k]? = some slot ∧ vs[k]? = some v ∧ fill slot v = .error fault
  before : ∀ (i : Nat) (slot : Slot) (v : Json), i < k → slots[i]? = some slot → vs[i]? = some v → Fits fill slot v

/-- Of some slots the first `k` were filled, each from the element at its place, and no other was touched. -/
structure FilledUpTo (k : Nat) (slots : List Slot) (vs : List Json) (filled : List Slot) : Prop where
  length : filled.length = slots.length
  replaced : ∀ i < k, ∃ slot v s, slots[i]? = some slot ∧ vs[i]? = some v ∧ fill slot v = .ok s ∧ filled[i]? = some s
  kept : ∀ i, k ≤ i → filled[i]? = slots[i]?

end

/-- A body is the text of an array of so many elements. -/
def HoldsArray (body : List UInt8) (n : Nat) (vs : List Json) : Prop :=
  Json.parse body = .ok (.array vs) ∧ vs.length = n

variable {fill : Slot → Json → Except JsonFault Slot} {slot s : Slot} {slots filled : List Slot} {v : Json}
  {vs : List Json} {k : Nat} {fault : JsonFault}

/-! ### Element by element -/

theorem FilledUpTo.none (slots : List Slot) (vs : List Json) : FilledUpTo fill 0 slots vs slots where
  length := rfl
  replaced _ hi := absurd hi (Nat.not_lt_zero _)
  kept _ _ := rfl

theorem FilledUpTo.cons (h : FilledUpTo fill k slots vs filled) (hs : fill slot v = .ok s) :
    FilledUpTo fill (k + 1) (slot :: slots) (v :: vs) (s :: filled) where
  length := congrArg (· + 1) h.length
  replaced i hi := by
    cases i with
    | zero => exact ⟨slot, v, s, rfl, rfl, hs, rfl⟩
    | succ i => exact h.replaced i (Nat.lt_of_succ_lt_succ hi)
  kept i hi := by
    cases i with
    | zero => exact absurd hi (Nat.not_succ_le_zero k)
    | succ i => exact h.kept i (Nat.le_of_succ_le_succ hi)

theorem FitsAll.cons (h : FitsAll fill slots vs) (hs : fill slot v = .ok s) : FitsAll fill (slot :: slots) (v :: vs) := by
  intro i slot' v' hslot hv
  cases i with
  | zero =>
    cases hslot
    cases hv
    exact ⟨s, hs⟩
  | succ i => exact h i slot' v' hslot hv

theorem isFirstMisfit_head (h : fill slot v = .error fault) : IsFirstMisfit fill (slot :: slots) (v :: vs) 0 fault where
  misfit := ⟨slot, v, rfl, rfl, h⟩
  before _ _ _ hi := absurd hi (Nat.not_lt_zero _)

theorem IsFirstMisfit.cons (h : IsFirstMisfit fill slots vs k fault) (hs : fill slot v = .ok s) :
    IsFirstMisfit fill (slot :: slots) (v :: vs) (k + 1) fault where
  misfit := h.misfit
  before i slot' v' hi hslot hv := by
    cases i with
    | zero =>
      cases hslot
      cases hv
      exact ⟨s, hs⟩
    | succ i => exact h.before i slot' v' (Nat.lt_of_succ_lt_succ hi) hslot hv

theorem IsFirstMisfit.not_fitsAll (h : IsFirstMisfit fill slots vs k fault) : ¬FitsAll fill slots vs := by
  intro hall
  obtain ⟨slot, v, hslot, hv, herror⟩ := h.misfit
  obtain ⟨s, hs⟩ := hall k slot v hslot hv
  rw [herror] at hs
  cases hs

/-- Slots are filled from as many elements up to their end, or up to the first misfit. -/
theorem fillAll_cases (hlength : vs.length = slots.length) :
    (∃ filled, fillAll fill slots vs = (filled, none) ∧ FitsAll fill slots vs ∧
      FilledUpTo fill slots.length slots vs filled) ∨
    ∃ filled k fault, fillAll fill slots vs = (filled, some (misfit fault)) ∧ IsFirstMisfit fill slots vs k fault ∧
      FilledUpTo fill k slots vs filled := by
  induction slots generalizing vs with
  | nil => exact Or.inl ⟨[], rfl, nofun, .none [] vs⟩
  | cons slot slots ih =>
    obtain ⟨v, vs, rfl⟩ := List.exists_cons_of_length_eq_add_one hlength
    cases hs : fill slot v with
    | error fault =>
      refine Or.inr ⟨slot :: slots, 0, fault, ?_, isFirstMisfit_head hs, .none _ _⟩
      rw [fillAll, hs]
    | ok s =>
      rcases ih (Nat.succ.inj hlength) with ⟨filled, hfill, hall, hfilled⟩ | ⟨filled, k, fault, hfill, hmisfit, hfilled⟩
      · refine Or.inl ⟨s :: filled, ?_, hall.cons hs, hfilled.cons hs⟩
        rw [fillAll, hs, hfill]
      · refine Or.inr ⟨s :: filled, k + 1, fault, ?_, hmisfit.cons hs, hfilled.cons hs⟩
        rw [fillAll, hs, hfill]

variable {body : List UInt8} {e? : Option CodecFault}

theorem decodeBody_of_unreadable (hslots : slots ≠ []) {e : JsonError} (hparse : Json.parse body = .error e) :
    decodeBody fill body slots = (slots, some (.json e)) := by
  obtain ⟨slot, slots, rfl⟩ := List.exists_cons_of_ne_nil hslots
  simp [decodeBody, hparse]

theorem decodeBody_of_ok (hslots : slots ≠ []) (hparse : Json.parse body = .ok v) :
    decodeBody fill body slots = fillFrom fill v slots := by
  obtain ⟨slot, slots, rfl⟩ := List.exists_cons_of_ne_nil hslots
  rw [decodeBody, hparse]
  rfl

/-! ### One slot -/

/-- What comes of decoding a body into one slot. -/
structure DecodesOne (fill : Slot → Json → Except JsonFault Slot) (body : List UInt8) (slot : Slot) (filled : List Slot)
    (e? : Option CodecFault) : Prop where
  ok_iff : e? = none ↔ ∃ v, Json.parse body = .ok v ∧ Fits fill slot v
  unreadable : ∀ e, Json.parse body = .error e → e? = some (.json e)
  misfit : ∀ v fault, Json.parse body = .ok v → fill slot v = .error fault → e? = some (.json ⟨fault, none⟩)
  replaced : ∀ v s, Json.parse body = .ok v → fill slot v = .ok s → filled = [s]
  kept : e? ≠ none → filled = [slot]

theorem decodesOne (fill : Slot → Json → Except JsonFault Slot) (body : List UInt8) (slot : Slot) :
    DecodesOne fill body slot (decodeBody fill body [slot]).1 (decodeBody fill body [slot]).2 := by
  have hne : [slot] ≠ [] := List.cons_ne_nil slot []
  cases hparse : Json.parse body with
  | error e =>
    rw [decodeBody_of_unreadable hne hparse]
    exact ⟨by simp [hparse], by simp [hparse], by simp [hparse], by simp [hparse], fun _ => rfl⟩
  | ok v =>
    rw [decodeBody_of_ok hne hparse]
    -- The value of the body is the only one that the slot can take.
    have only {w : Json} (hw : Json.parse body = .ok w) : w = v := Except.ok.inj (hw.symm.trans hparse)
    cases hs : fill slot v with
    | error fault =>
      have hfill : fillFrom fill v [slot] = ([slot], some (misfit fault)) := by simp [fillFrom, fillAll, hs]
      rw [hfill]
      refine ⟨by simp [hparse, Fits, hs], by simp [hparse], fun w fault' hw hmisfit => ?_, fun w s hw hs' => ?_, fun _ => rfl⟩
      · rw [only hw] at hmisfit
        cases hs.symm.trans hmisfit
        rfl
      · rw [only hw] at hs'
        cases hs.symm.trans hs'
    | ok s =>
      have hfill : fillFrom fill v [slot] = ([s], none) := by simp [fillFrom, fillAll, hs]
      rw [hfill]
      refine ⟨by simp [hparse, Fits, hs], by simp [hparse], fun w fault hw hmisfit => ?_, fun w s' hw hs' => ?_,
        fun hne => absurd rfl hne⟩
      · rw [only hw] at hmisfit
        cases hs.symm.trans hmisfit
      · rw [only hw] at hs'
        cases hs.symm.trans hs'
        rfl

/-! ### Several slots -/

section
variable (fill : Slot → Json → Except JsonFault Slot) (body : List UInt8) (slots : List Slot)

/-- The ways in which decoding a body into several slots can end, by what the body holds. -/
inductive Ends : List Slot → Option CodecFault → Prop where
  | unreadable {e : JsonError} (hparse : Json.parse body = .error e) : Ends slots (some (.json e))
  | noArray {v : Json} (hparse : Json.parse body = .ok v) (hv : ∀ vs, v ≠ .array vs) :
      Ends slots (some (.expectedArray slots.length))
  | otherLength {m : Nat} {vs : List Json} (harray : HoldsArray body m vs) (hlength : m ≠ slots.length) :
      Ends slots (some (.arity slots.length m))
  | stopped {vs : List Json} {filled : List Slot} {fault : JsonFault} (harray : HoldsArray body slots.length vs)
      (hnot : ¬FitsAll fill slots vs) : Ends filled (some (.json ⟨fault, none⟩))
  | filled {vs : List Json} {filled : List Slot} (harray : HoldsArray body slots.length vs)
      (hall : FitsAll fill slots vs) : Ends filled none

/-- What comes of decoding a body into several slots. -/
structure DecodesSeveral (filled : List Slot) (e? : Option CodecFault) : Prop where
  ok_iff : e? = none ↔ ∃ vs, HoldsArray body slots.length vs ∧ FitsAll fill slots vs
  json_iff : (∃ e, e? = some (.json e)) ↔
    (∃ e, Json.parse body = .error e) ∨ ∃ vs, HoldsArray body slots.length vs ∧ ¬FitsAll fill slots vs
  expectedArray_iff : ∀ n, e? = some (.expectedArray n) ↔
    n = slots.length ∧ ∃ v, Json.parse body = .ok v ∧ ∀ vs, v ≠ .array vs
  arity_iff : ∀ n m, e? = some (.arity n m) ↔ n = slots.length ∧ m ≠ n ∧ ∃ vs, HoldsArray body m vs
  unreadable : ∀ e, Json.parse body = .error e → e? = some (.json e)
  replaced : ∀ vs, HoldsArray body slots.length vs → FitsAll fill slots vs →
    FilledUpTo fill slots.length slots vs filled
  stopped : ∀ vs, HoldsArray body slots.length vs → ¬FitsAll fill slots vs → ∃ k fault,
    IsFirstMisfit fill slots vs k fault ∧ e? = some (.json ⟨fault, none⟩) ∧ FilledUpTo fill k slots vs filled
  kept : (∀ vs, ¬HoldsArray body slots.length vs) → filled = slots

end

theorem fillFrom_of_noArray (hslots : 2 ≤ slots.length) (hv : ∀ vs, v ≠ .array vs) :
    fillFrom fill v slots = (slots, some (.expectedArray slots.length)) := by
  match slots, hslots with
  | _ :: _ :: _, _ =>
    cases v with
    | array vs => exact absurd rfl (hv vs)
    | null | bool | integer | float | string | object => rfl

theorem fillFrom_array (hslots : 2 ≤ slots.length) : fillFrom fill (.array vs) slots =
    if vs.length = slots.length then fillAll fill slots vs else (slots, some (.arity slots.length vs.length)) := by
  match slots, hslots with
  | _ :: _ :: _, _ => rfl

section
variable (hslots : 2 ≤ slots.length)

include hslots

theorem ne_nil_of_several : slots ≠ [] :=
  List.ne_nil_of_length_pos (Nat.lt_of_lt_of_le Nat.two_pos hslots)

theorem decodeBody_of_noArray (hparse : Json.parse body = .ok v) (hv : ∀ vs, v ≠ .array vs) :
    decodeBody fill body slots = (slots, some (.expectedArray slots.length)) := by
  rw [decodeBody_of_ok (ne_nil_of_several hslots) hparse, fillFrom_of_noArray hslots hv]

theorem decodeBody_of_otherLength {m : Nat} (harray : HoldsArray body m vs) (hlength : m ≠ slots.length) :
    decodeBody fill body slots = (slots, some (.arity slots.length m)) := by
  obtain ⟨hparse, rfl⟩ := harray
  rw [decodeBody_of_ok (ne_nil_of_several hslots) hparse, fillFrom_array hslots, if_neg hlength]

theorem decodeBody_of_array (harray : HoldsArray body slots.length vs) :
    decodeBody fill body slots = fillAll fill slots vs := by
  rw [decodeBody_of_ok (ne_nil_of_several hslots) harray.1, fillFrom_array hslots, if_pos harray.2]

theorem decodeBody_of_fitsAll (harray : HoldsArray body slots.length vs) (hall : FitsAll fill slots vs) :
    ∃ filled, decodeBody fill body slots = (filled, none) ∧ FilledUpTo fill slots.length slots vs filled := by
  rw [decodeBody_of_array hslots harray]
  rcases fillAll_cases harray.2 with ⟨filled, hfill, -, hfilled⟩ | ⟨-, k, fault, -, hmisfit, -⟩
  · exact ⟨filled, hfill, hfilled⟩
  · exact absurd hall hmisfit.not_fitsAll

theorem decodeBody_of_not_fitsAll (harray : HoldsArray body slots.length vs) (hnot : ¬FitsAll fill slots vs) :
    ∃ filled k fault, decodeBody fill body slots = (filled, some (misfit fault)) ∧
      IsFirstMisfit fill slots vs k fault ∧ FilledUpTo fill k slots vs filled := by
  rw [decodeBody_of_array hslots harray]
  rcases fillAll_cases harray.2 with ⟨-, -, hall, -⟩ | h
  · exact absurd hall hnot
  · exact h

theorem ends_of_decodeBody (h : decodeBody fill body slots = (filled, e?)) : Ends fill body slots filled e? := by
  cases hparse : Json.parse body with
  | error e =>
    cases (decodeBody_of_unreadable (ne_nil_of_several hslots) hparse).symm.trans h
    exact .unreadable hparse
  | ok v =>
    by_cases hv : ∀ vs, v ≠ .array vs
    · cases (decodeBody_of_noArray hslots hparse hv).symm.trans h
      exact .noArray hparse hv
    · obtain ⟨vs, rfl⟩ : ∃ vs, v = .array vs := by simpa using hv
      by_cases hlength : vs.length = slots.length
      · have harray : HoldsArray body slots.length vs := ⟨hparse, hlength⟩
        by_cases hall : FitsAll fill slots vs
        · obtain ⟨filled', hdecode, -⟩ := decodeBody_of_fitsAll hslots harray hall
          cases hdecode.symm.trans h
          exact .filled harray hall
        · obtain ⟨filled', k, fault, hdecode, -⟩ := decodeBody_of_not_fitsAll hslots harray hall
          cases hdecode.symm.trans h
          exact .stopped harray hall
      · have harray : HoldsArray body vs.length vs := ⟨hparse, rfl⟩
        cases (decodeBody_of_otherLength hslots harray hlength).symm.trans h
        exact .otherLength harray hlength

theorem decodesSeveral (h : decodeBody fill body slots = (filled, e?)) : DecodesSeveral fill body slots filled e? where
  ok_iff := by
    constructor
    · rintro rfl
      cases ends_of_decodeBody hslots h with
      | filled harray hall => exact ⟨_, harray, hall⟩
    · rintro ⟨vs, harray, hall⟩
      obtain ⟨filled', hdecode, -⟩ := decodeBody_of_fitsAll hslots harray hall
      cases hdecode.symm.trans h
      rfl
  json_iff := by
    constructor
    · rintro ⟨e, rfl⟩
      cases ends_of_decodeBody hslots h with
      | unreadable hparse => exact Or.inl ⟨e, hparse⟩
      | stopped harray hnot => exact Or.inr ⟨_, harray, hnot⟩
    · rintro (⟨e, hparse⟩ | ⟨vs, harray, hnot⟩)
      · cases (decodeBody_of_unreadable (ne_nil_of_several hslots) hparse).symm.trans h
        exact ⟨e, rfl⟩
      · obtain ⟨filled', k, fault, hdecode, -⟩ := decodeBody_of_not_fitsAll hslots harray hnot
        cases hdecode.symm.trans h
        exact ⟨_, rfl⟩
  expectedArray_iff n := by
    constructor
    · rintro rfl
      cases ends_of_decodeBody hslots h with
      | noArray hparse hv => exact ⟨rfl, _, hparse, hv⟩
    · rintro ⟨rfl, v, hparse, hv⟩
      cases (decodeBody_of_noArray hslots hparse hv).symm.trans h
      rfl
  arity_iff n m := by
    constructor
    · rintro rfl
      cases ends_of_decodeBody hslots h with
      | otherLength harray hlength => exact ⟨rfl, hlength, _, harray⟩
    · rintro ⟨rfl, hlength, vs, harray⟩
      cases (decodeBody_of_otherLength hslots harray hlength).symm.trans h
      rfl
  unreadable e hparse := by
    cases (decodeBody_of_unreadable (ne_nil_of_several hslots) hparse).symm.trans h
    rfl
  replaced vs harray hall := by
    obtain ⟨filled', hdecode, hfilled⟩ := decodeBody_of_fitsAll hslots harray hall
    cases hdecode.symm.trans h
    exact hfilled
  stopped vs harray hnot := by
    obtain ⟨filled', k, fault, hdecode, hmisfit, hfilled⟩ := decodeBody_of_not_fitsAll hslots harray hnot
    cases hdecode.symm.trans h
    exact ⟨k, fault, hmisfit, rfl, hfilled⟩
  kept hnone := by
    cases ends_of_decodeBody hslots h with
    | unreadable | noArray | otherLength => rfl
    | stopped harray | filled harray => exact absurd harray (hnone _)

end

theorem decode_jsonCodec (fill : Slot → Json → Except JsonFault Slot) (toJson : Value → Except JsonFault Json) (r : Request)
    (slots : List Slot) (x : Exchange) :
    (jsonCodec fill toJson).decode r slots x = (decodeBody fill r.body slots, x) := rfl

/-- Decoding a body changes nothing but slots. Without slots it always succeeds; one slot takes the value of the body if
that fits; several take the elements of an array, each failure has its own error, and what is left of the slots is
told for every way to end. -/
theorem decode_outcome (fill : Slot → Json → Except JsonFault Slot) (toJson : Value → Except JsonFault Json) (r : Request)
    (slots : List Slot) (x : Exchange) :
    ∃ filled e?, (jsonCodec fill toJson).decode r slots x = ((filled, e?), x) ∧
      (slots = [] → filled = [] ∧ e? = none) ∧
      (∀ slot, slots = [slot] → DecodesOne fill r.body slot filled e?) ∧
      (2 ≤ slots.length → DecodesSeveral fill r.body slots filled e?) := by
  refine ⟨(decodeBody fill r.body slots).1, (decodeBody fill r.body slots).2, decode_jsonCodec .., ?_, ?_, ?_⟩
  · rintro rfl
    exact ⟨rfl, rfl⟩
  · rintro slot rfl
    exact decodesOne fill r.body slot
  · exact fun hslots => decodesSeveral hslots rfl

/-- Of three integer slots the second cannot take `true`: the first is replaced by its element, the others keep their
values. -/
theorem decode_outcome_misfit :
    let slot (n : Int) : Datum := .ofBounded (Numeric.Bounded.wrap n : Numeric.Bounded .natural8)
    let body : List UInt8 := [0x5B, 0x31, 0x2C, 0x74, 0x72, 0x75, 0x65, 0x2C, 0x33, 0x5D]
    Json.parse body = .ok (.array [.integer 1, .bool true, .integer 3]) ∧
      DecodesSeveral Datum.fill body [slot 7, slot 8, slot 9] [slot 1, slot 8, slot 9]
        (some (.json ⟨.invalidType (.bool true) "u8", none⟩)) := by
  intro slot body
  have hparse : Json.parse body = .ok (.array [.integer 1, .bool true, .integer 3]) := by
    dsimp only [body]
    rfl
  have hdecode : decodeBody Datum.fill body [slot 7, slot 8, slot 9] =
      ([slot 1, slot 8, slot 9], some (.json ⟨.invalidType (.bool true) "u8", none⟩)) := by
    dsimp only [body, slot]
    rfl
  obtain ⟨filled, e?, hrun, -, -, hseveral⟩ := decode_outcome Datum.fill Datum.toJson
    ⟨"POST", "/f", .empty, body⟩ [slot 7, slot 8, slot 9] (.start none)
  rw [decode_jsonCodec, hdecode] at hrun
  obtain ⟨rfl, rfl⟩ := Prod.mk.inj (Prod.mk.inj hrun).1
  exact ⟨hparse, hseveral (Nat.le_add_left 2 1)⟩

end Switchboard.JsonMessage
