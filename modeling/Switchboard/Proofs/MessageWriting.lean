import Mathlib.Data.List.Forall2
import Switchboard.Sample.Handlers

/-! # What writing a message changes

All values are converted before the response is touched. So the first value that has no JSON ends the writing with the
response as it was (`readAll_error_iff`), and otherwise there is nothing left that can fail: the text of the message is
added to the body, and the header for the kind of a body has one value. A response takes all bytes that are written. -/

namespace Switchboard

/-! ### Converting values in order -/

namespace Payload

variable {α β : Type} {read : α → Except JsonFault β} {a : α} {as : List α} {bs : List β} {fault : JsonFault}

theorem readAll_cons_ok_iff : readAll read (a :: as) = .ok bs ↔
    ∃ b cs, read a = .ok b ∧ readAll read as = .ok cs ∧ bs = b :: cs := by
  rw [readAll]
  cases read a with
  | error fault => simp
  | ok b =>
    cases readAll read as with
    | error fault => simp [Except.map]
    | ok cs => simp [Except.map, eq_comm]

theorem readAll_cons_error_iff : readAll read (a :: as) = .error fault ↔
    read a = .error fault ∨ ∃ b, read a = .ok b ∧ readAll read as = .error fault := by
  rw [readAll]
  cases read a with
  | error fault => simp
  | ok b => cases readAll read as <;> simp [Except.map]

theorem readAll_ok_iff : readAll read as = .ok bs ↔ List.Forall₂ (fun a b => read a = .ok b) as bs := by
  induction as generalizing bs with
  | nil => simp [readAll, eq_comm]
  | cons a as ih =>
    rw [readAll_cons_ok_iff, List.forall₂_cons_left_iff]
    simp only [ih]

/-- The fault is that of the first value that has one. -/
theorem readAll_error_iff : readAll read as = .error fault ↔ ∃ front a back, as = front ++ a :: back ∧
    (∀ b ∈ front, ∃ c, read b = .ok c) ∧ read a = .error fault := by
  induction as with
  | nil => simp [readAll]
  | cons a as ih =>
    rw [readAll_cons_error_iff, ih]
    constructor
    · rintro (hfault | ⟨c, hc, front, a', back, rfl, hfront, hfault⟩)
      · exact ⟨[], a, as, rfl, nofun, hfault⟩
      · exact ⟨a :: front, a', back, rfl, List.forall_mem_cons.mpr ⟨⟨c, hc⟩, hfront⟩, hfault⟩
    · rintro ⟨front, a', back, hsplit, hfront, hfault⟩
      cases front with
      | nil =>
        cases hsplit
        exact Or.inl hfault
      | cons b front =>
        cases hsplit
        obtain ⟨⟨c, hc⟩, hfront⟩ := List.forall_mem_cons.mp hfront
        exact Or.inr ⟨c, hc, front, a', back, rfl, hfront, hfault⟩

end Payload

/-! ### The text of an array -/

theorem Json.compactElements_eq (vs : List Json) : compactElements vs = ",".intercalate (vs.map compact) := by
  induction vs with
  | nil => rfl
  | cons v vs ih =>
    cases vs with
    | nil => rfl
    | cons w rest =>
      rw [compactElements, ih]
      exact (String.intercalate_cons_cons ..).symm

theorem Json.compact_array (vs : List Json) : (Json.array vs).compact = "[" ++ ",".intercalate (vs.map compact) ++ "]" := by
  rw [compact, compactElements_eq]

/-! ### The header for the kind of a body -/

namespace Headers

theorem storedName?_contentType : storedName? contentType = some contentType := by decide

theorem insert_contentType (h : Headers) : h.insert contentType jsonContent = ⟨h.values.set contentType [jsonContent]⟩ := by
  have hvalue : isValue jsonContent = true := by decide
  rw [insert, storedName?_contentType]
  exact if_pos hvalue

theorem all_of_storedName? {h : Headers} {name n : String} (hname : storedName? name = some n) :
    h.all name = (h.values.get? n).getD [] := by
  rw [all, hname]

end Headers

/-- A JSON text was written to a response: it stands behind the body, and the header for the kind of a body has one value,
however its name is written. All else is as it was. -/
structure Response.IsWrittenTo (before after : Response) (text : String) : Prop where
  status : after.status = before.status
  body : after.body = before.body ++ Text.utf8 text
  kind : ∀ name, Headers.storedName? name = some contentType → after.headers.all name = [jsonContent]
  others : ∀ name, name ≠ contentType → after.headers.values.get? name = before.headers.values.get? name

namespace JsonMessage

variable {Slot Value : Type}

/-! ### The message of some values -/

/-- The message of values that are converted. -/
def messageOfAll : List Json → Option Json
  | [] => none
  | [v] => some v
  | vs => some (.array vs)

theorem messageOfAll_several {vs : List Json} (h : 2 ≤ vs.length) : messageOfAll vs = some (.array vs) := by
  match vs, h with
  | _ :: _ :: _, _ => rfl

theorem messageOf_eq (toJson : Value → Except JsonFault Json) (values : List Value) :
    messageOf toJson values = (Payload.readAll toJson values).map messageOfAll := by
  match values with
  | [] => rfl
  | [value] =>
    rw [messageOf, Payload.readAll]
    cases toJson value <;> rfl
  | a :: b :: rest =>
    rw [messageOf]
    · cases hvs : Payload.readAll toJson (a :: b :: rest) with
      | error fault => rfl
      | ok vs =>
        have hlength : (a :: b :: rest).length = vs.length := (Payload.readAll_ok_iff.mp hvs).length_eq
        have hseveral : 2 ≤ vs.length := hlength ▸ Nat.le_add_left 2 rest.length
        exact congrArg Except.ok (messageOfAll_several hseveral).symm
    · nofun
    · nofun

/-- The response behind a message. -/
def written (response : Response) : Option Json → Response
  | none => response
  | some v => (response.setHeader contentType jsonContent).write (Text.utf8 v.compact)

theorem isWrittenTo_written (response : Response) (v : Json) : response.IsWrittenTo (written response (some v)) v.compact where
  status := rfl
  body := rfl
  kind name hname := by
    rw [Headers.all_of_storedName? hname, written, Response.write, Response.setHeader, Headers.insert_contentType,
      NameMap.get?_set_self]
    rfl
  others name hname := by
    rw [written, Response.write, Response.setHeader, Headers.insert_contentType, NameMap.get?_set, if_neg hname.symm]

section
variable (toJson : Value → Except JsonFault Json) {values : List Value} (response : Response) (events : List Event)
  (notes : List String)

theorem encodeValues_of_fault {fault : JsonFault} (h : Payload.readAll toJson values = .error fault) :
    encodeValues toJson values ⟨⟨response, none⟩, events, notes⟩ =
      (some (.json ⟨fault, none⟩), ⟨⟨response, none⟩, events, notes⟩) := by
  rw [encodeValues, messageOf_eq, h]
  rfl

theorem encodeValues_of_converted {vs : List Json} (h : Payload.readAll toJson values = .ok vs) :
    encodeValues toJson values ⟨⟨response, none⟩, events, notes⟩ =
      (none, ⟨⟨written response (messageOfAll vs), none⟩, events, notes⟩) := by
  rw [encodeValues, messageOf_eq, h]
  cases hmessage : messageOfAll vs with
  | none =>
    simp only [Except.map, hmessage]
    rfl
  | some v =>
    simp only [Except.map, hmessage]
    rfl

end

/-- Writing values to a response either fails at the first value that has no JSON, and then changes nothing, or converts all
values and writes their message: none for no value, the text of a single one, and that of an array for several. -/
theorem encode_outcome (fill : Slot → Json → Except JsonFault Slot) (toJson : Value → Except JsonFault Json)
    (values : List Value) (response : Response) (events : List Event) (notes : List String) :
    let run := (jsonCodec fill toJson).encode values ⟨⟨response, none⟩, events, notes⟩
    (∃ front value back fault, values = front ++ value :: back ∧ (∀ a ∈ front, ∃ v, toJson a = .ok v) ∧
      toJson value = .error fault ∧ run = (some (.json ⟨fault, none⟩), ⟨⟨response, none⟩, events, notes⟩)) ∨
    ∃ vs after, List.Forall₂ (fun a v => toJson a = .ok v) values vs ∧
      run = (none, ⟨⟨after, none⟩, events, notes⟩) ∧
      (values = [] → after = response) ∧
      (∀ v, vs = [v] → response.IsWrittenTo after v.compact) ∧
      (2 ≤ values.length → response.IsWrittenTo after ("[" ++ ",".intercalate (vs.map Json.compact) ++ "]")) := by
  intro run
  cases hvs : Payload.readAll toJson values with
  | error fault =>
    obtain ⟨front, value, back, hsplit, hfront, hfault⟩ := Payload.readAll_error_iff.mp hvs
    exact Or.inl ⟨front, value, back, fault, hsplit, hfront, hfault,
      encodeValues_of_fault toJson response events notes hvs⟩
  | ok vs =>
    have hconverted : List.Forall₂ (fun a v => toJson a = .ok v) values vs := Payload.readAll_ok_iff.mp hvs
    refine Or.inr ⟨vs, written response (messageOfAll vs), hconverted,
      encodeValues_of_converted toJson response events notes hvs, ?_, ?_, fun hseveral => ?_⟩
    · rintro rfl
      cases hconverted
      rfl
    · rintro v rfl
      exact isWrittenTo_written response v
    · rw [messageOfAll_several (hconverted.length_eq ▸ hseveral), ← Json.compact_array]
      exact isWrittenTo_written response (.array vs)

end JsonMessage

end Switchboard
