import Switchboard.Proofs.Handlers
import Switchboard.Proofs.JsonText
import Switchboard.Proofs.MessageWriting
import Switchboard.Proofs.SlotFilling

/-! # Messages that are read back

What is written for some values is read back into as many slots. The number of values and the number of slots choose the
form of the message on either side, so a single value stands for itself even if its JSON is an array, and several values
are always the elements of one. What is left is that the text of the message is read as that message (`parse_message`). -/

namespace Switchboard.JsonMessage

variable {D : Type}

/-- A slot takes a value back from its JSON. -/
def TakesBack (fill : D → Json → Except JsonFault D) (toJson : D → Except JsonFault Json) (slot d : D) : Prop :=
  ∃ v, toJson d = .ok v ∧ fill slot v = .ok d

variable {fill : D → Json → Except JsonFault D} {toJson : D → Except JsonFault Json} {slots values : List D}

/-- Slots that take back values are filled with them from the values' JSON. -/
theorem exists_converted (h : List.Forall₂ (TakesBack fill toJson) slots values) :
    ∃ vs, Payload.readAll toJson values = .ok vs ∧ vs.length = slots.length ∧ fillAll fill slots vs = (values, none) := by
  induction h with
  | nil => exact ⟨[], rfl, rfl, rfl⟩
  | @cons slot d slots values hd _ ih =>
    obtain ⟨v, hv, hfill⟩ := hd
    obtain ⟨vs, hvs, hlength, hfillAll⟩ := ih
    refine ⟨v :: vs, Payload.readAll_cons_ok_iff.mpr ⟨v, vs, hv, hvs, rfl⟩, congrArg (· + 1) hlength, ?_⟩
    rw [fillAll, hfill, hfillAll]

/-- A message fills the slots from the values that it was made of. -/
theorem decodeBody_of_message {body : List UInt8} {vs : List Json} (hlength : vs.length = slots.length)
    (hparse : ∀ v, messageOfAll vs = some v → Json.parse body = .ok v) :
    decodeBody fill body slots = fillAll fill slots vs := by
  match slots, vs, hlength with
  | [], [], _ => rfl
  | [slot], [v], _ => rw [decodeBody_of_ok (List.cons_ne_nil slot []) (hparse v rfl), fillFrom]
  | slot :: slot' :: rest, v :: w :: vs, hlength =>
    exact decodeBody_of_array (Nat.le_add_left 2 _) ⟨hparse _ rfl, hlength⟩

/-- A message is read from its text if the JSON of each value is, with one bracket to spare. -/
theorem parse_message {depth : Nat} (hdepth : depth < Json.deepest)
    (hvalues : ∀ a ∈ values, ∀ v, toJson a = .ok v → Json.IsReadBack depth v) {v : Json}
    (hv : messageOf toJson values = .ok (some v)) : Json.parse (Text.utf8 v.compact) = .ok v := by
  rw [messageOf_eq] at hv
  cases hvs : Payload.readAll toJson values with
  | error fault =>
    rw [hvs] at hv
    cases hv
  | ok vs =>
    have hread : ∀ w ∈ vs, Json.IsReadBack depth w := by
      intro w hw
      obtain ⟨a, ha, hconverted⟩ := exists_of_forall₂ (Payload.readAll_ok_iff.mp hvs) w hw
      exact hvalues a ha w hconverted
    rw [hvs] at hv
    refine Json.parse_compact ?_
    match vs, hread, hv with
    | [w], hread, hv =>
      cases hv
      exact (hread _ List.mem_cons_self).mono (Nat.le_of_lt hdepth)
    | w :: w' :: rest, hread, hv =>
      cases hv
      exact (Json.IsReadBack.array hread).mono hdepth

/-- Values that are written to a fresh response are read back from its body into slots that take them back, provided the
text of their message is read as that message. -/
theorem decode_encode {slots values : List D} (hvalues : List.Forall₂ (TakesBack fill toJson) slots values)
    (hprinted : ∀ v, messageOf toJson values = .ok (some v) → Json.parse (Text.utf8 v.compact) = .ok v)
    (r : Request) (events : List Event) (notes : List String) (y : Exchange) :
    let run := (jsonCodec fill toJson).encode values ⟨.fresh none, events, notes⟩
    run.1 = none ∧
      (jsonCodec fill toJson).decode (r.withBody run.2.writer.response.body) slots y = ((values, none), y) := by
  intro run
  obtain ⟨vs, hvs, hlength, hfill⟩ := exists_converted hvalues
  have hrun : run = (none, ⟨⟨written .fresh (messageOfAll vs), none⟩, events, notes⟩) :=
    encodeValues_of_converted toJson .fresh events notes hvs
  refine ⟨congrArg Prod.fst hrun, ?_⟩
  rw [hrun, decode_jsonCodec, ← hfill]
  refine congrArg (·, y) (decodeBody_of_message hlength fun v hv => ?_)
  have hbody : (written .fresh (some v)).body = Text.utf8 v.compact := rfl
  change Json.parse (written .fresh (messageOfAll vs)).body = .ok v
  rw [hv, hbody]
  exact hprinted v (by rw [messageOf_eq, hvs, ← hv]; rfl)

/-- A list that is the only value is not split, and one that is the first of two values is not merged with the other. -/
theorem decode_encode_list :
    let list (ns : List Int) : Datum := ⟨.list (.integer .natural8), ns.map (Numeric.Bounded.wrap ·)⟩
    let codec := jsonCodec Datum.fill Datum.toJson
    let body (values : List Datum) := (codec.encode values (.start none)).2.writer.response.body
    let read (values slots : List Datum) := codec.decode ⟨"POST", "/f", .empty, body values⟩ slots (.start none)
    read [list [1, 2]] [list []] = (([list [1, 2]], none), .start none) ∧
      read [list [1, 2], .ofString "\"\n"] [list [], .ofString ""] =
        (([list [1, 2], .ofString "\"\n"], none), .start none) := by
  intro list codec body read
  have hlist : TakesBack Datum.fill Datum.toJson (list []) (list [1, 2]) := ⟨.array [.integer 1, .integer 2], rfl, rfl⟩
  have htext : TakesBack Datum.fill Datum.toJson (.ofString "") (.ofString "\"\n") := ⟨.string "\"\n", rfl, rfl⟩
  have hreadList (v : Json) (hv : (list [1, 2]).toJson = .ok v) : Json.IsReadBack 1 v := by
    obtain rfl : v = .array [.integer 1, .integer 2] := (Except.ok.inj hv).symm
    have hone : Json.IsReadBack 0 (.integer 1) := .integer ⟨by decide, by decide⟩
    have htwo : Json.IsReadBack 0 (.integer 2) := .integer ⟨by decide, by decide⟩
    exact .array (List.forall_mem_cons.mpr ⟨hone, List.forall_mem_singleton.mpr htwo⟩)
  have hreadText (v : Json) (hv : (Datum.ofString "\"\n").toJson = .ok v) : Json.IsReadBack 1 v := by
    obtain rfl : v = .string "\"\n" := (Except.ok.inj hv).symm
    exact .string _
  have hdepth : 1 < Json.deepest := by decide
  let r : Request := ⟨"POST", "/f", .empty, []⟩
  constructor
  · have hread := fun v => parse_message (v := v) hdepth (List.forall_mem_singleton.mpr hreadList)
    exact (decode_encode (.cons hlist .nil) hread r [] [] (.start none)).2
  · have hread := fun v => parse_message (v := v) hdepth
      (List.forall_mem_cons.mpr ⟨hreadList, List.forall_mem_singleton.mpr hreadText⟩)
    exact (decode_encode (.cons hlist (.cons htext .nil)) hread r [] [] (.start none)).2

end Switchboard.JsonMessage
