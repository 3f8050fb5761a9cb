import Switchboard.Proofs.RegistrationScope
import Switchboard.Sample.Handlers

/-! # What serving a request calls

Serving a request calls the codec, the handler and the hooks. Here each call is written down as it is made
(`Service.recorded`), which changes nothing else. So a run can be told by all the calls that it has made, and `IsServed`
has one rule for each way in which it can go.

What a call is given is found by following the variables of the plan. The locals that are decoded keep their order, and
no two have one name, so each gets the value of its place (`handedValues_refill`) and passes it to the parameter of its
number, whatever stands between the parameters (`IsNumbered.handsOver`). -/

namespace Switchboard

variable {Slot Value : Type}

/-! ### Calls -/

/-- A call that serving a request can make. -/
inductive ServiceCall (Slot Value : Type) where
  | decode (r : Request) (slots : List Slot)
  | handle (arguments : List (Argument Slot))
  | encode (values : List Value)
  | requestError (r : Request) (e : CodecFault)
  | responseError (r : Request) (e : CodecFault)

/-- Steps of serving a request, with the calls that were made. -/
abbrev Recording (Slot Value : Type) : Type → Type :=
  StateT (List (ServiceCall Slot Value)) Serving

/-- Makes a call and writes it down. -/
def ServiceCall.record {α : Type} (call : ServiceCall Slot Value) (step : Serving α) : Recording Slot Value α :=
  fun calls x => (((step x).1, calls ++ [call]), (step x).2)

section

variable {α β : Type}

theorem Serving.bind_apply (step : Serving α) (f : α → Serving β) (x : Exchange) :
    (step >>= f) x = f (step x).1 (step x).2 := rfl

theorem Recording.bind_apply (step : Recording Slot Value α) (f : α → Recording Slot Value β)
    (calls : List (ServiceCall Slot Value)) (x : Exchange) :
    (step >>= f) calls x = f (step calls x).1.1 (step calls x).1.2 (step calls x).2 := rfl

theorem ServiceCall.record_apply {call : ServiceCall Slot Value} {step : Serving α} {x y : Exchange} {a : α}
    (h : step x = (a, y)) (calls : List (ServiceCall Slot Value)) :
    call.record step calls x = ((a, calls ++ [call]), y) := by
  rw [record, h]

end

/-- The service with all its calls written down. -/
def Service.recorded (s : Service Serving Slot Value) : Service (Recording Slot Value) Slot Value where
  initial := s.initial
  body arguments := (ServiceCall.handle arguments).record (s.body arguments)
  codec := {
    decode r slots := (ServiceCall.decode r slots).record (s.codec.decode r slots)
    encode values := (ServiceCall.encode values).record (s.codec.encode values) }
  hooks := {
    requestError r e := (ServiceCall.requestError r e).record (s.hooks.requestError r e)
    responseError r e := (ServiceCall.responseError r e).record (s.hooks.responseError r e) }

/-- What the transport passes, as an argument. -/
def Injected.argument (r : Request) : Injected → Argument Slot
  | request => .request r
  | responseWriter => .responseWriter

namespace Descriptor

variable (d : Descriptor) (s : Service Serving Slot Value) (r : Request)

/-! ### Runs -/

/-- The place of a parameter among those that are decoded. -/
def dataIndex (i : Nat) : Nat :=
  ((d.parameters.take i).filter (·.role.isData)).length

/-- The handler's arguments: of the parameters that are decoded, each gets the slot of its place among them, and what the
transport passes goes to the parameters that ask for it. -/
structure HandsOver (slots : List Slot) (arguments : List (Argument Slot)) : Prop where
  length : arguments.length = d.parameters.length
  data : ∀ (i : Nat) (p : DescribedParameter) (slot : Slot), d.parameters[i]? = some p → p.role.isData = true →
    slots[d.dataIndex i]? = some slot → arguments[i]? = some (.data slot)
  injected : ∀ (i : Nat) (p : DescribedParameter) (what : Injected), d.parameters[i]? = some p →
    p.role = .injected what → arguments[i]? = some (what.argument r)

/-- How a run goes on when the slots are filled: the handler is called, then its results are encoded if it has any, and then
the hook is called if that failed. What a handler returns are as many results as it declares. -/
inductive Finishes (slots : List Slot) (x : Exchange) : List (ServiceCall Slot Value) → Exchange → Prop where
  | silent {arguments : List (Argument Slot)} {results : List Value} {y : Exchange} (hresults : d.results = [])
      (harguments : d.HandsOver r slots arguments) (hbody : s.body arguments x = (results, y)) :
      Finishes slots x [.handle arguments] y
  | encoded {arguments : List (Argument Slot)} {results values : List Value} {y z : Exchange} (hresults : d.results ≠ [])
      (harguments : d.HandsOver r slots arguments) (hbody : s.body arguments x = (results, y))
      (hvalues : results.length = d.results.length → values = results) (hencode : s.codec.encode values y = (none, z)) :
      Finishes slots x [.handle arguments, .encode values] z
  | unencoded {arguments : List (Argument Slot)} {results values : List Value} {e : CodecFault} {y z : Exchange}
      (hresults : d.results ≠ []) (harguments : d.HandsOver r slots arguments)
      (hbody : s.body arguments x = (results, y)) (hvalues : results.length = d.results.length → values = results)
      (hencode : s.codec.encode values y = (some e, z)) :
      Finishes slots x [.handle arguments, .encode values, .responseError r e] (s.hooks.responseError r e z).2

/-- How a request is served. Without data parameters nothing is decoded. Otherwise the locals' initial values are
filled first; if that fails, only the hook is called, on a response that is as it was before. What a codec fills are as many
slots as it is given. -/
inductive IsServed (x : Exchange) : List (ServiceCall Slot Value) → Exchange → Prop where
  | direct {calls : List (ServiceCall Slot Value)} {y : Exchange} (hdata : d.dataParameters = [])
      (hfinish : d.Finishes s r [] x calls y) : IsServed x calls y
  | refused {filled : List Slot} {e : CodecFault} {y : Exchange} (hdata : d.dataParameters ≠ [])
      (hdecode : s.codec.decode r (d.registration.locals.map s.initial) x = ((filled, some e), y))
      (hwriter : y.writer = x.writer) :
      IsServed x [.decode r (d.registration.locals.map s.initial), .requestError r e] (s.hooks.requestError r e y).2
  | decoded {filled slots : List Slot} {calls : List (ServiceCall Slot Value)} {y z : Exchange}
      (hdata : d.dataParameters ≠ [])
      (hdecode : s.codec.decode r (d.registration.locals.map s.initial) x = ((filled, none), y))
      (hslots : filled.length = d.dataParameters.length → slots = filled) (hfinish : d.Finishes s r slots y calls z) :
      IsServed x (.decode r (d.registration.locals.map s.initial) :: calls) z

end Descriptor

/-! ### Variables and their values -/

theorem get?_zip {α : Type} {names : List String} {values : List α} (h : names.Nodup) (k : Nat) {name : String}
    (hname : names[k]? = some name) : NameMap.get? (names.zip values) name = values[k]? := by
  induction names generalizing k values with
  | nil => cases hname
  | cons n names ih =>
    obtain ⟨hnew, h⟩ := List.nodup_cons.mp h
    cases values with
    | nil => rfl
    | cons a values =>
      rw [List.zip_cons_cons, NameMap.get?_cons]
      cases k with
      | zero =>
        obtain rfl := Option.some.inj hname
        rw [if_pos rfl]
        rfl
      | succ k =>
        rw [List.getElem?_cons_succ] at hname
        have hne : n ≠ name := fun e => hnew (e ▸ List.mem_of_getElem? hname)
        rw [if_neg hne, ih h k hname, List.getElem?_cons_succ]

/-- Where all elements are kept, they keep their places. -/
theorem getElem?_filterMap_of_isSome {α β : Type} {f : α → Option β} {as : List α} (h : ∀ a ∈ as, (f a).isSome = true)
    (k : Nat) : (as.filterMap f)[k]? = as[k]?.bind f := by
  induction as generalizing k with
  | nil => rfl
  | cons a as ih =>
    obtain ⟨ha, h⟩ := List.forall_mem_cons.mp h
    obtain ⟨b, hb⟩ := Option.isSome_iff_exists.mp ha
    rw [List.filterMap_cons, hb]
    cases k with
    | zero => exact hb.symm
    | succ k => exact ih h k

namespace Registration

/-- Of variables that have so many values, all values are handed on in order. -/
theorem handedValues_of_get? {α : Type} {values : NameMap α} {handed : List Handed} {as : List α}
    (hlength : as.length = handed.length)
    (h : ∀ (k : Nat) (v : Handed) (a : α), handed[k]? = some v → as[k]? = some a → values.get? v.variableName = some a) :
    handedValues values handed = as := by
  have found (k : Nat) (v : Handed) (hk : handed[k]? = some v) : values.get? v.variableName = as[k]? := by
    have hlt : k < as.length := hlength ▸ (List.getElem?_eq_some_iff.mp hk).1
    rw [List.getElem?_eq_getElem hlt]
    exact h k v _ hk (List.getElem?_eq_getElem hlt)
  have all : ∀ v ∈ handed, (values.get? v.variableName).isSome = true := by
    intro v hv
    obtain ⟨k, hk⟩ := List.getElem?_of_mem hv
    have hlt : k < as.length := hlength ▸ (List.getElem?_eq_some_iff.mp hk).1
    rw [found k v hk, List.getElem?_eq_getElem hlt]
    rfl
  refine List.ext_getElem? fun k => ?_
  rw [handedValues, getElem?_filterMap_of_isSome all]
  cases hk : handed[k]? with
  | some v => exact found k v hk
  | none =>
    have hle : as.length ≤ k := hlength ▸ List.getElem?_eq_none_iff.mp hk
    exact (List.getElem?_eq_none hle).symm

theorem handedValues_zip {α : Type} {handed : List Handed} {as : List α} (h : (handed.map (·.variableName)).Nodup)
    (hlength : as.length = handed.length) :
    handedValues ((handed.map (·.variableName)).zip as) handed = as := by
  refine handedValues_of_get? hlength fun k v a hk ha => ?_
  rw [get?_zip h k (by rw [List.getElem?_map, hk, Option.map_some]), ha]

/-- What is refilled are variables that keep a value, -/
theorem isSome_refill {slots : NameMap Slot} {name : String} (h : (slots.get? name).isSome = true) (handed : List Handed)
    (filled : List Slot) : ((refill slots handed filled).get? name).isSome = true := by
  rw [refill]
  generalize handed.zip filled = pairs
  induction pairs generalizing slots with
  | nil => exact h
  | cons p pairs ih =>
    refine ih ?_
    rw [NameMap.get?_set]
    split
    · rfl
    · exact h

/-- and all of them get the new values, if these are as many. -/
theorem handedValues_refill {slots : NameMap Slot} {handed : List Handed} {filled : List Slot}
    (h : (handed.map (·.variableName)).Nodup) (hlength : filled.length = handed.length) :
    handedValues (refill slots handed filled) handed = filled := by
  have hzip : refill slots handed filled =
      ((handed.map (·.variableName)).zip filled).foldl (fun m p => m.set p.1 p.2) slots := by
    rw [List.zip_map_left, List.foldl_map]
    rfl
  have hnames : (((handed.map (·.variableName)).zip filled).map (·.1)).Nodup := by
    rwa [List.map_fst_zip (by rw [List.length_map, hlength])]
  refine handedValues_of_get? hlength fun k v slot hk hslot => ?_
  rw [hzip, NameMap.get?_foldl_set hnames, get?_zip h k (by rw [List.getElem?_map, hk, Option.map_some]), hslot]
  rfl

end Registration

/-! ### What the variables of a plan stand for -/

namespace Descriptor

variable {d : Descriptor}

theorem variableNames_locals : d.registration.locals.map (·.variableName) = d.dataParameters.map (·.variableName) := by
  rw [registration, filterMap_dataLocal?, List.map_map]
  rfl

theorem variableNames_decoded : d.registration.decoded.map (·.variableName) = d.dataParameters.map (·.variableName) := by
  rw [registration, filterMap_decoded?, List.map_map]
  rfl

theorem variableNames_encoded : d.registration.encoded.map (·.variableName) = d.results.map (·.variableName) := by
  rw [registration, List.map_map]
  rfl

/-- A parameter that is decoded has its place among those that are. -/
theorem getElem?_dataIndex {i : Nat} {p : DescribedParameter} (hi : d.parameters[i]? = some p)
    (hdata : p.role.isData = true) : d.dataParameters[d.dataIndex i]? = some p := by
  have hlt := (List.getElem?_eq_some_iff.mp hi).1
  have hsplit : d.parameters = d.parameters.take i ++ p :: d.parameters.drop (i + 1) := by
    have hp : d.parameters[i] = p := (List.getElem?_eq_some_iff.mp hi).2
    rw [← hp, List.getElem_cons_drop, List.take_append_drop]
  have hfilter : d.dataParameters =
      (d.parameters.take i).filter (·.role.isData) ++ p :: (d.parameters.drop (i + 1)).filter (·.role.isData) := by
    conv_lhs => rw [dataParameters, hsplit, List.filter_append, List.filter_cons, if_pos hdata]
  rw [hfilter, dataIndex, List.getElem?_append_right (Nat.le_refl _), Nat.sub_self]
  rfl

theorem isSome_initialSlots (initial : DataLocal → Slot) {p : DescribedParameter} (hp : p ∈ d.dataParameters) :
    ((d.registration.initialSlots initial).get? p.variableName).isSome = true := by
  refine NameMap.contains_iff_mem_names.mpr ?_
  have hmem : p.variableName ∈ d.registration.locals.map (·.variableName) :=
    variableNames_locals ▸ List.mem_map_of_mem hp
  simpa [NameMap.names, Registration.initialSlots] using hmem

namespace IsNumbered

variable (h : d.IsNumbered)

include h

/-- The locals start from their initial values. -/
theorem handedValues_initialSlots (initial : DataLocal → Slot) :
    Registration.handedValues (d.registration.initialSlots initial) d.registration.decoded =
      d.registration.locals.map initial := by
  have hnames : d.registration.locals.map (·.variableName) = d.registration.decoded.map (·.variableName) :=
    variableNames_locals.trans variableNames_decoded.symm
  have hzip : d.registration.initialSlots initial =
      (d.registration.decoded.map (·.variableName)).zip (d.registration.locals.map initial) := by
    rw [← hnames, List.zip_map']
    rfl
  rw [hzip]
  refine Registration.handedValues_zip ?_ ?_
  · rw [variableNames_decoded]
    exact h.nodup_dataVariables
  · have := congrArg List.length hnames
    simpa using this

theorem variableName_of_data {i : Nat} {p : DescribedParameter} (hi : d.parameters[i]? = some p)
    (hdata : p.role.isData = true) : p.variableName = parameterVariable i := by
  rw [h.parameters i p hi]
  cases hrole : p.role with
  | dataByValue | dataByPointer => rfl
  | injected => simp [hrole, NamedRole.isData] at hdata

theorem argument?_of_data {i : Nat} {p : DescribedParameter} (hi : d.parameters[i]? = some p)
    (hdata : p.role.isData = true) (slots : NameMap Slot) (r : Request) :
    Registration.argument? slots r p.variableName = (slots.get? p.variableName).map .data := by
  have hfixed : p.variableName ∉ fixedNames := h.variableName_of_data hi hdata ▸ parameterVariable_not_fixed i
  have hrequest : p.variableName ≠ Injected.request.variableName := fun e => hfixed (e ▸ by decide)
  have hwriter : p.variableName ≠ Injected.responseWriter.variableName := fun e => hfixed (e ▸ by decide)
  rw [Registration.argument?, if_neg hrequest, if_neg hwriter]

theorem argument?_of_injected {i : Nat} {p : DescribedParameter} {what : Injected} (hi : d.parameters[i]? = some p)
    (hrole : p.role = .injected what) (slots : NameMap Slot) (r : Request) :
    Registration.argument? slots r p.variableName = some (what.argument r) := by
  rw [h.parameters i p hi, hrole]
  cases what <;> rfl

/-- When all locals have values, these are handed over. -/
theorem handsOver {slots : NameMap Slot} (hslots : ∀ p ∈ d.dataParameters, (slots.get? p.variableName).isSome = true)
    (r : Request) : d.HandsOver r (Registration.handedValues slots d.registration.decoded)
      (d.registration.arguments.filterMap (Registration.argument? slots r)) := by
  have all : ∀ v ∈ d.registration.arguments, (Registration.argument? slots r v).isSome = true := by
    intro v hv
    obtain ⟨p, hp, rfl⟩ := List.mem_map.mp hv
    obtain ⟨i, hi⟩ := List.getElem?_of_mem hp
    cases hrole : p.role with
    | injected what =>
      rw [h.argument?_of_injected hi hrole]
      rfl
    | dataByValue | dataByPointer =>
      have hdata : p.role.isData = true := by rw [hrole]; rfl
      rw [h.argument?_of_data hi hdata, Option.isSome_map]
      exact hslots p (List.mem_filter.mpr ⟨hp, hdata⟩)
  have found {i : Nat} {p : DescribedParameter} (hi : d.parameters[i]? = some p) :
      (d.registration.arguments.filterMap (Registration.argument? slots r))[i]? =
        Registration.argument? slots r p.variableName := by
    have hargument : d.registration.arguments[i]? = some p.variableName := by
      rw [registration, List.getElem?_map, hi, Option.map_some]
    rw [getElem?_filterMap_of_isSome all, hargument, Option.bind_some]
  refine ⟨?_, fun i p slot hi hdata hslot => ?_, fun i p what hi hrole => ?_⟩
  · rw [List.filterMap_length_eq_length.mpr all, registration, List.length_map]
  · have hplace : (d.registration.decoded.map (·.variableName))[d.dataIndex i]? = some p.variableName := by
      rw [variableNames_decoded, List.getElem?_map, getElem?_dataIndex hi hdata, Option.map_some]
    obtain ⟨v, hv, hname⟩ := Option.map_eq_some_iff.mp (List.getElem?_map.symm.trans hplace)
    have held : ∀ v ∈ d.registration.decoded, (slots.get? v.variableName).isSome = true := by
      intro v hv
      have hmem : v.variableName ∈ d.dataParameters.map (·.variableName) := variableNames_decoded ▸ List.mem_map_of_mem hv
      obtain ⟨q, hq, hsame⟩ := List.mem_map.mp hmem
      exact hsame ▸ hslots q hq
    rw [Registration.handedValues, getElem?_filterMap_of_isSome held, hv, Option.bind_some, hname] at hslot
    rw [found hi, h.argument?_of_data hi hdata, hslot, Option.map_some]
  · rw [found hi, h.argument?_of_injected hi hrole]

end IsNumbered

/-! ### Runs of a plan -/

variable (s : Service Serving Slot Value) (r : Request)

/-- The results of a handler are handed on in order, if they are as many as it declares. -/
theorem IsNumbered.handedValues_results (h : d.IsNumbered) {results : List Value}
    (hlength : results.length = d.results.length) :
    Registration.handedValues (d.registration.results.variableNames.zip results) d.registration.encoded = results := by
  have hnames : d.registration.results.variableNames = d.registration.encoded.map (·.variableName) :=
    (variableNames_resultPattern d).trans variableNames_encoded.symm
  rw [hnames]
  refine Registration.handedValues_zip ?_ ?_
  · rw [variableNames_encoded]
    exact h.nodup_resultVariables
  · rw [hlength, registration, List.length_map]

/-- A run from filled locals on. -/
theorem IsNumbered.finish_recorded (h : d.IsNumbered) {slots : NameMap Slot}
    (hslots : ∀ p ∈ d.dataParameters, (slots.get? p.variableName).isSome = true) (calls : List (ServiceCall Slot Value))
    (x : Exchange) : ∃ more y, d.registration.finish s.recorded slots r calls x = (((), calls ++ more), y) ∧
      d.registration.finish s slots r x = ((), y) ∧
      d.Finishes s r (Registration.handedValues slots d.registration.decoded) x more y := by
  have harguments := h.handsOver hslots r
  have hresults := isEmpty_encoded_iff d
  unfold Registration.finish
  generalize d.registration.arguments.filterMap (Registration.argument? slots r) = arguments at harguments ⊢
  cases hbody : s.body arguments x with
  | mk results y =>
    have hhandle : s.recorded.body arguments calls x = ((results, calls ++ [.handle arguments]), y) :=
      ServiceCall.record_apply hbody calls
    rw [Recording.bind_apply, Serving.bind_apply, hhandle, hbody]
    by_cases hempty : d.registration.encoded.isEmpty = true
    · simp only [hempty]
      exact ⟨[.handle arguments], y, rfl, rfl, .silent (hresults.mp hempty) harguments hbody⟩
    · simp only [hempty]
      have hvalues : results.length = d.results.length →
          Registration.handedValues (d.registration.results.variableNames.zip results) d.registration.encoded = results :=
        h.handedValues_results
      generalize Registration.handedValues (d.registration.results.variableNames.zip results) d.registration.encoded =
        values at hvalues ⊢
      have hresults : d.results ≠ [] := fun e => hempty (hresults.mpr e)
      cases hencode : s.codec.encode values y with
      | mk outcome z =>
        have hcall : s.recorded.codec.encode values (calls ++ [.handle arguments]) y =
            ((outcome, calls ++ [.handle arguments] ++ [.encode values]), z) := ServiceCall.record_apply hencode _
        simp only [Bool.not_false, ↓reduceIte]
        rw [Recording.bind_apply, Serving.bind_apply, hcall, hencode]
        cases outcome with
        | none =>
          refine ⟨[.handle arguments, .encode values], z, ?_, rfl, .encoded hresults harguments hbody hvalues hencode⟩
          simp only [List.append_assoc]
          rfl
        | some e =>
          refine ⟨[.handle arguments, .encode values, .responseError r e], _, ?_, rfl,
            .unencoded hresults harguments hbody hvalues hencode⟩
          have hhook : s.recorded.hooks.responseError r e (calls ++ [.handle arguments] ++ [.encode values]) z =
              (((), calls ++ [.handle arguments] ++ [.encode values] ++ [.responseError r e]),
                (s.hooks.responseError r e z).2) := ServiceCall.record_apply rfl _
          rw [List.append_assoc, List.append_assoc] at hhook
          rw [List.append_assoc]
          exact hhook

/-- Serving a request of a handler makes exactly the calls that its service needs, one after another, and each at most once.
Something is decoded exactly if some parameter is data; where that fails, the hook for requests is all that is called, on
the response as it was. Otherwise the handler is called once: what is decoded goes to its data parameters in
order, wherever it takes what the transport passes. Its results are encoded exactly if there are any, and the hook
for responses is called exactly if that fails. -/
theorem serve_isServed {d : Descriptor} (h : d.IsNumbered) (s : Service Serving Slot Value)
    (hcodec : ∀ r slots x, (s.codec.decode r slots x).2.writer = x.writer) (r : Request) (x : Exchange) :
    ∃ calls y, d.registration.serve s.recorded r [] x = (((), calls), y) ∧ d.registration.serve s r x = ((), y) ∧
      d.IsServed s r x calls y := by
  unfold Registration.serve
  by_cases hempty : d.registration.decoded.isEmpty = true
  · have hdata : d.dataParameters = [] := (isEmpty_decoded_iff d).mp hempty
    have hslots : ∀ p ∈ d.dataParameters, ((d.registration.initialSlots s.initial).get? p.variableName).isSome = true :=
      fun p hp => isSome_initialSlots s.initial hp
    obtain ⟨calls, y, hrecorded, hserved, hfinish⟩ := h.finish_recorded s r hslots [] x
    have hnone : Registration.handedValues (d.registration.initialSlots s.initial) d.registration.decoded = [] := by
      rw [List.isEmpty_iff.mp hempty]
      rfl
    simp only [hempty]
    exact ⟨calls, y, hrecorded, hserved, .direct hdata (hnone ▸ hfinish)⟩
  · have hdata : d.dataParameters ≠ [] := fun e => hempty ((isEmpty_decoded_iff d).mpr e)
    have hinitial : s.recorded.initial = s.initial := rfl
    simp only [hempty, hinitial, h.handedValues_initialSlots]
    have hwriter := hcodec r (d.registration.locals.map s.initial) x
    cases hdecode : s.codec.decode r (d.registration.locals.map s.initial) x with
    | mk result y =>
      obtain ⟨filled, outcome⟩ := result
      have hcall : s.recorded.codec.decode r (d.registration.locals.map s.initial) [] x =
          (((filled, outcome), [.decode r (d.registration.locals.map s.initial)]), y) :=
        ServiceCall.record_apply hdecode []
      rw [hdecode] at hwriter
      rw [if_neg Bool.false_ne_true, if_neg Bool.false_ne_true, Recording.bind_apply, Serving.bind_apply, hcall, hdecode]
      cases outcome with
      | some e =>
        have hhook : s.recorded.hooks.requestError r e [.decode r (d.registration.locals.map s.initial)] y =
            (((), [.decode r (d.registration.locals.map s.initial), .requestError r e]), (s.hooks.requestError r e y).2) :=
          ServiceCall.record_apply rfl _
        exact ⟨_, _, hhook, rfl, .refused hdata hdecode hwriter⟩
      | none =>
        have hslots : ∀ p ∈ d.dataParameters, ((Registration.refill (d.registration.initialSlots s.initial)
            d.registration.decoded filled).get? p.variableName).isSome = true :=
          fun p hp => Registration.isSome_refill (isSome_initialSlots s.initial hp) _ _
        obtain ⟨calls, z, hrecorded, hserved, hfinish⟩ :=
          h.finish_recorded s r hslots [.decode r (d.registration.locals.map s.initial)] y
        refine ⟨_, z, hrecorded, hserved, .decoded hdata hdecode (fun hlength => ?_) hfinish⟩
        refine Registration.handedValues_refill ?_ ?_
        · rw [variableNames_decoded]
          exact h.nodup_dataVariables
        · rw [hlength, registration, filterMap_decoded?, List.length_map]

end Descriptor

/-- The sample handlers with the JSON codec. -/
theorem Descriptor.serve_isServed_sample :
    Sample.context.descriptors.Forall fun d => ∀ (hooks : Hooks Serving) (r : Request) (x : Exchange),
      let s : Service Serving Datum Datum := ⟨Sample.handlers.initial, Sample.handlers.body d.name, Sample.codec, hooks⟩
      ∃ calls y, d.registration.serve s.recorded r [] x = (((), calls), y) ∧ d.registration.serve s r x = ((), y) ∧
        d.IsServed s r x calls y :=
  List.forall_iff_forall_mem.mpr fun _ hd _ r x =>
    Descriptor.serve_isServed (isNumbered_contextOf hd) _ (fun _ _ _ => rfl) r x

end Switchboard
