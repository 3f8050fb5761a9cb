import Mathlib.Data.List.Sort
import Mathlib.Data.String.Basic
import Switchboard.Proofs.RouteCount

/-! # Which handler serves a path

Handlers are registered one after another, those of a setup behind those that were there before. A request goes to the last
handler that is registered under exactly its path. If there is none, no handler has any part in the answer, and the answer is
the same as that of a multiplexer without handlers (`run_serveMissing`).

The path of a handler in a setup is the last one that is set for its name. So routes can lead several handlers to one path, or
one of them to the path that another has by default: then only the order of the registrations counts
(`serves_last_registered`). -/

namespace Switchboard

namespace RouteTable

variable {name path : String} {pairs front back : List (String × String)}

theorem routes_ofPairs (pairs : List (String × String)) : (ofPairs pairs).routes = NameMap.setAll [] pairs := by
  have hfrom (m : RouteTable) : (pairs.foldl (fun m p => m.insert p.1 p.2) m).routes = m.routes.setAll pairs := by
    induction pairs generalizing m with
    | nil => rfl
    | cons p pairs ih => exact ih (m.insert p.1 p.2)
  exact hfrom empty

theorem route_ofPairs_of_last (h : name ∉ back.map (·.1)) : (ofPairs (front ++ (name, path) :: back)).route name = path := by
  rw [route, routes_ofPairs, NameMap.get?_setAll_of_last h, Option.getD_some]

theorem route_ofPairs_of_not_mem (h : name ∉ pairs.map (·.1)) : (ofPairs pairs).route name = "/" ++ name := by
  rw [route, routes_ofPairs, NameMap.get?_setAll_of_not_mem h, NameMap.get?_nil, Option.getD_none]

end RouteTable

section
variable (e : Exchange)

theorem Serving.run_report (event : Event) : (Serving.report event).run e = pure ((), { e with events := e.events ++ [event] }) :=
  rfl

theorem Serving.run_setStatus (status : Nat) : (Serving.setStatus status).run e =
    pure ((), { e with writer := { e.writer with response := e.writer.response.setStatus status } }) := rfl

theorem Serving.run_write (bytes : List UInt8) : (Serving.write bytes).run e =
    pure ((e.writer.writeAll bytes).2, { e with writer := (e.writer.writeAll bytes).1 }) := rfl

end

/-- The bytes that a body has room for. -/
def ResponseWriter.fitting (w : ResponseWriter) (bytes : List UInt8) : List UInt8 :=
  match w.room with
  | none => bytes
  | some room => bytes.take room.left

theorem ResponseWriter.response_writeAll (w : ResponseWriter) (bytes : List UInt8) :
    (w.writeAll bytes).1.response = w.response.write (w.fitting bytes) := by
  obtain ⟨response, room⟩ := w
  cases room <;> rfl

namespace Multiplexer

variable {x : Multiplexer} {p : String} {handler : HandlerFunction} {r : Request}

/-! ### One request -/

theorem run_serve_of_handler (h : x.handlers.get? r.path = some handler) (e : Exchange) : (x.serve r).run e =
    (handler r).run { e with events := e.events ++ [⟨.debug, .mux, "dispatching request", requestFields r⟩] } := by
  rw [serve, h]
  rfl

theorem serve_of_no_handler (h : x.handlers.get? r.path = none) : x.serve r = serveMissing r := by
  rw [serve, h]

/-- A request that no handler serves changes the status, adds a text to the body as far as there is room for it, and is
reported. -/
theorem run_serveMissing (r : Request) (e : Exchange) :
    let written :=
      ResponseWriter.writeAll { e.writer with response := e.writer.response.setStatus Status.notFound } (Text.utf8 missingText)
    (serveMissing r).run e = ((), { e with
      writer := written.1
      events := e.events ++ ⟨.warn, .mux, "No handler for path", requestFields r⟩ ::
        written.2.toList.map fun fault => ⟨.warn, .mux, "failed to write 404 body", [("error", .text fault.describe)]⟩ }) := by
  intro written
  have hwritten : written = ResponseWriter.writeAll ⟨e.writer.response.setStatus Status.notFound, e.writer.room⟩
    (Text.utf8 missingText) := rfl
  simp only [serveMissing, StateT.run_bind, Serving.run_report, Serving.run_setStatus, Serving.run_write, pure_bind,
    ← hwritten]
  cases written.2 with
  | none => rfl
  | some fault =>
    rw [Serving.run_report, List.append_assoc]
    rfl

/-! ### All paths -/

theorem mem_routes : p ∈ x.routes ↔ p ∈ x.handlers.names :=
  List.mem_mergeSort

theorem length_routes (x : Multiplexer) : x.routes.length = x.size := by
  rw [routes, List.length_mergeSort, NameMap.names, List.length_map, size]

theorem pairwise_routes (h : x.handlers.names.Nodup) : x.routes.Pairwise (· < ·) := by
  have hsorted : x.routes.Pairwise (· ≤ ·) := List.pairwise_mergeSort' _ _
  have hnodup : x.routes.Nodup := (List.mergeSort_perm _ _).nodup_iff.mpr h
  exact hsorted.imp₂ (fun _ _ => lt_of_le_of_ne) hnodup

end Multiplexer

/-! ### Setups -/

theorem setup_registerAll {Slot Value : Type} (m : HandlerModule Slot Value) (o : SetupOptions Slot Value)
    (earlier : List (String × HandlerFunction)) :
    m.setup o (Multiplexer.empty.registerAll earlier) = Multiplexer.empty.registerAll (earlier ++ m.entries o) :=
  (List.foldl_append ..).symm

open Multiplexer in
/-- Behind a setup each request goes to the handler that is registered last under its path, and to none if the path was never
registered; then the status is 404 and a text is added to the body. The paths that are listed are those that have a handler,
each once and in order. -/
theorem serves_last_registered {Slot Value : Type} (m : HandlerModule Slot Value) (codec : Codec Serving Slot Value)
    (hooks : Hooks Serving) (pairs : List (String × String)) (earlier : List (String × HandlerFunction)) :
    let o : SetupOptions Slot Value := ⟨.ofPairs pairs, codec, hooks⟩
    let all := earlier ++ m.registrations.map fun p => (o.routes.route p.name, m.handler o p)
    let x := m.setup o (Multiplexer.empty.registerAll earlier)
    (∀ name,
      (∀ front path back, pairs = front ++ (name, path) :: back → name ∉ back.map (·.1) → o.routes.route name = path) ∧
      (name ∉ pairs.map (·.1) → o.routes.route name = "/" ++ name)) ∧
    (∀ (r : Request) (e : Exchange),
      (∀ front handler back, all = front ++ (r.path, handler) :: back → r.path ∉ back.map (·.1) → (x.serve r).run e =
        (handler r).run { e with events := e.events ++ [⟨.debug, .mux, "dispatching request", requestFields r⟩] }) ∧
      (r.path ∉ all.map (·.1) →
        let e' := ((x.serve r).run e).2
        e'.writer.response = ⟨404, e.writer.response.headers,
          e.writer.response.body ++ e.writer.fitting (Text.utf8 "404 page not found")⟩ ∧
        e'.notes = e.notes ∧ x.serve r = Multiplexer.empty.serve r)) ∧
    (∀ p, x.contains p = true ↔ p ∈ all.map (·.1)) ∧
    x.routes.Pairwise (· < ·) ∧ (∀ p, p ∈ x.routes ↔ p ∈ all.map (·.1)) ∧ x.routes.length = x.size := by
  intro o all x
  have hx : x = Multiplexer.empty.registerAll all := setup_registerAll m o earlier
  have hmem (p : String) : p ∈ x.handlers.names ↔ p ∈ all.map (·.1) := by
    rw [hx, mem_registerAll]
    exact or_iff_right List.not_mem_nil
  refine ⟨fun name => ⟨?_, RouteTable.route_ofPairs_of_not_mem⟩, fun r e => ⟨?_, fun hpath => ?_⟩, fun p => ?_, ?_,
    fun p => mem_routes.trans (hmem p), length_routes x⟩
  · rintro front path back rfl hlast
    exact RouteTable.route_ofPairs_of_last hlast
  · intro front handler back hsplit hlast
    exact run_serve_of_handler (by rw [hx, hsplit, get?_registerAll_of_last hlast]) e
  · have hnone : x.serve r = serveMissing r :=
      serve_of_no_handler (by rw [hx, get?_registerAll_of_not_mem hpath]; rfl)
    intro e'
    have he' : e' = _ := congrArg Prod.snd ((congrArg (·.run e) hnone).trans (run_serveMissing r e))
    rw [he']
    exact ⟨ResponseWriter.response_writeAll _ _, rfl, hnone⟩
  · exact NameMap.contains_iff_mem_names.trans (hmem p)
  · rw [hx]
    exact pairwise_routes (nodup_registerAll List.nodup_nil)

/-- Both handlers of a module are led to one path, which an earlier handler has as well: the last one serves it, and the
path that it has by default is not found. -/
theorem serves_last_registered_collision :
    let plain (name : String) : Registration := (⟨name, [], [], false, 0, ⟨"h.rs", ⟨1, 8⟩⟩⟩ : Descriptor).registration
    let m : HandlerModule Unit Unit := ⟨[plain "a", plain "b"], fun _ => (), fun name _ => do Serving.note name; pure []⟩
    let o : SetupOptions Unit Unit :=
      ⟨.ofPairs [("b", "/x"), ("b", "/a")], ⟨fun _ slots => pure (slots, none), fun _ => pure none⟩, defaultHooks⟩
    let x := m.setup o (Multiplexer.empty.registerAll [("/a", fun _ => Serving.note "old"), ("/z", fun _ => Serving.note "z")])
    let answer (path : String) : Exchange := ((x.serve (.of "GET" path)).run (.start none)).2
    (answer "/a").notes = ["b"] ∧ (answer "/z").notes = ["z"] ∧
      (answer "/b").notes = [] ∧ (answer "/b").writer.response.status = 404 ∧ x.routes = ["/a", "/z"] := by
  intro plain m o x answer
  obtain ⟨-, hserved, -, hsorted, hroutes, -⟩ := serves_last_registered m o.codec o.hooks [("b", "/x"), ("b", "/a")]
    [("/a", fun _ => Serving.note "old"), ("/z", fun _ => Serving.note "z")]
  have served (path : String) := hserved (.of "GET" path) (.start none)
  have ha : answer "/a" = _ := congrArg Prod.snd
    ((served "/a").1 [("/a", _), ("/z", _), ("/a", _)] (m.handler o (plain "b")) [] rfl List.not_mem_nil)
  have hz : answer "/z" = _ := congrArg Prod.snd
    ((served "/z").1 [("/a", _)] (fun _ => Serving.note "z") [("/a", _), ("/a", _)] rfl (by decide))
  obtain ⟨hresponse, hnotes, -⟩ := (served "/b").2 (by decide)
  refine ⟨by rw [ha]; rfl, by rw [hz]; rfl, hnotes, congrArg Response.status hresponse, ?_⟩
  refine hsorted.eq_of_mem_iff (by decide) fun p => ?_
  refine (hroutes p).trans ?_
  change p ∈ ["/a", "/z", "/a", "/a"] ↔ p ∈ ["/a", "/z"]
  simp only [List.mem_cons, List.not_mem_nil]
  tauto

end Switchboard
