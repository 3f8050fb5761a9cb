import Mathlib.Data.List.Dedup
import Switchboard.Dispatch.File
import Switchboard.Proofs.FileOrder
import Switchboard.Serve.Setup

/-! # How many handlers are served

A setup registers one handler after another. Each registration either gives a path its first handler or takes the place
of an earlier one, and reports which (`size_add_replaced`). So as many paths are served as there are distinct ones, each by
the last handler that was registered for it.

The handlers of a module are its public functions, and nothing keeps two of these from having one name. Without entries
for their routes a handler is lost for each name that is repeated (`size_setup_iff`). -/

namespace Switchboard

open Source

/-! ### Names that are set again -/

namespace NameMap

variable {α : Type} {m : NameMap α} {name : String} {a : α}

/-- Sets names one after another. -/
def setAll (m : NameMap α) (pairs : List (String × α)) : NameMap α :=
  pairs.foldl (fun m p => m.set p.1 p.2) m

theorem get?_setAll_of_not_mem {pairs : List (String × α)} (h : name ∉ pairs.map (·.1)) :
    (m.setAll pairs).get? name = m.get? name := by
  induction pairs generalizing m with
  | nil => rfl
  | cons p pairs ih =>
    rw [List.map_cons, List.mem_cons, not_or] at h
    have hcons : m.setAll (p :: pairs) = (m.set p.1 p.2).setAll pairs := rfl
    rw [hcons, ih h.2, get?_set, if_neg (Ne.symm h.1)]

/-- A name has the value that it is set to last. -/
theorem get?_setAll_of_last {front back : List (String × α)} (h : name ∉ back.map (·.1)) :
    (m.setAll (front ++ (name, a) :: back)).get? name = some a := by
  have happend : m.setAll (front ++ (name, a) :: back) = ((m.setAll front).set name a).setAll back := by
    rw [setAll, List.foldl_append]
    rfl
  rw [happend, get?_setAll_of_not_mem h, get?_set_self]

end NameMap

namespace Multiplexer

/-- Registers handlers one after another. -/
def registerAll (x : Multiplexer) (entries : List (String × HandlerFunction)) : Multiplexer :=
  entries.foldl (fun x e => x.register e.1 e.2) x

variable {x : Multiplexer} {path p : String} {handler : HandlerFunction} {entries : List (String × HandlerFunction)}

/-! ### One registration -/

theorem mem_register : p ∈ (x.register path handler).handlers.names ↔ p ∈ x.handlers.names ∨ p = path := by
  rw [register]
  by_cases hpath : path ∈ x.handlers.names
  · rw [NameMap.names_set_of_contains hpath]
    exact ⟨Or.inl, fun h => h.elim id fun e => e ▸ hpath⟩
  · rw [NameMap.names_set_of_not_contains hpath, List.mem_append, List.mem_singleton]

/-- A registration adds a path, or it reports that a handler is replaced. -/
theorem size_register (x : Multiplexer) (path : String) (handler : HandlerFunction) :
    (x.register path handler).size + (if (x.registrationEvent path).level = .warn then 1 else 0) = x.size + 1 := by
  have size_eq (y : Multiplexer) : y.size = y.handlers.names.length := by rw [size, NameMap.names, List.length_map]
  rw [size_eq, size_eq, register, registrationEvent]
  by_cases hpath : x.contains path = true
  · rw [if_pos hpath, NameMap.names_set_of_contains (NameMap.contains_iff_mem_names.mp hpath)]
    rfl
  · have hnew : path ∉ x.handlers.names := fun h => hpath (NameMap.contains_iff_mem_names.mpr h)
    rw [if_neg hpath, NameMap.names_set_of_not_contains hnew, List.length_append]
    rfl

/-! ### All registrations -/

theorem mem_registerAll : p ∈ (x.registerAll entries).handlers.names ↔
    p ∈ x.handlers.names ∨ p ∈ entries.map (·.1) := by
  induction entries generalizing x with
  | nil => simp [registerAll]
  | cons e entries ih =>
    have hcons : x.registerAll (e :: entries) = (x.register e.1 e.2).registerAll entries := rfl
    rw [hcons, ih, mem_register, List.map_cons, List.mem_cons, or_assoc]

theorem nodup_registerAll (h : x.handlers.names.Nodup) : (x.registerAll entries).handlers.names.Nodup := by
  induction entries generalizing x with
  | nil => exact h
  | cons e entries ih => exact ih (NameMap.nodup_names_set h e.1 e.2)

/-- Each of the registrations adds a path or replaces a handler. -/
theorem size_add_replaced (x : Multiplexer) (entries : List (String × HandlerFunction)) :
    (x.registerAll entries).size + (HandlerModule.setupEvents x entries).countP (·.level = .warn) =
      x.size + entries.length := by
  induction entries generalizing x with
  | nil => rfl
  | cons e entries ih =>
    have hstep := size_register x e.1 e.2
    have hrest := ih (x.register e.1 e.2)
    rw [HandlerModule.setupEvents, List.countP_cons, List.length_cons]
    simp only [decide_eq_true_eq]
    change ((x.register e.1 e.2).registerAll entries).size + _ = _
    omega

/-- As many paths are served as are distinct among the registered ones. -/
theorem size_registerAll_empty (entries : List (String × HandlerFunction)) :
    (empty.registerAll entries).size = (entries.map (·.1)).dedup.length := by
  have hempty : empty.handlers.names.Nodup := List.nodup_nil
  have hperm : (empty.registerAll entries).handlers.names.Perm (entries.map (·.1)).dedup := by
    refine (List.perm_ext_iff_of_nodup (nodup_registerAll hempty) (List.nodup_dedup _)).mpr fun p => ?_
    rw [mem_registerAll, List.mem_dedup]
    simp [empty, NameMap.names]
  rw [← hperm.length_eq, size, NameMap.names, List.length_map]

theorem handlers_registerAll (x : Multiplexer) (entries : List (String × HandlerFunction)) :
    (x.registerAll entries).handlers = x.handlers.setAll entries := by
  induction entries generalizing x with
  | nil => rfl
  | cons e entries ih => exact ih (x.register e.1 e.2)

theorem get?_registerAll_of_not_mem (h : p ∉ entries.map (·.1)) :
    (x.registerAll entries).handlers.get? p = x.handlers.get? p := by
  rw [handlers_registerAll, NameMap.get?_setAll_of_not_mem h]

/-- A path is served by the last handler that is registered for it. -/
theorem get?_registerAll_of_last {front back : List (String × HandlerFunction)} (h : p ∉ back.map (·.1)) :
    (x.registerAll (front ++ (p, handler) :: back)).handlers.get? p = some handler := by
  rw [handlers_registerAll, NameMap.get?_setAll_of_last h]

end Multiplexer

/-! ### The handlers of a module -/

theorem RouteTable.route_empty_injective : Function.Injective empty.route := fun _ _ h =>
  (String.append_right_inj _).mp h

theorem names_of_ok {o : Conventions} {files : List ModuleFile} {c : DispatchContext} (h : analyze o files = .ok c) :
    c.descriptors.map (·.name) = (publicFunctions files).map (·.function.name) := by
  obtain ⟨s, _, hs, -, -⟩ := analyze_ok h
  obtain ⟨hdescriptors, hforms⟩ := descriptors_of_ok h hs
  rw [hdescriptors, List.map_map]
  refine List.map_congr_left fun f hf => ?_
  obtain ⟨form, hform, -⟩ := hforms f hf
  rw [Function.comp_apply, Scope.describe_of_form hform]
  exact (Scope.formOf_ok hform).2.1

/-- Where no routes are set, the setup of a module serves as many paths as its public functions have names. This is a
path for each handler exactly if no two of them have one name; of those that have, only the last is served, and the
others are reported as replaced. -/
theorem size_setup_iff {o : Conventions} {files : List ModuleFile} {c : DispatchContext} (h : analyze o files = .ok c)
    {Slot Value : Type} {m : HandlerModule Slot Value} (hm : m.registrations = c.registrations)
    {options : SetupOptions Slot Value} (hroutes : options.routes = .empty) :
    let names := (publicFunctions files).map (·.function.name)
    let x := m.setup options .empty
    c.descriptors.map (·.name) = names ∧ x.size = names.dedup.length ∧
      x.size + (HandlerModule.setupEvents .empty (m.entries options)).countP (·.level = .warn) = c.descriptors.length ∧
      (x.size = c.descriptors.length ↔ names.Nodup) ∧
      ∀ front d back, c.descriptors = front ++ d :: back → d.name ∉ back.map (·.name) →
        x.handlers.get? ("/" ++ d.name) = some (m.handler options d.registration) := by
  intro names x
  have hentries : m.entries options =
      c.descriptors.map fun d => (RouteTable.empty.route d.name, m.handler options d.registration) := by
    rw [HandlerModule.entries, hm, hroutes, DispatchContext.registrations, List.map_map]
    rfl
  have hx : x = Multiplexer.empty.registerAll (m.entries options) := rfl
  have hnames : c.descriptors.map (·.name) = names := names_of_ok h
  have hsize : x.size = names.dedup.length := by
    have hpaths : (m.entries options).map (·.1) = names.map RouteTable.empty.route := by
      rw [hentries, ← hnames, List.map_map, List.map_map]
      rfl
    rw [hx, Multiplexer.size_registerAll_empty, hpaths, List.dedup_map_of_injective RouteTable.route_empty_injective,
      List.length_map]
  have hlength : c.descriptors.length = names.length := by rw [← hnames, List.length_map]
  refine ⟨hnames, hsize, ?_, ?_, fun front d back hsplit hlast => ?_⟩
  · rw [hx, Multiplexer.size_add_replaced, hentries, List.length_map]
    exact Nat.zero_add _
  · rw [hsize, hlength, (List.dedup_sublist names).length_eq, List.dedup_eq_self]
  · rw [hx, hentries, hsplit, List.map_append, List.map_cons]
    refine Multiplexer.get?_registerAll_of_last fun hmem => ?_
    rw [List.map_map] at hmem
    obtain ⟨d', hd', hsame⟩ := List.mem_map.mp hmem
    exact hlast (List.mem_map.mpr ⟨d', hd', RouteTable.route_empty_injective hsame⟩)

/-- Two public functions of one name in a file, of which the setup serves the second. -/
theorem size_setup_iff_repeated :
    let o : Conventions := .ofModule "handlers"
    let f (line : Nat) : Function := ⟨"f", ⟨line, 8⟩, true, ⟨false, false, false, false, false, [], none⟩⟩
    let file : ModuleFile := ⟨"h.rs", [.function (f 2), .function (f 4)]⟩
    let options : SetupOptions Unit Unit :=
      ⟨.empty, ⟨fun _ slots => pure (slots, none), fun _ => pure none⟩, defaultHooks⟩
    ∃ c, analyze o [file] = .ok c ∧ c.descriptors.length = 2 ∧
      let m : HandlerModule Unit Unit := ⟨c.registrations, fun _ => (), fun _ _ => pure []⟩
      (m.setup options .empty).size = 1 ∧
        (HandlerModule.setupEvents .empty (m.entries options)).countP (·.level = .warn) = 1 := by
  intro o f file options
  let form (line : Nat) : HandlerForm := ⟨"f", ⟨"h.rs", ⟨line, 8⟩⟩, [], [], false⟩
  have h : analyze o [file] = .ok (contextOf o [form 2, form 4]) := rfl
  let m : HandlerModule Unit Unit :=
    ⟨(contextOf o [form 2, form 4]).registrations, fun _ => (), fun _ _ => pure []⟩
  have hm : m.registrations = (contextOf o [form 2, form 4]).registrations := rfl
  have hroutes : options.routes = .empty := rfl
  obtain ⟨-, hsize, hreplaced, -, -⟩ := size_setup_iff h hm hroutes
  have hone : (m.setup options .empty).size = 1 := hsize
  have htwo : (contextOf o [form 2, form 4]).descriptors.length = 2 := rfl
  refine ⟨_, h, htwo, hone, ?_⟩
  rw [hone, htwo] at hreplaced
  exact Nat.add_left_cancel hreplaced

end Switchboard
