import Mathlib.Logic.Basic
import Switchboard.Handler.Form

/-! # Which shapes have which roles

Each role and each fault belongs to the shapes of one form. Data is decoded into what is a scalar or a named type, itself
or in one box. What the transport passes is recognised by a path: a resolved name stands for the paths that it could have
been written by (`writtenPaths`), and one of them has to be the configured path. -/

namespace Switchboard

/-! ### Data -/

/-- The shape of a type of which data can be decoded. -/
def DataType.shape : DataType → Shape
  | scalar name => .scalar name
  | named r => .named r

namespace Scope

variable {s : Scope} {paths : InjectedPaths} {x : Shape}

theorem referenceRole_ok {mutable : Bool} {role : Role} (h : s.referenceRole paths mutable x = .ok role) :
    ∃ what, role = .injected what := by
  unfold referenceRole at h
  split at h
  · split at h
    · exact ⟨_, (Except.ok.inj h).symm⟩
    · cases h
  · split at h
    · exact ⟨_, (Except.ok.inj h).symm⟩
    · cases h
  all_goals cases h

theorem boxRole_eq_ok_iff {role : Role} : boxRole x = .ok role ↔ ∃ type : DataType, role = .byPointer type ∧ x = type.shape := by
  refine ⟨fun h => ?_, ?_⟩
  · cases x with
    | scalar name => exact ⟨.scalar name, (Except.ok.inj h).symm, rfl⟩
    | named r => exact ⟨.named r, (Except.ok.inj h).symm, rfl⟩
    | boxed _ | reference _ _ | interface _ _ | unresolved _ | unsupported _ => cases h
  · rintro ⟨type, rfl, rfl⟩
    cases type <;> rfl

theorem roleOf_eq_byValue_iff {type : DataType} : s.roleOf paths x = .ok (.byValue type) ↔ x = type.shape := by
  refine ⟨fun h => ?_, ?_⟩
  · cases x with
    | scalar name =>
      cases h
      rfl
    | named r =>
      cases h
      rfl
    | boxed inner =>
      obtain ⟨_, hrole, -⟩ := boxRole_eq_ok_iff.mp h
      cases hrole
    | reference mutable target =>
      obtain ⟨_, hrole⟩ := referenceRole_ok h
      cases hrole
    | interface _ _ | unresolved _ | unsupported _ => cases h
  · rintro rfl
    cases type <;> rfl

theorem roleOf_eq_byPointer_iff {type : DataType} :
    s.roleOf paths x = .ok (.byPointer type) ↔ x = .boxed type.shape := by
  refine ⟨fun h => ?_, ?_⟩
  · cases x with
    | boxed inner =>
      obtain ⟨_, hrole, rfl⟩ := boxRole_eq_ok_iff.mp h
      cases hrole
      rfl
    | reference mutable target =>
      obtain ⟨_, hrole⟩ := referenceRole_ok h
      cases hrole
    | scalar _ | named _ | interface _ _ | unresolved _ | unsupported _ => cases h
  · rintro rfl
    cases type <;> rfl

end Scope

/-! ### What the transport passes -/

/-- The shape of a parameter that is passed by the transport, by what its type resolves to: a reference to the request,
or a mutable one to an object that is written as a response writer. -/
def Injected.shapeOf : Injected → Resolution → Shape
  | request, r => .reference false (.named r)
  | responseWriter, r => .reference true (.interface (some r) true)

/-- The configured path of what the transport passes. -/
def InjectedPaths.of (paths : InjectedPaths) : Injected → String
  | .request => paths.request
  | .responseWriter => paths.responseWriter

namespace Scope

/-- The paths by which a resolved name could have been written: that of an item of another module, or the name in any of
the modules imported as a whole. -/
def writtenPaths (s : Scope) : Resolution → List String
  | .external m name => [m.render ++ "::" ++ name]
  | .glob name => s.globs.map fun m => m.render ++ "::" ++ name
  | _ => []

variable {s : Scope} {paths : InjectedPaths} {x : Shape}

theorem isItem_iff {r : Resolution} {path : String} : s.isItem r path = true ↔ path ∈ s.writtenPaths r := by
  cases r with
  | external m name =>
    rw [isItem, writtenPaths, beq_iff_eq, List.mem_singleton]
    exact eq_comm
  | glob name => simp [isItem, writtenPaths]
  | localType name => simp [isItem, writtenPaths]
  | unresolved => simp [isItem, writtenPaths]

theorem roleOf_eq_injected_iff {what : Injected} :
    s.roleOf paths x = .ok (.injected what) ↔
      ∃ r, x = what.shapeOf r ∧ relativePathText (paths.of what) ∈ s.writtenPaths r := by
  refine ⟨fun h => ?_, ?_⟩
  · cases x with
    | reference mutable target =>
      rw [roleOf] at h
      unfold referenceRole at h
      split at h
      · rename_i r
        split at h
        · rename_i hitem
          rw [Bool.and_eq_true, Bool.not_eq_true'] at hitem
          cases h
          exact ⟨r, by rw [hitem.1]; rfl, isItem_iff.mp hitem.2⟩
        · cases h
      · rename_i r
        split at h
        · rename_i hitem
          rw [Bool.and_eq_true] at hitem
          cases h
          exact ⟨r, by rw [hitem.1]; rfl, isItem_iff.mp hitem.2⟩
        · cases h
      all_goals cases h
    | boxed inner =>
      obtain ⟨_, hrole, -⟩ := boxRole_eq_ok_iff.mp h
      cases hrole
    | scalar _ | named _ | interface _ _ | unresolved _ | unsupported _ => cases h
  · rintro ⟨r, rfl, hpath⟩
    have hitem := isItem_iff.mpr hpath
    cases what with
    | request =>
      rw [InjectedPaths.of] at hitem
      simp [Injected.shapeOf, roleOf, referenceRole, hitem]
    | responseWriter =>
      rw [InjectedPaths.of] at hitem
      simp [Injected.shapeOf, roleOf, referenceRole, hitem]

end Scope

/-! ### Faults -/

/-- The shape of a trait object, an `impl` type or a trait. -/
def Shape.IsInterface (x : Shape) : Prop :=
  ∃ bound object, x = .interface bound object

namespace Scope

variable {s : Scope} {paths : InjectedPaths} {x : Shape}

/-- A reference to an interface is the response writer or at fault for the interface; a reference to anything else that
is known is the request or at fault for being one. -/
theorem referenceRole_cases (s : Scope) (paths : InjectedPaths) (mutable : Bool) (x : Shape) :
    (x.IsInterface ∧ (s.referenceRole paths mutable x = .ok (.injected .responseWriter) ∨
      s.referenceRole paths mutable x = .error .interface)) ∨
    (∃ name, x = .unresolved name ∧ s.referenceRole paths mutable x = .error (.unresolved name)) ∨
    (¬x.IsInterface ∧ (∀ name, x ≠ .unresolved name) ∧
      (s.referenceRole paths mutable x = .ok (.injected .request) ∨ s.referenceRole paths mutable x = .error .borrowed)) := by
  cases x with
  | interface bound object =>
    refine Or.inl ⟨⟨bound, object, rfl⟩, ?_⟩
    cases bound with
    | none => exact Or.inr rfl
    | some r =>
      cases object with
      | false => exact Or.inr rfl
      | true =>
        simp only [referenceRole]
        split
        · exact Or.inl rfl
        · exact Or.inr rfl
  | unresolved name => exact Or.inr (Or.inl ⟨name, rfl, rfl⟩)
  | named r =>
    refine Or.inr (Or.inr ⟨(fun ⟨_, _, h⟩ => nomatch h), nofun, ?_⟩)
    simp only [referenceRole]
    split
    · exact Or.inl rfl
    · exact Or.inr rfl
  | scalar _ | boxed _ | reference _ _ | unsupported _ =>
    exact Or.inr (Or.inr ⟨(fun ⟨_, _, h⟩ => nomatch h), nofun, Or.inr rfl⟩)

theorem roleOf_eq_interface_iff :
    s.roleOf paths x = .error .interface ↔
      x.IsInterface ∨ (∃ y, x = .boxed y ∧ y.IsInterface) ∨
        ∃ mutable y, x = .reference mutable y ∧ y.IsInterface ∧ s.roleOf paths x ≠ .ok (.injected .responseWriter) := by
  refine ⟨fun h => ?_, ?_⟩
  · cases x with
    | interface bound object => exact Or.inl ⟨bound, object, rfl⟩
    | boxed y =>
      cases y with
      | interface bound object => exact Or.inr (Or.inl ⟨_, rfl, bound, object, rfl⟩)
      | scalar _ | named _ | boxed _ | reference _ _ | unresolved _ | unsupported _ => cases h
    | reference mutable y =>
      rcases s.referenceRole_cases paths mutable y with ⟨hy, -⟩ | ⟨_, -, hrole⟩ | ⟨-, -, hrole | hrole⟩
      · exact Or.inr (Or.inr ⟨mutable, y, rfl, hy, by simp [h]⟩)
      all_goals cases hrole.symm.trans h
    | scalar _ | named _ | unresolved _ | unsupported _ => cases h
  · rintro (⟨bound, object, rfl⟩ | ⟨y, rfl, bound, object, rfl⟩ | ⟨mutable, y, rfl, hy, hwriter⟩)
    · rfl
    · rfl
    · rcases s.referenceRole_cases paths mutable y with ⟨-, hrole | hrole⟩ | ⟨_, rfl, -⟩ | ⟨hy', -⟩
      · exact absurd hrole hwriter
      · exact hrole
      · obtain ⟨_, _, hy⟩ := hy
        cases hy
      · exact absurd hy hy'

theorem roleOf_eq_unresolved_iff {name : String} :
    s.roleOf paths x = .error (.unresolved name) ↔
      x = .unresolved name ∨ x = .boxed (.unresolved name) ∨ ∃ mutable, x = .reference mutable (.unresolved name) := by
  refine ⟨fun h => ?_, ?_⟩
  · cases x with
    | unresolved _ =>
      cases h
      exact Or.inl rfl
    | boxed y =>
      cases y with
      | unresolved _ =>
        cases h
        exact Or.inr (Or.inl rfl)
      | scalar _ | named _ | boxed _ | reference _ _ | interface _ _ | unsupported _ => cases h
    | reference mutable y =>
      rcases s.referenceRole_cases paths mutable y with ⟨-, hrole | hrole⟩ | ⟨_, rfl, hrole⟩ | ⟨-, -, hrole | hrole⟩
      case inr.inl =>
        cases hrole.symm.trans h
        exact Or.inr (Or.inr ⟨mutable, rfl⟩)
      all_goals cases hrole.symm.trans h
    | scalar _ | named _ | interface _ _ | unsupported _ => cases h
  · rintro (rfl | rfl | ⟨mutable, rfl⟩) <;> rfl

theorem roleOf_eq_borrowed_iff :
    s.roleOf paths x = .error .borrowed ↔
      ∃ mutable y, x = .reference mutable y ∧ ¬y.IsInterface ∧ (∀ name, y ≠ .unresolved name) ∧
        s.roleOf paths x ≠ .ok (.injected .request) := by
  refine ⟨fun h => ?_, ?_⟩
  · cases x with
    | reference mutable y =>
      rcases s.referenceRole_cases paths mutable y with ⟨-, hrole | hrole⟩ | ⟨_, -, hrole⟩ | ⟨hy, hknown, -⟩
      case inr.inr => exact ⟨mutable, y, rfl, hy, hknown, by simp [h]⟩
      all_goals cases hrole.symm.trans h
    | boxed y => cases y <;> cases h
    | scalar _ | named _ | interface _ _ | unresolved _ | unsupported _ => cases h
  · rintro ⟨mutable, y, rfl, hy, hknown, hrequest⟩
    rcases s.referenceRole_cases paths mutable y with ⟨hy', -⟩ | ⟨name, hname, -⟩ | ⟨-, -, hrole | hrole⟩
    · exact absurd hy' hy
    · exact absurd hname (hknown name)
    · exact absurd hrole hrequest
    · exact hrole

end Scope

end Switchboard
