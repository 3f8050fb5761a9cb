import Mathlib.Data.List.Basic
import Switchboard.Proofs.Classification
import Switchboard.Proofs.ScopeAgreement

/-! # The order of bounds

A mutable reference to a trait object is the response writer if the first trait among the bounds of the object is the
configured one, and an interface that no handler can take otherwise. Lifetimes can stand anywhere. Traits can not: the
writer has to stand in front of marker traits such as `Send`, so the role is the same for all orders of the bounds only
if all traits among them are the configured one, or none is (`roleOf_boundsInOrder`).

An alias of the object can be declared with its bounds in another order. The two modules then have the same names
(`SameNames`), which is all that paths are resolved by. -/

namespace Switchboard

open Source

/-- The path of a bound that is a trait. -/
def Source.Bound.trait? : Bound → Option Path
  | .trait p => some p
  | .lifetime => none
  | .other => none

/-- The traits among some bounds, in order. -/
def traitsOf (bounds : List Bound) : List Path :=
  bounds.filterMap (·.trait?)

namespace Scope

/-- A path to the configured response writer. -/
def IsWriterTrait (s : Scope) (paths : InjectedPaths) (p : Path) : Prop :=
  relativePathText paths.responseWriter ∈ s.writtenPaths (s.resolve p)

/-- The first trait among some bounds is the configured response writer. -/
def LeadsWithWriter (s : Scope) (paths : InjectedPaths) (bounds : List Bound) : Prop :=
  ∃ p, (traitsOf bounds).head? = some p ∧ s.IsWriterTrait paths p

/-- A mutable reference to a trait object with some bounds, behind parentheses and aliases. -/
def IsMutableObject (s : Scope) (t : TypeExpr) (bounds : List Bound) : Prop :=
  ∃ m target k, s.Strips aliasLimit t m (.reference true target) ∧ s.Strips m target k (.object bounds)

variable {s s' : Scope} {paths : InjectedPaths} {t t' : TypeExpr} {bounds bounds' : List Bound}

/-! ### The first trait -/

theorem SameNames.leadsWithWriter_iff (h : s.SameNames s') :
    s.LeadsWithWriter paths bounds ↔ s'.LeadsWithWriter paths bounds := by
  have writer (p : Path) : s.IsWriterTrait paths p ↔ s'.IsWriterTrait paths p := by
    rw [IsWriterTrait, IsWriterTrait, ← isItem_iff, ← isItem_iff, h.resolve, h.isItem]
  simp only [LeadsWithWriter, writer]

theorem leadingTrait?_eq_head? (s : Scope) (bounds : List Bound) :
    s.leadingTrait? bounds = (traitsOf bounds).head?.map s.resolve := by
  induction bounds with
  | nil => rfl
  | cons b bounds ih =>
    cases b with
    | trait p => rfl
    | lifetime => exact ih
    | other => exact ih

theorem leadsWithWriter_congr (h : (traitsOf bounds).head? = (traitsOf bounds').head?) :
    s.LeadsWithWriter paths bounds ↔ s.LeadsWithWriter paths bounds' := by
  rw [LeadsWithWriter, LeadsWithWriter, h]

theorem traitsOf_perm (h : bounds.Perm bounds') : (traitsOf bounds).Perm (traitsOf bounds') :=
  h.filterMap _

/-- Any trait among the bounds can be the first one. -/
theorem exists_perm_head? {p : Path} (h : p ∈ traitsOf bounds) :
    ∃ bounds', bounds.Perm bounds' ∧ (traitsOf bounds').head? = some p := by
  obtain ⟨b, hb, hp⟩ := List.mem_filterMap.mp h
  obtain ⟨front, back, rfl⟩ := List.append_of_mem hb
  refine ⟨b :: (front ++ back), List.perm_middle, ?_⟩
  rw [traitsOf, List.filterMap_cons_some hp]
  rfl

/-- Where one trait is the writer and the others are not, the writer has to be the first. -/
theorem leadsWithWriter_iff_head? {w : Path} {others : List Path} (htraits : (traitsOf bounds).Perm (w :: others))
    (hw : s.IsWriterTrait paths w) (hothers : ∀ p ∈ others, ¬s.IsWriterTrait paths p) :
    s.LeadsWithWriter paths bounds ↔ (traitsOf bounds).head? = some w := by
  constructor
  · rintro ⟨p, hhead, hp⟩
    have hmem : p ∈ w :: others := htraits.mem_iff.mp (List.mem_of_head? hhead)
    rcases List.mem_cons.mp hmem with rfl | hmem
    · exact hhead
    · exact absurd hp (hothers p hmem)
  · exact fun hhead => ⟨w, hhead, hw⟩

theorem leadsWithWriter_of_all (hall : ∀ p ∈ traitsOf bounds, s.IsWriterTrait paths p) :
    s.LeadsWithWriter paths bounds ↔ traitsOf bounds ≠ [] := by
  constructor
  · rintro ⟨p, hhead, -⟩ hnil
    rw [hnil] at hhead
    cases hhead
  · intro hne
    obtain ⟨p, rest, htraits⟩ := List.exists_cons_of_ne_nil hne
    have hhead : (traitsOf bounds).head? = some p := by rw [htraits, List.head?_cons]
    exact ⟨p, hhead, hall p (List.mem_of_head? hhead)⟩

theorem not_leadsWithWriter_of_none (hnone : ∀ p ∈ traitsOf bounds, ¬s.IsWriterTrait paths p) :
    ¬s.LeadsWithWriter paths bounds := by
  rintro ⟨p, hhead, hwriter⟩
  exact hnone p (List.mem_of_head? hhead) hwriter

/-- All orders of some bounds are led by the writer, or none is, exactly if the traits are alike. -/
theorem forall_perm_leadsWithWriter_iff :
    (∀ bounds', bounds.Perm bounds' → (s.LeadsWithWriter paths bounds' ↔ s.LeadsWithWriter paths bounds)) ↔
      (∀ p ∈ traitsOf bounds, s.IsWriterTrait paths p) ∨ ∀ p ∈ traitsOf bounds, ¬s.IsWriterTrait paths p := by
  constructor
  · intro h
    -- A trait that is brought to the front tells what the order as it is does.
    have alike : ∀ p ∈ traitsOf bounds, (s.IsWriterTrait paths p ↔ s.LeadsWithWriter paths bounds) := by
      intro p hp
      obtain ⟨bounds', hperm, hhead⟩ := exists_perm_head? hp
      rw [← h bounds' hperm]
      refine ⟨fun hwriter => ⟨p, hhead, hwriter⟩, ?_⟩
      rintro ⟨q, hq, hwriter⟩
      rw [hhead, Option.some.injEq] at hq
      exact hq ▸ hwriter
    by_cases hleads : s.LeadsWithWriter paths bounds
    · exact Or.inl fun p hp => (alike p hp).mpr hleads
    · exact Or.inr fun p hp hwriter => hleads ((alike p hp).mp hwriter)
  · intro h bounds' hperm
    have htraits := traitsOf_perm hperm
    rcases h with hall | hnone
    · rw [leadsWithWriter_of_all hall, leadsWithWriter_of_all fun p hp => hall p (htraits.mem_iff.mpr hp)]
      refine not_congr ⟨fun hnil => ?_, fun hnil => ?_⟩
      · exact (hnil ▸ htraits).eq_nil
      · exact (hnil ▸ htraits).symm.eq_nil
    · exact iff_of_false (not_leadsWithWriter_of_none fun p hp => hnone p (htraits.mem_iff.mpr hp))
        (not_leadsWithWriter_of_none hnone)

/-! ### The role of an object -/

/-- A mutable reference to a trait object is the response writer or at fault for the interface. -/
theorem IsMutableObject.roleOf_cases (h : s.IsMutableObject t bounds) (paths : InjectedPaths) :
    s.LeadsWithWriter paths bounds ∧ s.roleOf paths (s.shape t) = .ok (.injected .responseWriter) ∨
      ¬s.LeadsWithWriter paths bounds ∧ s.roleOf paths (s.shape t) = .error .interface := by
  obtain ⟨m, target, k, ht, htarget⟩ := h
  have hshape : s.shape t = .reference true (.interface ((traitsOf bounds).head?.map s.resolve) true) := by
    rw [shape, shapeWithin_of_strips ht, shapeWithin, shapeWithin_of_strips htarget, shapeWithin, leadingTrait?_eq_head?]
  rw [hshape, roleOf, LeadsWithWriter]
  cases (traitsOf bounds).head? with
  | none =>
    refine Or.inr ⟨?_, rfl⟩
    rintro ⟨p, hhead, -⟩
    cases hhead
  | some p =>
    have hitem : s.isItem (s.resolve p) (relativePathText paths.responseWriter) = true ↔ s.IsWriterTrait paths p :=
      isItem_iff
    by_cases hwriter : s.IsWriterTrait paths p
    · refine Or.inl ⟨⟨p, rfl, hwriter⟩, ?_⟩
      simp [referenceRole, hitem.mpr hwriter]
    · refine Or.inr ⟨?_, ?_⟩
      · rintro ⟨q, hq, hq'⟩
        exact hwriter (Option.some.inj hq ▸ hq')
      · simp [referenceRole, mt hitem.mp hwriter]

theorem IsMutableObject.roleOf_eq_iff (h : s.SameNames s') (ht : s.IsMutableObject t bounds)
    (ht' : s'.IsMutableObject t' bounds') (paths : InjectedPaths) :
    s'.roleOf paths (s'.shape t') = s.roleOf paths (s.shape t) ↔
      (s.LeadsWithWriter paths bounds' ↔ s.LeadsWithWriter paths bounds) := by
  have hsame : s.LeadsWithWriter paths bounds' ↔ s'.LeadsWithWriter paths bounds' := h.leadsWithWriter_iff
  rw [hsame]
  rcases ht.roleOf_cases paths with ⟨hleads, hrole⟩ | ⟨hleads, hrole⟩ <;>
    rcases ht'.roleOf_cases paths with ⟨hleads', hrole'⟩ | ⟨hleads', hrole'⟩ <;>
    simp [hleads, hleads', hrole, hrole']

/-- A parameter that is a mutable reference to a trait object is judged by the first trait among the bounds alone: it is
the response writer if that is the configured one, and else at fault for the interface. If a permutation of the bounds
keeps the first trait, it keeps the role, in particular if it only moves what is no trait. With the writer among other
traits the orders of the response writer are those that have it in front of them all; and all orders have one role exactly
if the traits are all the writer, or none is. -/
theorem roleOf_boundsInOrder (ht : s.IsMutableObject t bounds) (paths : InjectedPaths) :
    let role := s.roleOf paths (s.shape t)
    (role = .ok (.injected .responseWriter) ↔ s.LeadsWithWriter paths bounds) ∧
    (role = .error .interface ↔ ¬s.LeadsWithWriter paths bounds) ∧
    (∀ s' t' bounds', s.SameNames s' → s'.IsMutableObject t' bounds' → bounds.Perm bounds' →
      let role' := s'.roleOf paths (s'.shape t')
      ((traitsOf bounds').head? = (traitsOf bounds).head? → role' = role) ∧
      ∀ w others, (traitsOf bounds).Perm (w :: others) → s.IsWriterTrait paths w →
        (∀ p ∈ others, ¬s.IsWriterTrait paths p) →
        (role' = .ok (.injected .responseWriter) ↔ (traitsOf bounds').head? = some w)) ∧
    ((∀ s' t' bounds', s.SameNames s' → s'.IsMutableObject t' bounds' → bounds.Perm bounds' →
      s'.roleOf paths (s'.shape t') = role) ↔
      (∀ p ∈ traitsOf bounds, s.IsWriterTrait paths p) ∨ ∀ p ∈ traitsOf bounds, ¬s.IsWriterTrait paths p) := by
  intro role
  have writer {s : Scope} {t : TypeExpr} {bounds : List Bound} (ht : s.IsMutableObject t bounds) :
      s.roleOf paths (s.shape t) = .ok (.injected .responseWriter) ↔ s.LeadsWithWriter paths bounds := by
    rcases ht.roleOf_cases paths with ⟨hleads, hrole⟩ | ⟨hleads, hrole⟩ <;> simp [hleads, hrole]
  refine ⟨writer ht, ?_, fun s' t' bounds' hnames ht' hperm => ⟨fun hhead => ?_, fun w others htraits hw hothers => ?_⟩, ?_⟩
  · rcases ht.roleOf_cases paths with ⟨hleads, hrole⟩ | ⟨hleads, hrole⟩ <;> simp [role, hleads, hrole]
  · exact (ht.roleOf_eq_iff hnames ht' paths).mpr (leadsWithWriter_congr hhead)
  · rw [writer ht', ← hnames.leadsWithWriter_iff]
    exact leadsWithWriter_iff_head? ((traitsOf_perm hperm).symm.trans htraits) hw hothers
  · rw [← forall_perm_leadsWithWriter_iff]
    constructor
    · intro h bounds' hperm
      have ht' : s.IsMutableObject (.reference true (.object bounds')) bounds' := ⟨_, _, _, .done, .done⟩
      exact (ht.roleOf_eq_iff (.refl s) ht' paths).mp (h s _ bounds' (.refl s) ht' hperm)
    · exact fun h s' t' bounds' hnames ht' hperm => (ht.roleOf_eq_iff hnames ht' paths).mpr (h bounds' hperm)

/-- An alias `Out` of an object with the writer and `Send`, declared in both orders. -/
theorem roleOf_boundsInOrder_alias :
    let written (name : String) : Path := ⟨false, [], ⟨name, .none⟩⟩
    let object (names : List String) : TypeExpr := .object (names.map fun name => .trait (written name))
    let s (names : List String) (spelling : String) : Scope := ⟨[("Out", .typeAlias (object names) spelling false)], [],
      [("ResponseWriter", ⟨["handlergen", "transport", "ResponseWriter"], ⟨"h.rs", ⟨1, 1⟩⟩⟩)], []⟩
    let front := s ["ResponseWriter", "Send"] "dyn ResponseWriter + Send"
    let behind := s ["Send", "ResponseWriter"] "dyn Send + ResponseWriter"
    let paths : InjectedPaths := ⟨"handlergen::transport::Request", "handlergen::transport::ResponseWriter"⟩
    let t : TypeExpr := .reference true (.path (written "Out"))
    front.roleOf paths (front.shape t) = .ok (.injected .responseWriter) ∧
      behind.roleOf paths (behind.shape t) ≠ .ok (.injected .responseWriter) := by
  intro written object s front behind paths t
  have bounds (names : List String) (spelling : String) :
      (s names spelling).IsMutableObject t (names.map fun name => .trait (written name)) := by
    have halias : (s names spelling).IsAliasOf (written "Out") (object names) := ⟨"Out", spelling, rfl, by rfl, rfl⟩
    exact ⟨_, _, _, .done, .aliasOf halias .done⟩
  have hwriter : front.IsWriterTrait paths (written "ResponseWriter") := by
    change _ ∈ ["handlergen::transport::ResponseWriter"]
    decide
  have hmarker : ∀ p ∈ [written "Send"], ¬front.IsWriterTrait paths p := by
    rw [List.forall_mem_singleton]
    change _ ∉ []
    decide
  have hnames : front.SameNames behind := by
    refine ⟨fun name => ?_, fun _ => Iff.rfl, fun _ => rfl, fun _ => Iff.rfl⟩
    change NameMap.contains [("Out", _)] name = NameMap.contains [("Out", _)] name
    rw [NameMap.contains, NameMap.contains, NameMap.get?_cons, NameMap.get?_cons]
    split <;> rfl
  obtain ⟨hfront, -, horders, -⟩ := roleOf_boundsInOrder (bounds _ "dyn ResponseWriter + Send") paths
  obtain ⟨-, hbehind⟩ := horders behind t _ hnames (bounds _ "dyn Send + ResponseWriter") (.swap _ _ _)
  refine ⟨hfront.mpr ⟨_, rfl, hwriter⟩, fun hrole => ?_⟩
  have hhead := (hbehind _ _ (.refl _) hwriter hmarker).mp hrole
  exact absurd (congrArg (·.last.name) (Option.some.inj hhead)) (by decide)

/-- The order of the writer and `Send` matters. -/
theorem not_forall_perm_roleOf_eq :
    let written (name : String) : Path := ⟨false, [], ⟨name, .none⟩⟩
    let s : Scope :=
      ⟨[], [], [("ResponseWriter", ⟨["handlergen", "transport", "ResponseWriter"], ⟨"h.rs", ⟨1, 1⟩⟩⟩)], []⟩
    let paths : InjectedPaths := ⟨"handlergen::transport::Request", "handlergen::transport::ResponseWriter"⟩
    let bounds : List Bound := [.trait (written "ResponseWriter"), .trait (written "Send")]
    let role (bounds : List Bound) := s.roleOf paths (s.shape (.reference true (.object bounds)))
    ¬∀ bounds', bounds.Perm bounds' → role bounds' = role bounds := by
  intro written s paths bounds role h
  have hrole := h _ (List.Perm.swap _ _ _)
  have shape (bounds : List Bound) :
      s.shape (.reference true (.object bounds)) = .reference true (.interface (s.leadingTrait? bounds) true) := by
    rw [Scope.shape, shapeWithin, shapeWithin]
  simp only [role, shape] at hrole
  exact absurd hrole (by decide)

end Scope

end Switchboard
