import Switchboard.Proofs.AliasExpansion
import Switchboard.Proofs.Handlers
import Switchboard.Proofs.Roles

/-! # How results are handed on

Parameters and results are told apart by two different ways through the aliases of a module. A parameter is classified
behind all aliases on the spine of its type, by whatever path they are named. A result is looked at behind aliases under
a single name only: an alias that is named through `self` is left as it stands, and of a tuple's element also the
parentheses behind the last alias that may be followed. `LeadsByName` is the way of the results, and it is a part of the
spine (`LeadsByName.shapeWithin_eq`).

So a type that is data by value is handed on by value. One that is data in a box is handed on as a box exactly if its box
is found on the way of the results (`results_of_data`). -/

namespace Switchboard

open Source

/-- What is returned is handed on as a parameter of its type is supplied, but for a box that is not found. -/
structure Role.IsHandedOn (role : Role) (found : Prop) (handed : Passing) : Prop where
  byValue : ∀ type, role = .byValue type → handed = .byValue
  byPointer : ∀ type, role = .byPointer type → (handed = .byPointer ↔ found)

namespace Scope

/-- The first type leads through parentheses, and so many aliases under a single name, to the second. -/
inductive LeadsByName (s : Scope) : TypeExpr → Nat → TypeExpr → Prop where
  | done {t : TypeExpr} : LeadsByName s t 0 t
  | paren {t u : TypeExpr} {k : Nat} : LeadsByName s t k u → LeadsByName s (.paren t) k u
  | aliasOf {p : Path} {target u : TypeExpr} {k : Nat} (h : s.IsAliasOf p target) (hname : p.initial = []) :
      LeadsByName s target k u → LeadsByName s (.path p) (k + 1) u

/-- A type that leads to a box through aliases under a single name. -/
def NamesBox (s : Scope) (t : TypeExpr) : Prop :=
  ∃ k p inner, s.LeadsByName t k (.path p) ∧ s.IsBoxOf p inner

/-- A type that leads to a box before the last alias that may be followed, or where the target of that alias starts. -/
def NamesBoxInReach (s : Scope) (t : TypeExpr) : Prop :=
  ∃ k p inner, s.LeadsByName t k (.path p) ∧ s.IsBoxOf p inner ∧
    (k < aliasLimit ∨
      ∃ q, s.LeadsByName t (aliasLimit - 1) (.path q) ∧ q.initial = [] ∧ s.IsAliasOf q (.path p))

variable {s : Scope} {p : Path} {t u v : TypeExpr} {n k c : Nat}

theorem LeadsByName.trans {j : Nat} (h : s.LeadsByName t k u) (h' : s.LeadsByName u j v) :
    s.LeadsByName t (k + j) v := by
  induction h with
  | done => rwa [Nat.zero_add]
  | paren _ ih => exact .paren (ih h')
  | aliasOf halias hname _ ih =>
    rw [Nat.add_right_comm]
    exact .aliasOf halias hname (ih h')

/-- The way of the results is a part of the spine: the shape stays the same on it. -/
theorem LeadsByName.shapeWithin_eq (h : s.LeadsByName t k u) : s.shapeWithin (n + k) t = s.shapeWithin n u := by
  induction h with
  | done => rfl
  | paren _ ih =>
    rw [shapeWithin]
    exact ih
  | aliasOf halias _ _ ih =>
    rw [← Nat.add_assoc, shapeWithin_alias_succ halias]
    exact ih

/-- A type with an expansion of so many aliases whose shape is not unsupported. -/
def IsShaped (s : Scope) (c : Nat) (t : TypeExpr) : Prop :=
  ∃ v, s.Expands t c v ∧ ∀ form, s.shapeWithin 0 v ≠ .unsupported form

theorem IsShaped.shapeWithin_ne (h : s.IsShaped c t) (hc : c ≤ n) (form : UnsupportedForm) :
    s.shapeWithin n t ≠ .unsupported form := by
  obtain ⟨v, hexpands, hv⟩ := h
  rw [shapeWithin_of_expands hexpands hc 0]
  exact hv form

/-- The aliases on the way of the results are counted among those of the expansion. -/
theorem LeadsByName.isShaped (h : s.LeadsByName t k u) (ht : s.IsShaped c t) : ∃ c', c = c' + k ∧ s.IsShaped c' u := by
  obtain ⟨v, hexpands, hv⟩ := ht
  induction h generalizing c v with
  | done => exact ⟨c, rfl, v, hexpands, hv⟩
  | paren _ ih =>
    cases hexpands with
    | paren hexpands =>
      refine ih _ hexpands fun form => ?_
      have := hv form
      rwa [shapeWithin] at this
    | other hend => exact hend.elim
  | aliasOf halias _ _ ih =>
    cases hexpands with
    | boxOf hbox => exact absurd halias hbox.not_isAliasOf
    | aliasOf halias' hexpands =>
      obtain rfl := halias.unique halias'
      obtain ⟨c', rfl, hu⟩ := ih _ hexpands hv
      exact ⟨c', rfl, hu⟩
    | path _ hnone => exact absurd halias (hnone _)
    | other hend => exact hend.elim

/-! ### The expansion of a result -/

theorem aliasTarget?_of_isAliasOf (h : s.IsAliasOf p u) (hname : p.initial = []) : s.aliasTarget? p = some u := by
  obtain ⟨name, spelling, -, hresolve, htype⟩ := h
  have hlast : p.last.name = name := by
    obtain ⟨-, hnames⟩ := resolve_eq_localType hresolve
    simpa [Path.names, Path.segments, hname] using hnames
  simp [aliasTarget?, hname, hlast, htype]

/-- A path under whose name the module declares an alias is a path of that alias, or it has arguments. -/
theorem isAliasOf_of_aliasTarget? (h : s.aliasTarget? p = some u) :
    p.initial = [] ∧ (s.IsAliasOf p u ∨ p.isGeneric = true ∧ s.types.contains p.last.name = true) := by
  rw [aliasTarget?] at h
  split at h
  · rename_i hempty
    have hname : p.initial = [] := by simpa using hempty
    split at h
    · rename_i target spelling htype
      cases h
      have hcontains : s.types.contains p.last.name = true := by simp [NameMap.contains, htype]
      refine ⟨hname, ?_⟩
      by_cases hgeneric : p.isGeneric = true
      · exact Or.inr ⟨hgeneric, hcontains⟩
      · have hresolve : s.resolve p = .localType p.last.name := by
          simp [resolve, Path.names, Path.segments, hname, resolveNames, resolveName, hcontains]
        exact Or.inl ⟨p.last.name, spelling, by simpa using hgeneric, hresolve, htype⟩
    · cases h
  · cases h

theorem aliasTarget?_eq_none_of_isBoxOf (h : s.IsBoxOf p u) : s.aliasTarget? p = none := by
  rw [Option.eq_none_iff_forall_ne_some]
  intro target htarget
  obtain ⟨hname, halias | ⟨-, hcontains⟩⟩ := isAliasOf_of_aliasTarget? htarget
  · exact h.not_isAliasOf halias
  · rcases h.2.2 with ⟨-, hforeign⟩ | hstandard
    · rw [h.1, hforeign] at hcontains
      cases hcontains
    · exact initial_ne_nil_of_isStandard (by simp) hstandard hname

@[simp] theorem expandWithin_zero (s : Scope) (t : TypeExpr) : s.expandWithin 0 t = t := by
  unfold expandWithin
  simp

theorem expandWithin_paren (s : Scope) (n : Nat) (t : TypeExpr) :
    s.expandWithin (n + 1) (.paren t) = s.expandWithin (n + 1) t := by
  rw [expandWithin]
  simp

theorem expandWithin_alias (h : s.IsAliasOf p u) (hname : p.initial = []) (n : Nat) :
    s.expandWithin (n + 1) (.path p) = s.expandWithin n u := by
  rw [expandWithin]
  simp [aliasTarget?_of_isAliasOf h hname]

theorem expandWithin_of_aliasTarget?_eq_none (h : s.aliasTarget? p = none) (n : Nat) :
    s.expandWithin n (.path p) = .path p := by
  cases n with
  | zero => exact expandWithin_zero s _
  | succ n =>
    rw [expandWithin]
    simp [h]

theorem expandWithin_box (h : s.IsBoxOf p u) (n : Nat) : s.expandWithin n (.path p) = .path p :=
  expandWithin_of_aliasTarget?_eq_none (aliasTarget?_eq_none_of_isBoxOf h) n

/-- As long as more aliases may be followed than there are on the way, the expansion goes on from its end. -/
theorem LeadsByName.expandWithin_add (h : s.LeadsByName t k u) (n : Nat) :
    s.expandWithin (n + 1 + k) t = s.expandWithin (n + 1) u := by
  induction h with
  | done => rfl
  | @paren t u k _ ih =>
    have harrange : n + 1 + k = n + k + 1 := by omega
    rw [harrange] at ih ⊢
    rw [expandWithin_paren, ih]
  | aliasOf halias hname _ ih => rw [← Nat.add_assoc, expandWithin_alias halias hname, ih]

/-- A path that is no alias, with fewer aliases before it than may be followed, is what a type expands to. -/
theorem LeadsByName.expand_eq (h : s.LeadsByName t k (.path p)) (hend : s.aliasTarget? p = none) (hk : k < aliasLimit) :
    s.expand t = .path p := by
  obtain ⟨n, hn⟩ : ∃ n, aliasLimit = n + 1 + k := ⟨aliasLimit - 1 - k, by omega⟩
  rw [expand, hn, h.expandWithin_add, expandWithin_of_aliasTarget?_eq_none hend]

theorem LeadsByName.expand_eq_box (h : s.LeadsByName t k (.path p)) (hbox : s.IsBoxOf p u) (hk : k < aliasLimit) :
    s.expand t = .path p :=
  h.expand_eq (aliasTarget?_eq_none_of_isBoxOf hbox) hk

/-- When the last alias that may be followed is the last on the way, only parentheses are left. -/
theorem LeadsByName.expandWithin_self (h : s.LeadsByName t k u) : s.LeadsByName (s.expandWithin k t) 0 u := by
  induction h with
  | done =>
    rw [expandWithin_zero]
    exact .done
  | @paren t u k hleads ih =>
    cases k with
    | zero =>
      rw [expandWithin_zero]
      exact .paren hleads
    | succ k => rwa [expandWithin_paren]
  | aliasOf halias hname _ ih => rwa [expandWithin_alias halias hname]

/-- The expansion that ends at a path, after the last alias that may be followed, ends at the target of that alias. -/
theorem LeadsByName.exists_last_alias (h : s.LeadsByName t k (.path p)) {n : Nat} (hk : k = n + 1)
    (hexpand : s.expandWithin k t = .path p) :
    ∃ q, s.LeadsByName t n (.path q) ∧ q.initial = [] ∧ s.IsAliasOf q (.path p) := by
  generalize hu : TypeExpr.path p = u at h
  induction h generalizing n with
  | done => cases hk
  | paren _ ih =>
    subst hk
    rw [expandWithin_paren] at hexpand
    obtain ⟨q, hleads, hq⟩ := ih rfl hexpand hu
    exact ⟨q, .paren hleads, hq⟩
  | @aliasOf q target u k halias hname hleads ih =>
    rw [expandWithin_alias halias hname] at hexpand
    cases k with
    | zero =>
      obtain rfl : n = 0 := by omega
      rw [expandWithin_zero] at hexpand
      subst hu hexpand
      exact ⟨q, .done, hname, halias⟩
    | succ k =>
      obtain ⟨q', hleads, hq'⟩ := ih rfl hexpand hu
      obtain rfl : n = k + 1 := by omega
      exact ⟨q', .aliasOf halias hname hleads, hq'⟩

/-- A single name with arguments has no shape, unless it is a box. -/
theorem exists_unsupported_of_generic (hname : p.initial = []) (hgeneric : p.isGeneric = true)
    (hbox : ∀ t, ¬s.IsBoxOf p t) : ∃ form, ∀ n, s.shapeWithin n (.path p) = .unsupported form := by
  cases s.pathKind p with
  | boxOf t h => exact absurd h (hbox t)
  | scalar name h =>
    simp [Path.isGeneric, Path.segments, hname, h.1] at hgeneric
  | aliasOf target h =>
    obtain ⟨_, _, hplain, -⟩ := h
    simp [hplain] at hgeneric
  | trait name h => simp [h.1] at hgeneric
  | named r h => simp [h.1.1] at hgeneric
  | unknown h => simp [h.1] at hgeneric
  | other form h => exact ⟨form, h⟩

theorem exists_leads_of_stop (h : s.expandWithin n t = t) : ∃ k ≤ n, s.LeadsByName t k (s.expandWithin n t) := by
  rw [h]
  exact ⟨0, Nat.zero_le n, .done⟩

/-- The expansion of a type that has a shape goes along the way of the results. -/
theorem IsShaped.exists_leads (h : s.IsShaped c t) (n : Nat) : ∃ k ≤ n, s.LeadsByName t k (s.expandWithin n t) := by
  obtain ⟨v, hexpands, hshape⟩ := h
  induction hexpands generalizing n with
  | @paren t u c h ih =>
    cases n with
    | zero => exact exists_leads_of_stop (expandWithin_zero s _)
    | succ n =>
      rw [shapeWithin] at hshape
      obtain ⟨k, hk, hleads⟩ := ih (n + 1) hshape
      rw [expandWithin_paren]
      exact ⟨k, hk, .paren hleads⟩
  | reference => exact exists_leads_of_stop (by unfold expandWithin; simp)
  | boxOf hbox => exact exists_leads_of_stop (expandWithin_box hbox n)
  | @aliasOf p target u c halias h ih =>
    cases n with
    | zero => exact exists_leads_of_stop (expandWithin_zero s _)
    | succ n =>
      by_cases hname : p.initial = []
      · obtain ⟨k, hk, hleads⟩ := ih n hshape
        rw [expandWithin_alias halias hname]
        exact ⟨k + 1, by omega, .aliasOf halias hname hleads⟩
      · refine exists_leads_of_stop (expandWithin_of_aliasTarget?_eq_none ?_ _)
        simp [aliasTarget?, hname]
  | @path p hbox halias =>
    refine exists_leads_of_stop (expandWithin_of_aliasTarget?_eq_none ?_ _)
    rw [Option.eq_none_iff_forall_ne_some]
    intro target htarget
    -- With arguments, the name of an alias has no shape.
    obtain ⟨hname, htarget | ⟨hgeneric, -⟩⟩ := isAliasOf_of_aliasTarget? htarget
    · exact halias target htarget
    · obtain ⟨form, hform⟩ := exists_unsupported_of_generic hname hgeneric hbox
      exact hshape form (hform 0)
  | @other t hend =>
    refine exists_leads_of_stop ?_
    unfold expandWithin
    cases t with
    | paren _ | reference _ _ | path _ => exact hend.elim
    | _ => simp

/-! ### Boxes among results -/

theorem isBoxed_iff : s.isBoxed t = true ↔ ∃ p inner, s.expand t = .path p ∧ s.IsBoxOf p inner := by
  rw [isBoxed]
  split
  · rename_i p hexpand
    rw [Option.isSome_iff_exists]
    constructor
    · rintro ⟨inner, hbox⟩
      exact ⟨p, inner, hexpand, boxed?_eq_some_iff.mp hbox⟩
    · rintro ⟨q, inner, hexpand', hbox⟩
      rw [hexpand, TypeExpr.path.injEq] at hexpand'
      exact ⟨inner, boxed?_eq_some_iff.mpr (hexpand' ▸ hbox)⟩
  · rename_i hnone
    refine ⟨nofun, ?_⟩
    rintro ⟨p, inner, hexpand, -⟩
    exact absurd hexpand (hnone p)

/-- As an element of a tuple, a type is taken for a box exactly if it leads to one in reach. -/
theorem IsShaped.isBoxed_iff_namesBoxInReach (h : s.IsShaped c t) : s.isBoxed t = true ↔ s.NamesBoxInReach t := by
  rw [isBoxed_iff]
  constructor
  · rintro ⟨p, inner, hexpand, hbox⟩
    obtain ⟨k, hk, hleads⟩ := h.exists_leads aliasLimit
    rw [expand] at hexpand
    rw [hexpand] at hleads
    refine ⟨k, p, inner, hleads, hbox, ?_⟩
    rcases Nat.lt_or_eq_of_le hk with hk | rfl
    · exact Or.inl hk
    · exact Or.inr (hleads.exists_last_alias rfl hexpand)
  · rintro ⟨k, p, inner, hleads, hbox, hk | ⟨q, hq, hname, halias⟩⟩
    · exact ⟨p, inner, hleads.expand_eq_box hbox hk, hbox⟩
    · refine ⟨p, inner, ?_, hbox⟩
      have hlimit : aliasLimit = 0 + 1 + (aliasLimit - 1) := by decide
      rw [expand, hlimit, hq.expandWithin_add, expandWithin_alias halias hname, expandWithin_zero]

/-- Returned alone, a type is expanded twice, and taken for a box exactly if it leads to one at all. -/
theorem IsShaped.isBoxed_expand_iff (h : s.IsShaped c t) (hc : c ≤ aliasLimit) :
    s.isBoxed (s.expand t) = true ↔ s.NamesBox t := by
  rw [isBoxed_iff]
  obtain ⟨k, hk, hleads⟩ := h.exists_leads aliasLimit
  constructor
  · rintro ⟨p, inner, hexpand, hbox⟩
    obtain ⟨c', -, hu⟩ := hleads.isShaped h
    obtain ⟨j, -, hleads'⟩ := hu.exists_leads aliasLimit
    rw [expand, expand] at hexpand
    rw [hexpand] at hleads'
    exact ⟨k + j, p, inner, hleads.trans hleads', hbox⟩
  · rintro ⟨j, p, inner, hbox, hp⟩
    refine ⟨p, inner, ?_, hp⟩
    -- What is left after the first time are parentheses around the box at most.
    have hrest : s.LeadsByName (s.expand t) 0 (.path p) := by
      obtain ⟨c', hcount, -⟩ := hbox.isShaped h
      rcases Nat.lt_or_eq_of_le (by omega : j ≤ aliasLimit) with hj | rfl
      · rw [hbox.expand_eq_box hp hj]
        exact .done
      · exact hbox.expandWithin_self
    exact hrest.expand_eq_box hp (by decide)

/-- The expansion of a type that has a shape is no tuple. -/
theorem IsShaped.expand_ne_tuple (h : s.IsShaped c t) (elements : List TypeExpr) : s.expand t ≠ .tuple elements := by
  intro hexpand
  obtain ⟨k, -, hleads⟩ := h.exists_leads aliasLimit
  obtain ⟨c', -, hu⟩ := hleads.isShaped h
  rw [← expand, hexpand] at hu
  cases elements with
  | nil => exact hu.shapeWithin_ne (Nat.le_refl c') .unit (by rw [shapeWithin])
  | cons e es => exact hu.shapeWithin_ne (Nat.le_refl c') .tuple (by rw [shapeWithin])

/-! ### Parameters and results -/

section
variable {paths : InjectedPaths} {role : Role}

theorem exists_isShaped (h : s.roleOf paths (s.shape t) = .ok role) : ∃ c ≤ aliasLimit, s.IsShaped c t := by
  rcases s.exists_expands_or_isCutOff aliasLimit t with ⟨c, v, hc, hexpands⟩ | hcut
  · refine ⟨c, hc, v, hexpands, fun form hv => ?_⟩
    rw [shape, shapeWithin_of_expands hexpands hc 0, hv] at h
    cases h
  · obtain ⟨fault, hfault⟩ := roleOf_of_isCutOff (s := s) hcut paths
    rw [shape, hfault] at h
    cases h

/-- What leads to a box is no data by value. -/
theorem NamesBox.ne_byValue (hbox : s.NamesBox t) (h : s.roleOf paths (s.shape t) = .ok role) (type : DataType) :
    role ≠ .byValue type := by
  rintro rfl
  obtain ⟨k, p, inner, hleads, hp⟩ := hbox
  obtain ⟨c, hc, ht⟩ := exists_isShaped h
  obtain ⟨c', hcount, -⟩ := hleads.isShaped ht
  obtain ⟨n, hn⟩ : ∃ n, aliasLimit = n + k := ⟨aliasLimit - k, by omega⟩
  have hshape := roleOf_eq_byValue_iff.mp h
  rw [shape, hn, hleads.shapeWithin_eq, shapeWithin_box hp] at hshape
  cases type <;> cases hshape

theorem NamesBoxInReach.namesBox (h : s.NamesBoxInReach t) : s.NamesBox t := by
  obtain ⟨k, p, inner, hleads, hbox, -⟩ := h
  exact ⟨k, p, inner, hleads, hbox⟩

theorem formOf_results {file : ModuleFile} {f : Function} {form : HandlerForm} (h : s.formOf paths file f = .ok form) :
    s.resultRoles f.signature.output = (form.results, form.returnsTuple) :=
  (formOf_eq_ok_iff.mp h).2.2.2.2

/-- What is taken for a box exactly if it leads to one is handed on in the role of its type. -/
theorem isHandedOn_of_iff (hrole : s.roleOf paths (s.shape t) = .ok role) {boxed : Bool} {found : Prop}
    (hboxed : boxed = true ↔ found) (hfound : found → s.NamesBox t) :
    role.IsHandedOn found (if boxed then .byPointer else .byValue) := by
  cases boxed with
  | false =>
    have hnot : ¬found := by simpa using hboxed
    exact ⟨fun _ _ => rfl, fun _ _ => by simp [hnot]⟩
  | true =>
    have hfound' : found := hboxed.mp rfl
    exact ⟨fun type htype => absurd htype ((hfound hfound').ne_byValue hrole type), fun _ _ => by simp [hfound']⟩

/-- A type that is data by value is handed on by value, wherever it is returned. A type that is data in a box is handed on
as a box exactly if it leads to its box through aliases under a single name; and as an element of a tuple, also the box
must be found before the last alias that may be followed, or right at the start of its target. The tuple has to be found
in the same way: one that is returned under an alias behind `self` has no elements here, but is a single result. -/
theorem results_of_data {file : ModuleFile} {f : Function} {form : HandlerForm} (hform : s.formOf paths file f = .ok form)
    (table : ImportTable) (hrole : s.roleOf paths (s.shape t) = .ok role) :
    let d := (form.describe table).1
    (f.signature.output = some t →
      ∃ handed, d.results = [⟨handed, resultVariable 0⟩] ∧ d.returnsTuple = false ∧
        role.IsHandedOn (s.NamesBox t) handed) ∧
    ∀ (out : TypeExpr) (elements : List TypeExpr) (i : Nat),
      f.signature.output = some out → s.expand out = .tuple elements → elements[i]? = some t →
      ∃ handed, d.results[i]? = some ⟨handed, resultVariable i⟩ ∧ d.results.length = elements.length ∧
        d.returnsTuple = true ∧ role.IsHandedOn (s.NamesBoxInReach t) handed := by
  intro d
  obtain ⟨c, hc, ht⟩ := exists_isShaped hrole
  have hresults := formOf_results hform
  have hd : d.results = form.results.mapIdx fun index handed => ⟨handed, resultVariable index⟩ := rfl
  have htuple : d.returnsTuple = form.returnsTuple := rfl
  refine ⟨fun houtput => ?_, fun out elements i houtput hexpand helement => ?_⟩
  · rw [houtput, resultRoles] at hresults
    split at hresults
    · rename_i elements hexpand
      exact absurd hexpand (ht.expand_ne_tuple elements)
    · obtain ⟨hresults, hreturns⟩ := Prod.mk.inj hresults
      refine ⟨_, ?_, htuple.trans hreturns.symm, isHandedOn_of_iff hrole (ht.isBoxed_expand_iff hc) id⟩
      rw [hd, ← hresults]
      rfl
  · rw [houtput, resultRoles, hexpand] at hresults
    obtain ⟨hresults, hreturns⟩ := Prod.mk.inj hresults
    refine ⟨_, ?_, ?_, ?_, isHandedOn_of_iff hrole ht.isBoxed_iff_namesBoxInReach NamesBoxInReach.namesBox⟩
    · rw [hd, ← hresults, List.getElem?_mapIdx, List.getElem?_map, helement]
      rfl
    · rw [hd, ← hresults, List.length_mapIdx, List.length_map]
    · have hne : elements ≠ [] := fun hnil => by simp [hnil] at helement
      simpa [htuple, ← hreturns] using hne

/-- A box that is returned under the alias `P`, and the same box returned under `self::P`. -/
theorem results_of_data_alias :
    let box : TypeExpr := .path ⟨false, [], ⟨"Box", .angle [.path ⟨false, [], ⟨"u8", .none⟩⟩]⟩⟩
    let s : Scope := ⟨[("P", .typeAlias box "Box < u8 >" false)], [], [], []⟩
    let bare : TypeExpr := .path ⟨false, [], ⟨"P", .none⟩⟩
    let behind : TypeExpr := .path ⟨false, [⟨"self", .none⟩], ⟨"P", .none⟩⟩
    let f (t : TypeExpr) : Function := ⟨"f", ⟨2, 8⟩, true, ⟨false, false, false, false, false, [], some t⟩⟩
    ∀ (paths : InjectedPaths) (table : ImportTable),
      (∀ t ∈ [bare, behind], s.roleOf paths (s.shape t) = .ok (.byPointer (.scalar "u8"))) ∧
      ∃ form form', s.formOf paths ⟨"h.rs", []⟩ (f bare) = .ok form ∧ s.formOf paths ⟨"h.rs", []⟩ (f behind) = .ok form' ∧
        (form.describe table).1.results = [⟨.byPointer, "r0"⟩] ∧
        (form'.describe table).1.results = [⟨.byValue, "r0"⟩] := by
  intro box s bare behind f paths table
  have hbox : s.IsBoxOf ⟨false, [], ⟨"Box", .angle [.path ⟨false, [], ⟨"u8", .none⟩⟩]⟩⟩ (.path ⟨false, [], ⟨"u8", .none⟩⟩) :=
    ⟨rfl, rfl, Or.inl ⟨rfl, by decide⟩⟩
  have hscalar : s.IsScalar ⟨false, [], ⟨"u8", .none⟩⟩ "u8" := ⟨rfl, Or.inl ⟨⟨rfl, rfl, by decide⟩, by decide⟩⟩
  have halias : ∀ initial : List Segment, initial = [] ∨ initial = [⟨"self", .none⟩] →
      s.IsAliasOf ⟨false, initial, ⟨"P", .none⟩⟩ box := by
    rintro initial (rfl | rfl)
    · exact ⟨"P", _, rfl, by decide, rfl⟩
    · exact ⟨"P", _, rfl, by decide, rfl⟩
  have hrole : ∀ t ∈ [bare, behind], s.roleOf paths (s.shape t) = .ok (.byPointer (.scalar "u8")) := by
    have hbehind : ∀ initial : List Segment, initial = [] ∨ initial = [⟨"self", .none⟩] →
        s.shape (.path ⟨false, initial, ⟨"P", .none⟩⟩) = .boxed (.scalar "u8") := fun initial h => by
      rw [shape, aliasLimit, shapeWithin_alias_succ (halias initial h), shapeWithin_box hbox, shapeWithin_scalar hscalar]
    intro t ht
    rcases List.mem_pair.mp ht with rfl | rfl
    · rw [hbehind _ (Or.inl rfl)]
      rfl
    · rw [hbehind _ (Or.inr rfl)]
      rfl
  obtain ⟨form, hform⟩ : ∃ form, s.formOf paths ⟨"h.rs", []⟩ (f bare) = .ok form := ⟨_, rfl⟩
  obtain ⟨form', hform'⟩ : ∃ form', s.formOf paths ⟨"h.rs", []⟩ (f behind) = .ok form' := ⟨_, rfl⟩
  refine ⟨hrole, form, form', hform, hform', ?_, ?_⟩
  · obtain ⟨handed, hresults, -, hhanded⟩ := (results_of_data hform table (hrole bare (by simp))).1 rfl
    have hnames : s.NamesBox bare := ⟨1, _, _, .aliasOf (halias [] (Or.inl rfl)) rfl .done, hbox⟩
    rw [hresults, (hhanded.byPointer _ rfl).mpr hnames]
    rfl
  · obtain ⟨handed, hresults, -, hhanded⟩ := (results_of_data hform' table (hrole behind (by simp))).1 rfl
    have hnot : ¬s.NamesBox behind := by
      rintro ⟨k, p, inner, hleads, hp⟩
      change s.LeadsByName (.path ⟨false, [⟨"self", .none⟩], ⟨"P", .none⟩⟩) k (.path p) at hleads
      cases hleads with
      | done => exact absurd hp.1 (by decide)
      | aliasOf _ hname => cases hname
    cases handed with
    | byValue => exact hresults
    | byPointer => exact absurd ((hhanded.byPointer _ rfl).mp rfl) hnot

end

end Scope

end Switchboard
