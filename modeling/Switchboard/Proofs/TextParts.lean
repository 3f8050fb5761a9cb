import Switchboard.Proofs.PathText
import Switchboard.Text.Identifier

/-! # Parts of a text

Where a text is put together from parts, the parts can be told apart if they do not hold the character that stands
between them, or if they are lines of different kinds. Names and paths hold none of the characters that have a meaning
around them (`IsIdentifier.not_mem`, `IsIdentifierPath.not_mem`). -/

namespace Switchboard

/-! ### Two parts -/

/-- A list is in one way a part with elements of one kind and a part that starts with another. -/
theorem append_inj_of_kinds {α : Type} {p : α → Bool} {xs xs' ys ys' : List α} (h : xs ++ ys = xs' ++ ys')
    (hxs : ∀ x ∈ xs, p x = true) (hxs' : ∀ x ∈ xs', p x = true) (hys : ∀ y ∈ ys.head?, p y = false)
    (hys' : ∀ y ∈ ys'.head?, p y = false) : xs = xs' ∧ ys = ys' := by
  have front {us vs : List α} (hus : ∀ u ∈ us, p u = true) (hvs : ∀ v ∈ vs.head?, p v = false) :
      (us ++ vs).takeWhile p = us := by
    rw [List.takeWhile_append_of_pos hus]
    cases vs with
    | nil => simp
    | cons v vs => rw [List.takeWhile_cons_of_neg (by simp [hvs v rfl]), List.append_nil]
  have hfront : xs = xs' := by rw [← front hxs hys, h, front hxs' hys']
  subst hfront
  exact ⟨rfl, List.append_cancel_left h⟩

theorem append_cons_inj {α : Type} [DecidableEq α] {a : α} {xs xs' ys ys' : List α} (h : xs ++ a :: ys = xs' ++ a :: ys')
    (ha : a ∉ xs) (ha' : a ∉ xs') : xs = xs' ∧ ys = ys' := by
  have kind {us : List α} (hus : a ∉ us) : ∀ u ∈ us, decide (u ≠ a) = true := fun u hu =>
    decide_eq_true fun e => hus (e ▸ hu)
  obtain ⟨hx, hy⟩ := append_inj_of_kinds h (kind ha) (kind ha') (by simp) (by simp)
  exact ⟨hx, (List.cons.inj hy).2⟩

/-- Lists have the same elements if these can be told apart by what they are mapped to. -/
theorem eq_of_map_eq {α β : Type} {f : α → β} {xs ys : List α} (h : xs.map f = ys.map f)
    (hf : ∀ x ∈ xs, ∀ y ∈ ys, f x = f y → x = y) : xs = ys := by
  induction xs generalizing ys with
  | nil => exact (List.map_eq_nil_iff.mp h.symm).symm
  | cons x xs ih =>
    cases ys with
    | nil => cases h
    | cons y ys =>
      obtain ⟨hhead, htail⟩ := List.cons.inj h
      rw [hf x List.mem_cons_self y List.mem_cons_self hhead,
        ih htail fun x hx y hy => hf x (List.mem_cons_of_mem _ hx) y (List.mem_cons_of_mem _ hy)]

/-- Two texts in front of a separator are the same if they do not hold the character that it starts with. -/
theorem append_inj_of_head {s a a' b b' : String} {c : Char} (hs : s.toList.head? = some c)
    (h : a ++ s ++ b = a' ++ s ++ b') (ha : c ∉ a.toList) (ha' : c ∉ a'.toList) : a = a' ∧ b = b' := by
  obtain ⟨cs, hcs⟩ : ∃ cs, s.toList = c :: cs := by
    cases hlist : s.toList with
    | nil => simp [hlist] at hs
    | cons d ds =>
      rw [hlist] at hs
      exact ⟨ds, by rw [Option.some.inj hs]⟩
  have hchars := congrArg String.toList h
  simp only [String.toList_append, hcs, List.append_assoc, List.cons_append] at hchars
  obtain ⟨hfront, hback⟩ := append_cons_inj hchars ha ha'
  exact ⟨String.toList_inj.mp hfront, String.toList_inj.mp (List.append_cancel_left hback)⟩

/-- Pieces that do not hold the character their separator starts with can be told from their join. -/
theorem intercalate_inj {s : String} {c : Char} (hs : s.toList.head? = some c) {xs ys : List String}
    (hxs : ∀ x ∈ xs, c ∉ x.toList) (hys : ∀ y ∈ ys, c ∉ y.toList) (hx : xs ≠ []) (hy : ys ≠ [])
    (h : s.intercalate xs = s.intercalate ys) : xs = ys := by
  have single {x : String} {zs : List String} {z : String} (hz : zs ≠ []) (hc : c ∉ x.toList) :
      x ≠ s.intercalate (z :: zs) := by
    rintro rfl
    rw [String.intercalate_cons_of_ne_nil hz, String.toList_append, String.toList_append] at hc
    exact hc (List.mem_append_left _ (List.mem_append_right _ (List.mem_of_mem_head? hs)))
  induction xs generalizing ys with
  | nil => exact absurd rfl hx
  | cons x xs ih =>
    obtain ⟨hc, hxs⟩ := List.forall_mem_cons.mp hxs
    obtain ⟨y, ys, rfl⟩ := List.exists_cons_of_ne_nil hy
    obtain ⟨hc', hys'⟩ := List.forall_mem_cons.mp hys
    by_cases hxnil : xs = []
    · subst hxnil
      rw [String.intercalate_singleton] at h
      by_cases hynil : ys = []
      · subst hynil
        rw [h, String.intercalate_singleton]
      · exact absurd h (single hynil hc)
    · by_cases hynil : ys = []
      · subst hynil
        rw [String.intercalate_singleton] at h
        exact absurd h.symm (single hxnil hc')
      · rw [String.intercalate_cons_of_ne_nil hxnil, String.intercalate_cons_of_ne_nil hynil] at h
        obtain ⟨rfl, hrest⟩ := append_inj_of_head hs h hc hc'
        rw [ih hxs hys' hxnil hynil hrest]

theorem intercalate_ne_empty {s : String} {xs : List String} (hx : ∀ x ∈ xs, x ≠ "") (hne : xs ≠ []) :
    s.intercalate xs ≠ "" := by
  obtain ⟨x, xs, rfl⟩ := List.exists_cons_of_ne_nil hne
  have hhead : x ≠ "" := hx x List.mem_cons_self
  by_cases hnil : xs = []
  · rwa [hnil, String.intercalate_singleton]
  · rw [String.intercalate_cons_of_ne_nil hnil]
    simp [hhead]

/-- That holds for no pieces at all too, if no piece is empty. -/
theorem intercalate_inj_of_ne_empty {s : String} {c : Char} (hs : s.toList.head? = some c) {xs ys : List String}
    (hxs : ∀ x ∈ xs, c ∉ x.toList) (hys : ∀ y ∈ ys, c ∉ y.toList) (hx : ∀ x ∈ xs, x ≠ "") (hy : ∀ y ∈ ys, y ≠ "")
    (h : s.intercalate xs = s.intercalate ys) : xs = ys := by
  by_cases hxnil : xs = []
  · subst hxnil
    by_cases hynil : ys = []
    · exact hynil.symm
    · exact absurd h.symm (intercalate_ne_empty hy hynil)
  · by_cases hynil : ys = []
    · subst hynil
      exact absurd h (intercalate_ne_empty hx hxnil)
    · exact intercalate_inj hs hxs hys hxnil hynil h

/-! ### Lines -/

/-- A text without a line feed. -/
def IsOneLine (s : String) : Prop :=
  '\n' ∉ s.toList

instance (s : String) : Decidable (IsOneLine s) :=
  inferInstanceAs (Decidable ('\n' ∉ s.toList))

namespace IsOneLine

variable {s t : String}

theorem ofList {cs : List Char} (h : '\n' ∉ cs) : IsOneLine (String.ofList cs) := by
  rwa [IsOneLine, String.toList_ofList]

theorem append (hs : IsOneLine s) (ht : IsOneLine t) : IsOneLine (s ++ t) := by
  rw [IsOneLine, String.toList_append, List.mem_append, not_or]
  exact ⟨hs, ht⟩

/-- One more part and a fixed text behind it. -/
theorem followed {cs : List Char} (hs : IsOneLine s) (ht : IsOneLine t) (hcs : '\n' ∉ cs) :
    IsOneLine (s ++ t ++ String.ofList cs) :=
  (hs.append ht).append (.ofList hcs)

/-- A part between two fixed texts. -/
theorem framed {cs cs' : List Char} (hs : IsOneLine s) (hcs : '\n' ∉ cs) (hcs' : '\n' ∉ cs') :
    IsOneLine (String.ofList cs ++ s ++ String.ofList cs') :=
  followed (.ofList hcs) hs hcs'

theorem intercalate (hs : IsOneLine s) {ts : List String} (hts : ∀ t ∈ ts, IsOneLine t) : IsOneLine (s.intercalate ts) := by
  induction ts with
  | nil =>
    rw [String.intercalate_nil]
    decide
  | cons t ts ih =>
    obtain ⟨ht, hts⟩ := List.forall_mem_cons.mp hts
    by_cases hnil : ts = []
    · rwa [hnil, String.intercalate_singleton]
    · rw [String.intercalate_cons_of_ne_nil hnil]
      exact (ht.append hs).append (ih hts)

end IsOneLine

/-- The first characters of a text. -/
def leading (count : Nat) (s : String) : List Char :=
  s.toList.take count

theorem leading_ofList (count : Nat) (cs : List Char) : leading count (String.ofList cs) = cs.take count := by
  rw [leading, String.toList_ofList]

theorem leading_append {count : Nat} {cs : List Char} (h : count ≤ cs.length) (t : String) :
    leading count (String.ofList cs ++ t) = cs.take count := by
  rw [leading, String.toList_append, String.toList_ofList, List.take_append_of_le_length h]

/-! ### Identifiers -/

/-- The text of an identifier, or of a raw one with `r#` in front. -/
def IsIdentifier (name : String) : Prop :=
  ∃ c cs, (name.toList = c :: cs ∨ name.toList = 'r' :: '#' :: c :: cs) ∧ Text.isIdentifierStart c = true ∧
    ∀ d ∈ cs, Text.isIdentifierContinue d = true

/-- The text of a path: identifiers joined by `::`. -/
def IsIdentifierPath (text : String) : Prop :=
  ∃ names : ModulePath, names ≠ [] ∧ (∀ name ∈ names, IsIdentifier name) ∧ text = names.render

theorem IsIdentifier.ofList {c : Char} {cs : List Char} (hc : Text.isIdentifierStart c = true)
    (hcs : cs.all Text.isIdentifierContinue = true) : IsIdentifier (String.ofList (c :: cs)) :=
  ⟨c, cs, Or.inl String.toList_ofList, hc, List.all_eq_true.mp hcs⟩

theorem IsIdentifier.not_mem {name : String} (h : IsIdentifier name) {c : Char} (hc : Text.isIdentifierContinue c = false)
    (hraw : c ≠ '#') : c ∉ name.toList := by
  obtain ⟨d, ds, hname, hd, hds⟩ := h
  have plain : c ∉ d :: ds := by
    intro hmem
    have hcontinue : Text.isIdentifierContinue c = true := by
      rcases List.mem_cons.mp hmem with rfl | hmem
      · exact Text.isIdentifierContinue_of_start hd
      · exact hds c hmem
    rw [hc] at hcontinue
    cases hcontinue
  rcases hname with hname | hname
  · rwa [hname]
  · have hr : c ≠ 'r' := by
      rintro rfl
      exact absurd hc (by decide)
    rw [hname, List.mem_cons, List.mem_cons, not_or, not_or]
    exact ⟨hr, hraw, plain⟩

theorem IsIdentifierPath.not_mem {text : String} (h : IsIdentifierPath text) {c : Char}
    (hc : Text.isIdentifierContinue c = false) (hraw : c ≠ '#') (hcolon : c ≠ ':') : c ∉ text.toList := by
  obtain ⟨names, -, hnames, rfl⟩ := h
  exact ModulePath.not_mem_render hcolon fun name hname => (hnames name hname).not_mem hc hraw

end Switchboard
