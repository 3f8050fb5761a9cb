import Mathlib
import Switchboard.Proofs.MessageWriting

/-! # The headers of a request

Names that are equal up to case are stored alike (`storedName?_congr`), so adding a value and setting one change what is
found under such names and under no others (`all_append`, `all_insert_contentType`). A value that is added comes behind
those that are there, while the header for the kind of a body is set in place of all. From this follows what one call does
to the first value of a name (`head?_all_headersBehind`), and from that what a whole sequence of calls does. There is no limit
to the number of headers here.

A value can have any characters but controls. It can be read back only if all of them are ASCII (`isReadable_iff`), so of
the values that are stored a request tells just those. -/

namespace Switchboard

namespace Headers

variable {n name stored value : String}

/-! ### Names up to case -/

theorem isNameChar_of_isAlpha {c : Char} (h : c.isAlpha = true) : isNameChar c = true := by
  simp only [isNameChar, Char.isAlphanum, h, Bool.true_or]

theorem isNameChar_toLower (c : Char) : isNameChar c.toLower = isNameChar c := by
  by_cases h : c.isUpper = true
  · have halpha : c.isAlpha = true := by rw [Char.isAlpha, h, Bool.true_or]
    rw [isNameChar_of_isAlpha halpha, isNameChar_of_isAlpha (c.isAlpha_toLower_eq_isAlpha.trans halpha)]
  · rw [Char.toLower_eq_of_not_isUpper h]

/-- What a name is stored as, said of its lower case alone. -/
theorem storedName?_eq (name : String) : storedName? name =
    if name.toLower.toList ≠ [] ∧ name.toLower.toList.length ≤ longestName ∧ name.toLower.toList.all isNameChar = true then
      some name.toLower
    else none := by
  have hchars : name.toLower.toList = name.toList.map Char.toLower := String.toList_map
  have hall : (name.toList.map Char.toLower).all isNameChar = name.toList.all isNameChar := by
    rw [List.all_map]
    exact congrArg _ (funext isNameChar_toLower)
  have hname : String.ofList (name.toList.map Char.toLower) = name.toLower := by rw [← hchars, String.ofList_toList]
  rw [storedName?, hname, hchars, hall, List.length_map]
  refine if_congr ?_ rfl rfl
  simp [and_assoc]

theorem storedName?_congr (h : n.toLower = name.toLower) : storedName? n = storedName? name := by
  rw [storedName?_eq, storedName?_eq, h]

theorem eq_toLower_of_storedName? (h : storedName? name = some stored) : stored = name.toLower := by
  rw [storedName?_eq] at h
  split at h
  · exact (Option.some.inj h).symm
  · cases h

/-! ### The values of a name -/

/-- What is set under a stored name is found under all names that are equal to it up to case. -/
theorem all_set (h : Headers) (hname : storedName? n = some stored) (values : List String) (name : String) :
    (Headers.mk (h.values.set stored values)).all name = if n.toLower = name.toLower then values else h.all name := by
  by_cases hsame : n.toLower = name.toLower
  · rw [if_pos hsame, all_of_storedName? (storedName?_congr hsame ▸ hname), NameMap.get?_set_self]
    rfl
  · rw [if_neg hsame]
    cases hother : storedName? name with
    | none => rw [all, all, hother]
    | some other =>
      have hne : stored ≠ other := by
        rw [eq_toLower_of_storedName? hname, eq_toLower_of_storedName? hother]
        exact hsame
      rw [all_of_storedName? hother, all_of_storedName? hother, NameMap.get?_set, if_neg hne]

/-- Whether a name and a value are stored at all. -/
def accepts (name value : String) : Bool :=
  (storedName? name).isSome && isValue value

theorem append_of_not_accepts (h : Headers) (hno : accepts n value = false) : h.append n value = h := by
  rw [append]
  cases hname : storedName? n with
  | none => rfl
  | some stored =>
    have hvalue : isValue value = false := by simpa [accepts, hname] using hno
    rw [hvalue]
    rfl

theorem all_append (h : Headers) (hyes : accepts n value = true) (name : String) :
    (h.append n value).all name = if n.toLower = name.toLower then h.all name ++ [value] else h.all name := by
  obtain ⟨hsome, hvalue⟩ := Bool.and_eq_true_iff.mp hyes
  obtain ⟨stored, hname⟩ := Option.isSome_iff_exists.mp hsome
  have happend : h.append n value = ⟨h.values.set stored (h.all n ++ [value])⟩ := by
    rw [append, all_of_storedName? hname, hname]
    exact if_pos hvalue
  rw [happend, all_set h hname]
  by_cases hsame : n.toLower = name.toLower
  · rw [if_pos hsame, if_pos hsame, all, all, storedName?_congr hsame]
  · rw [if_neg hsame, if_neg hsame]

theorem all_insert_contentType (h : Headers) (name : String) :
    (h.insert contentType jsonContent).all name =
      if contentType.toLower = name.toLower then [jsonContent] else h.all name := by
  rw [insert_contentType, all_set h storedName?_contentType]

/-! ### Values that can be read back -/

/-- Of the values that are stored, those can be read back that are all ASCII. -/
theorem isReadable_iff (h : isValue value = true) : isReadable value = true ↔ ∀ c ∈ value.toList, c.toNat < 128 := by
  rw [isValue, List.all_eq_true] at h
  rw [isReadable, List.all_eq_true]
  refine forall₂_congr fun c hc => ?_
  have hchar := h c hc
  simp only [isValueChar, Bool.or_eq_true, beq_iff_eq, Bool.and_eq_true, decide_eq_true_eq] at hchar ⊢
  constructor
  · rintro (rfl | ⟨-, hlt⟩)
    · decide
    · exact Nat.lt_succ_of_lt hlt
  · intro hlt
    rcases hchar with htab | ⟨hlow, hne⟩
    · exact Or.inl htab
    · exact Or.inr ⟨hlow, by omega⟩

/-- What is told of a name is its first value, if that is all ASCII, and else nothing. -/
theorem get?_eq_head?_iff {h : Headers} (hvalue : ∀ value, (h.all name).head? = some value → isValue value = true) :
    (h.get? name = (h.all name).head? ↔ ∀ value, (h.all name).head? = some value → ∀ c ∈ value.toList, c.toNat < 128) ∧
      (h.get? name ≠ (h.all name).head? → h.get? name = none) := by
  rw [get?]
  cases hall : h.all name with
  | nil => exact ⟨iff_of_true rfl nofun, fun _ => rfl⟩
  | cons value rest =>
    have hreadable := isReadable_iff (hvalue value (by rw [hall, List.head?_cons]))
    simp only [List.head?_cons, Option.some_inj, forall_eq']
    by_cases hread : isReadable value = true
    · rw [if_pos hread]
      exact ⟨iff_of_true rfl (hreadable.mp hread), fun hne => absurd rfl hne⟩
    · rw [if_neg hread]
      exact ⟨iff_of_false nofun fun hascii => hread (hreadable.mpr hascii), fun _ => rfl⟩

end Headers

/-! ### Calls -/

/-- A call that builds on a request: it adds a header, or replaces the body by bytes or by the JSON text of a value. -/
inductive RequestCall (Value : Type) where
  | header (name value : String)
  | body (bytes : List UInt8)
  | json (value : Value)
  deriving DecidableEq, Repr

namespace RequestCall

variable {Value : Type} (textOf : Value → Except JsonFault (List UInt8))

/-- The request behind a call; fails for a value that has no JSON text. -/
def run? (r : Request) : RequestCall Value → Except JsonFault Request
  | header name value => .ok (r.withHeader name value)
  | body bytes => .ok (r.withBody bytes)
  | json value => (textOf value).map r.withJsonText

/-- The request to go on with behind a call. A call that fails takes the request with it; then this is a copy from before. -/
def run (r : Request) (call : RequestCall Value) : Request :=
  match call.run? textOf r with
  | .ok after => after
  | .error _ => r

/-- A call does not fail. -/
def IsDone : RequestCall Value → Prop
  | header _ _ => True
  | body _ => True
  | json value => ∃ text, textOf value = .ok text

/-- The JSON text that a call puts in. -/
def text? : RequestCall Value → Option (List UInt8)
  | header _ _ => none
  | body _ => none
  | json value => (textOf value).toOption

/-- The body that a call puts in. -/
def body? : RequestCall Value → Option (List UInt8)
  | body bytes => some bytes
  | call => call.text? textOf

/-- The value that a call adds to a name, however that is written. -/
def valueFor? (name : String) : RequestCall Value → Option String
  | header n value => if Headers.accepts n value = true ∧ n.toLower = name.toLower then some value else none
  | body _ => none
  | json _ => none

/-- The headers behind a call. -/
def headersBehind (h : Headers) : RequestCall Value → Headers
  | header name value => h.append name value
  | body _ => h
  | json value => if ((textOf value).toOption).isSome then h.insert contentType jsonContent else h

variable {textOf} {calls : List (RequestCall Value)} {r after : Request} {name value : String}

/-! ### What one call changes -/

/-- A call changes nothing but the body and the headers. -/
theorem run_eq (call : RequestCall Value) (r : Request) : call.run textOf r =
    { r with body := (call.body? textOf).getD r.body, headers := call.headersBehind textOf r.headers } := by
  cases call with
  | header name value => rfl
  | body bytes => rfl
  | json value =>
    cases htext : textOf value with
    | ok text =>
      simp only [run, run?, body?, text?, headersBehind, htext]
      rfl
    | error fault =>
      simp only [run, run?, body?, text?, headersBehind, htext]
      rfl

theorem run?_of_isDone {call : RequestCall Value} (h : call.IsDone textOf) (r : Request) :
    call.run? textOf r = .ok (call.run textOf r) := by
  cases call with
  | header name value => rfl
  | body bytes => rfl
  | json value =>
    obtain ⟨text, htext⟩ := h
    simp only [run, run?, htext, Except.map]

theorem isDone_of_run? {call : RequestCall Value} (h : call.run? textOf r = .ok after) : call.IsDone textOf := by
  cases call with
  | header name value => exact trivial
  | body bytes => exact trivial
  | json value =>
    cases htext : textOf value with
    | ok text => exact ⟨text, htext⟩
    | error fault =>
      simp only [run?, htext, Except.map] at h
      cases h

/-- A name or a value that is none leaves the request as it is. -/
theorem run_of_not_accepts (hno : Headers.accepts name value = false) (r : Request) :
    (header name value).run textOf r = r := by
  rw [run_eq, headersBehind, r.headers.append_of_not_accepts hno]
  rfl

/-- A JSON text decides on the kind of the body, whatever was there; else the first value of a name stays, and only where
there is none can a call add it. -/
theorem head?_all_headersBehind (call : RequestCall Value) (h : Headers) (name : String) :
    ((call.headersBehind textOf h).all name).head? =
      if name.toLower = contentType ∧ (call.text? textOf).isSome = true then some jsonContent
      else (h.all name).head?.or (call.valueFor? name) := by
  have hkind : contentType = contentType.toLower := Headers.eq_toLower_of_storedName? Headers.storedName?_contentType
  cases call with
  | header n value =>
    rw [if_neg (fun h => by simpa [text?] using h.2), valueFor?, headersBehind]
    cases hyes : Headers.accepts n value with
    | false => rw [h.append_of_not_accepts hyes, if_neg (fun h => by simpa using h.1), Option.or_none]
    | true =>
      rw [Headers.all_append h hyes]
      by_cases hsame : n.toLower = name.toLower
      · rw [if_pos hsame, if_pos ⟨rfl, hsame⟩, List.head?_append, List.head?_singleton]
      · rw [if_neg hsame, if_neg (fun h => hsame h.2), Option.or_none]
  | body bytes => rw [if_neg (fun h => by simpa [text?] using h.2), valueFor?, headersBehind, Option.or_none]
  | json value =>
    rw [text?, valueFor?, headersBehind, Option.or_none]
    by_cases hsome : (textOf value).toOption.isSome = true
    · rw [if_pos hsome, Headers.all_insert_contentType, ← hkind]
      by_cases hsame : name.toLower = contentType
      · rw [if_pos hsame.symm, if_pos ⟨hsame, hsome⟩, List.head?_singleton]
      · rw [if_neg (fun h => hsame h.symm), if_neg (fun h => hsame h.1)]
    · rw [if_neg hsome, if_neg (fun h => hsome h.2)]

/-! ### What all calls change -/

/-- A chain of calls leads to the request behind all of them, unless one of them fails. -/
theorem foldlM_run?_eq_ok_iff : calls.foldlM (run? textOf) r = .ok after ↔
    (∀ call ∈ calls, call.IsDone textOf) ∧ after = calls.foldl (run textOf) r := by
  induction calls generalizing r with
  | nil =>
    rw [List.foldlM_nil, List.foldl_nil]
    exact ⟨fun h => ⟨nofun, (Except.ok.inj h).symm⟩, fun h => congrArg Except.ok h.2.symm⟩
  | cons call calls ih =>
    rw [List.foldlM_cons, List.foldl_cons, List.forall_mem_cons]
    cases hrun : call.run? textOf r with
    | error fault =>
      refine iff_of_false nofun fun ⟨⟨hdone, _⟩, _⟩ => ?_
      rw [run?_of_isDone hdone] at hrun
      cases hrun
    | ok next =>
      have hdone : call.IsDone textOf := isDone_of_run? hrun
      obtain rfl : call.run textOf r = next := Except.ok.inj ((run?_of_isDone hdone r).symm.trans hrun)
      rw [and_iff_right hdone]
      exact ih

theorem foldl_run_eq (calls : List (RequestCall Value)) (r : Request) :
    (calls.foldl (run textOf) r).method = r.method ∧ (calls.foldl (run textOf) r).path = r.path ∧
      (calls.foldl (run textOf) r).body = ((calls.filterMap (body? textOf)).getLast?).getD r.body := by
  induction calls generalizing r with
  | nil => exact ⟨rfl, rfl, rfl⟩
  | cons call calls ih =>
    obtain ⟨hmethod, hpath, hbody⟩ := ih (call.run textOf r)
    rw [List.foldl_cons, hmethod, hpath, hbody, run_eq]
    refine ⟨rfl, rfl, ?_⟩
    cases hcall : call.body? textOf with
    | none => rw [List.filterMap_cons_none hcall]; rfl
    | some bytes =>
      rw [List.filterMap_cons_some hcall, List.getLast?_cons]
      rfl

/-- The first value of a name is the kind of a JSON body if a JSON text was put in, at whatever time; else it is the one from
the beginning, or the first that a call added. -/
theorem head?_all_foldl_run (calls : List (RequestCall Value)) (r : Request) (name : String) :
    ((calls.foldl (run textOf) r).headers.all name).head? =
      if name.toLower = contentType ∧ calls.any (fun call => (call.text? textOf).isSome) = true then some jsonContent
      else (r.headers.all name).head?.or (calls.findSome? (valueFor? name)) := by
  induction calls generalizing r with
  | nil => rw [List.any_nil, if_neg (fun h => by simpa using h.2), List.findSome?_nil, Option.or_none, List.foldl_nil]
  | cons call calls ih =>
    rw [List.foldl_cons, ih, run_eq, head?_all_headersBehind]
    simp only [List.any_cons, Bool.or_eq_true]
    -- A later JSON text replaces whatever this call did to the kind of the body, so it is looked at first.
    by_cases hlater : name.toLower = contentType ∧ calls.any (fun call => (call.text? textOf).isSome) = true
    · rw [if_pos hlater, if_pos ⟨hlater.1, Or.inr hlater.2⟩]
    · rw [if_neg hlater]
      by_cases hnow : name.toLower = contentType ∧ (call.text? textOf).isSome = true
      · rw [if_pos hnow, if_pos ⟨hnow.1, Or.inl hnow.2⟩, Option.some_or]
      · rw [if_neg hnow, if_neg (fun h => h.2.elim (fun hsome => hnow ⟨h.1, hsome⟩) fun hany => hlater ⟨h.1, hany⟩),
          Option.or_assoc]
        congr 1
        rw [List.findSome?_cons]
        cases call.valueFor? name <;> rfl

/-- Whatever a call adds can be stored. -/
theorem isValue_of_valueFor? {call : RequestCall Value} (h : call.valueFor? name = some value) :
    Headers.isValue value = true := by
  cases call with
  | header n added =>
    rw [valueFor?] at h
    split at h
    · rename_i hyes
      cases h
      exact (Bool.and_eq_true_iff.mp hyes.1).2
    · cases h
  | body bytes => cases h
  | json v => cases h

end RequestCall

/-! ### Requests that are built from nothing -/

namespace Request

variable {Value : Type} (textOf : Value → Except JsonFault (List UInt8))

/-- A new request that calls build on, one after another. -/
def built (method path : String) (calls : List (RequestCall Value)) : Request :=
  calls.foldl (RequestCall.run textOf) (.of method path)

/-- The first value of a name is the kind of a JSON body if that is asked for and a JSON text was put in, at whatever time;
else it is the first that was accepted for the name. -/
theorem head?_all_built (method path : String) (calls : List (RequestCall Value)) (name : String) :
    ((built textOf method path calls).headers.all name).head? =
      if name.toLower = contentType ∧ calls.any (fun call => (call.text? textOf).isSome) = true then some jsonContent
      else calls.findSome? (RequestCall.valueFor? name) := by
  have hnone : ((of method path).headers.all name).head? = none := by
    rw [of, Headers.all]
    cases Headers.storedName? name <;> rfl
  rw [built, RequestCall.head?_all_foldl_run, hnone, Option.none_or]

theorem isValue_of_head?_all_built {textOf : Value → Except JsonFault (List UInt8)} {method path : String}
    {calls : List (RequestCall Value)} {name value : String}
    (h : ((built textOf method path calls).headers.all name).head? = some value) : Headers.isValue value = true := by
  rw [head?_all_built] at h
  split at h
  · cases h
    decide
  · obtain ⟨call, -, hcall⟩ := List.exists_of_findSome?_eq_some h
    exact RequestCall.isValue_of_valueFor? hcall

/-- Whatever calls build on a new request, its method and path stay, its body is the last that was put in, and calls with a
name or a value that is none can be left out; a chain of the calls gives this request, unless a value has no JSON text. The
first value of a name is the kind of a JSON body if that is asked for and a JSON text was put in, at whatever time, and
else the first that was accepted for the name up to case. The request tells this value exactly if it is all ASCII, and
otherwise nothing. -/
theorem header_built_iff (method path : String) (calls : List (RequestCall Value)) :
    let r := built textOf method path calls
    r.method = method ∧ r.path = path ∧
    (∀ after, calls.foldlM (RequestCall.run? textOf) (.of method path) = .ok after ↔
      (∀ call ∈ calls, call.IsDone textOf) ∧ after = r) ∧
    (∀ front name value back, calls = front ++ .header name value :: back → Headers.accepts name value = false →
      built textOf method path (front ++ back) = r) ∧
    r.body = ((calls.filterMap (RequestCall.body? textOf)).getLast?).getD [] ∧
    ∀ name,
      let first := (r.headers.all name).head?
      (first = if name.toLower = contentType ∧ calls.any (fun call => (call.text? textOf).isSome) = true then
          some jsonContent
        else calls.findSome? (RequestCall.valueFor? name)) ∧
      (r.header name = first ↔ ∀ value, first = some value → ∀ c ∈ value.toList, c.toNat < 128) ∧
      (r.header name ≠ first → r.header name = none) := by
  intro r
  have hframe : r.method = method ∧ r.path = path ∧
      r.body = ((calls.filterMap (RequestCall.body? textOf)).getLast?).getD [] :=
    RequestCall.foldl_run_eq calls (.of method path)
  refine ⟨hframe.1, hframe.2.1, fun after => RequestCall.foldlM_run?_eq_ok_iff, ?_, hframe.2.2, fun name => ?_⟩
  · rintro front name value back rfl hno
    simp only [r, built, List.foldl_append, List.foldl_cons, RequestCall.run_of_not_accepts hno]
  · exact ⟨head?_all_built textOf method path calls name,
      Headers.get?_eq_head?_iff fun value hvalue => isValue_of_head?_all_built hvalue⟩

/-- A value with an accent is stored but not told, and it hides the plain value behind it. -/
theorem header_built_iff_accented :
    let textOf (v : Json) : Except JsonFault (List UInt8) := .ok (Text.utf8 v.compact)
    let r := built textOf "GET" "/" [.header "X-Name" "Zoë", .header "x-name" "Zoe"]
    r.headers.all "x-NAME" = ["Zoë", "Zoe"] ∧ r.header "x-NAME" = none := by
  intro textOf r
  obtain ⟨-, -, -, -, -, hnames⟩ := header_built_iff textOf "GET" "/" [.header "X-Name" "Zoë", .header "x-name" "Zoe"]
  obtain ⟨-, hiff, hnone⟩ := hnames "x-NAME"
  have hall : r.headers.all "x-NAME" = ["Zoë", "Zoe"] := by decide
  have hfirst : (r.headers.all "x-NAME").head? = some "Zoë" := by rw [hall, List.head?_cons]
  refine ⟨hall, hnone fun h => ?_⟩
  have hascii : 'ë'.toNat < 128 := hiff.mp h "Zoë" hfirst 'ë' (by decide)
  exact absurd hascii (by decide)

end Request

end Switchboard
