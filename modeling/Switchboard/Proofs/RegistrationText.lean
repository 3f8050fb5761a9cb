import Switchboard.Proofs.RegistrationScope
import Switchboard.Proofs.TextParts

/-! # What a registration's text shows

The lines of a registration are told apart by how they begin: those of captures, the head of the closure, those of locals,
decoding, the call and encoding. So each part can be found again (`lines_append_inj`), and from the parts what the
handler is: the locals show what is decoded, the call shows which parameter is which variable, and the encoding shows the
results. -/

namespace Switchboard

/-! ### Variables -/

theorem not_mem_append_toString {front : String} {c : Char} (hfront : c ∉ front.toList) (hc : c.isDigit = false) (i : Nat) :
    c ∉ (front ++ toString i).toList := by
  rw [String.toList_append, List.mem_append, not_or]
  refine ⟨hfront, fun hmem => ?_⟩
  rw [Nat.toString_eq_ofList_toDigits, String.toList_ofList] at hmem
  rw [Nat.isDigit_of_mem_toDigits (by decide) (by decide) hmem] at hc
  cases hc

namespace Descriptor.IsNumbered

variable {d : Descriptor} (h : d.IsNumbered)
include h

/-- Variables are letters with numbers. -/
theorem not_mem_variableName {p : DescribedParameter} (hp : p ∈ d.parameters) {c : Char} (hc : c.isDigit = false)
    (hletters : c ∉ ['a', 'r', 'w']) : c ∉ p.variableName.toList := by
  obtain ⟨i, hi⟩ := List.getElem?_of_mem hp
  have ha : c ∉ "a".toList := fun hmem => hletters (by simp_all)
  rw [h.parameters i p hi]
  cases p.role with
  | dataByValue | dataByPointer => exact not_mem_append_toString ha hc i
  | injected what => cases what <;> exact fun hmem => hletters (by simp_all [NamedRole.variableName, Injected.variableName])

theorem variableName_ne_empty {p : DescribedParameter} (hp : p ∈ d.parameters) : p.variableName ≠ "" := by
  obtain ⟨i, hi⟩ := List.getElem?_of_mem hp
  rw [h.parameters i p hi]
  cases p.role with
  | dataByValue | dataByPointer => simp [NamedRole.variableName, parameterVariable]
  | injected what => cases what <;> simp [NamedRole.variableName, Injected.variableName]

theorem variableName_result {r : DescribedResult} (hr : r ∈ d.results) : ∃ i, r.variableName = resultVariable i := by
  obtain ⟨i, hi⟩ := List.getElem?_of_mem hr
  exact ⟨i, h.results i r hi⟩

end Descriptor.IsNumbered

/-! ### Parts of lines -/

/-- A text that ends in one way does not end in another of the same length. -/
theorem append_ne_append {s t : String} (hlength : s.toList.length = t.toList.length) (h : s ≠ t) (a b : String) :
    a ++ s ≠ b ++ t := by
  intro e
  have hchars := congrArg String.toList e
  rw [String.toList_append, String.toList_append] at hchars
  exact h (String.toList_inj.mp (List.append_inj_right' hchars hlength))

/-- The declaration of a local shows all of it. -/
theorem DataLocal.render_inj {l l' : DataLocal} (hl : ':' ∉ l.variableName.toList) (hl' : ':' ∉ l'.variableName.toList)
    (h : l.render = l'.render) : l = l' := by
  obtain ⟨v, t, boxed⟩ := l
  obtain ⟨v', t', boxed'⟩ := l'
  have plain (v t : String) :
      DataLocal.render ⟨v, t, false⟩ = "let mut " ++ (v ++ ": " ++ (t ++ " = Default::default();")) := by
    change "let mut " ++ v ++ ": " ++ t ++ " = Default::default();" = _
    simp only [String.append_assoc]
  have inBox (v t : String) :
      DataLocal.render ⟨v, t, true⟩ = "let mut " ++ (v ++ ": " ++ ("Box<" ++ (t ++ "> = Box::default();"))) := by
    change "let mut " ++ v ++ ": Box<" ++ t ++ "> = Box::default();" = _
    have split : ": Box<" = ": " ++ "Box<" := by decide
    simp only [split, String.append_assoc]
  have differ (u s : String) : u ++ " = Default::default();" ≠ "Box<" ++ (s ++ "> = Box::default();") := by
    have back : " = Default::default();" = " = Defaul" ++ "t::default();" := by decide
    have back' : "> = Box::default();" = "> = Bo" ++ "x::default();" := by decide
    rw [back, back', ← String.append_assoc, ← String.append_assoc, ← String.append_assoc]
    exact append_ne_append (by decide) (by decide) _ _
  cases boxed with
  | false =>
    rw [plain] at h
    cases boxed' with
    | false =>
      rw [plain, String.append_right_inj] at h
      obtain ⟨rfl, hback⟩ := append_inj_of_head rfl h hl hl'
      rw [(String.append_left_inj _).mp hback]
    | true =>
      rw [inBox, String.append_right_inj] at h
      exact absurd (append_inj_of_head rfl h hl hl').2 (differ t t')
  | true =>
    rw [inBox] at h
    cases boxed' with
    | false =>
      rw [plain, String.append_right_inj] at h
      exact absurd (append_inj_of_head rfl h hl hl').2.symm (differ t' t)
    | true =>
      rw [inBox, String.append_right_inj] at h
      obtain ⟨rfl, hback⟩ := append_inj_of_head rfl h hl hl'
      rw [(String.append_left_inj _).mp ((String.append_right_inj _).mp hback)]

/-- What is passed to encoding shows the variable, and whether its box is opened. -/
theorem Handed.renderShared_inj {h h' : Handed} (hstar : h.variableName.toList.head? ≠ some '*')
    (hstar' : h'.variableName.toList.head? ≠ some '*') (e : h.renderShared = h'.renderShared) : h = h' := by
  obtain ⟨v, boxed⟩ := h
  obtain ⟨v', boxed'⟩ := h'
  have opened (v : String) : Handed.renderShared ⟨v, true⟩ = "&" ++ ("*" ++ v) := by
    rw [← String.append_assoc]
    rfl
  have plain (v : String) : Handed.renderShared ⟨v, false⟩ = "&" ++ v := rfl
  have head (v : String) : ("*" ++ v).toList.head? = some '*' := by simp
  cases boxed <;> cases boxed'
  · rw [plain, plain, String.append_right_inj] at e
    rw [e]
  · rw [plain, opened, String.append_right_inj] at e
    exact absurd (e ▸ head v') hstar
  · rw [plain, opened, String.append_right_inj] at e
    exact absurd (e ▸ head v) hstar'
  · rw [opened, opened, String.append_right_inj, String.append_right_inj] at e
    rw [e]

theorem DescribedResult.encoded_injective : Function.Injective DescribedResult.encoded := by
  intro r r' h
  obtain ⟨role, v⟩ := r
  obtain ⟨role', v'⟩ := r'
  cases role <;> cases role' <;> simp_all [DescribedResult.encoded]

namespace Descriptor

/-- What encoding is passed shows the results. -/
theorem IsNumbered.results_of_encodeArguments {d d' : Descriptor} (h : d.IsNumbered) (h' : d'.IsNumbered)
    (hne : d.results ≠ []) (hne' : d'.results ≠ [])
    (hencode : d.registration.encodeArguments = d'.registration.encodeArguments) : d.results = d'.results := by
  have head (i : Nat) : (resultVariable i).toList.head? = some 'r' := by simp [resultVariable]
  have star {d : Descriptor} (h : d.IsNumbered) : ∀ v ∈ d.registration.encoded, v.variableName.toList.head? ≠ some '*' := by
    intro v hv
    obtain ⟨r, hr, rfl⟩ := List.mem_map.mp hv
    obtain ⟨i, hi⟩ := h.variableName_result hr
    rw [DescribedResult.encoded, hi, head]
    decide
  have comma {d : Descriptor} (h : d.IsNumbered) :
      ∀ text ∈ d.registration.encoded.map (·.renderShared), ',' ∉ text.toList := by
    intro text htext
    obtain ⟨v, hv, rfl⟩ := List.mem_map.mp htext
    obtain ⟨r, hr, rfl⟩ := List.mem_map.mp hv
    obtain ⟨i, hi⟩ := h.variableName_result hr
    have hvariable : ',' ∉ (resultVariable i).toList := not_mem_append_toString (by decide) (by decide) i
    rw [Handed.renderShared, String.toList_append, List.mem_append, not_or, DescribedResult.encoded, hi]
    refine ⟨?_, hvariable⟩
    split <;> decide
  have ne_nil {d : Descriptor} (hne : d.results ≠ []) : d.registration.encoded.map (·.renderShared) ≠ [] := by
    simpa [registration] using hne
  have htexts : d.registration.encoded.map (·.renderShared) = d'.registration.encoded.map (·.renderShared) :=
    intercalate_inj rfl (comma h) (comma h') (ne_nil hne) (ne_nil hne') hencode
  have hencoded : d.registration.encoded = d'.registration.encoded :=
    eq_of_map_eq htexts fun v hv v' hv' => Handed.renderShared_inj (star h v hv) (star h' v' hv')
  exact List.map_injective_iff.mpr DescribedResult.encoded_injective hencoded

/-! ### The call -/

/-- A handler returns a tuple if it has several results, and none if it has no result. -/
def ReturnsAsCounted (d : Descriptor) : Prop :=
  (d.results = [] → d.returnsTuple = false) ∧ (2 ≤ d.results.length → d.returnsTuple = true)

theorem single_ne_tuple (i : Nat) (x y : String) :
    (ResultPattern.single (resultVariable i)).render ++ x ≠ (ResultPattern.tuple [resultVariable i]).render ++ y := by
  intro e
  change "let " ++ resultVariable i ++ " = " ++ x = "let (" ++ resultVariable i ++ ",) = " ++ y at e
  have hchars := congrArg (fun s : String => s.toList[4]?) e
  simp [resultVariable] at hchars

theorem call_eq (d : Descriptor) : d.registration.call =
    d.resultPattern.render ++ ("super::" ++ (d.name ++ "(" ++ (", ".intercalate d.registration.arguments ++ ");"))) := by
  change d.resultPattern.render ++ ("super::" ++ d.name ++ "(") ++ ", ".intercalate d.registration.arguments ++ ");" = _
  simp only [String.append_assoc]

/-- The call shows whether a single result comes in a tuple, the handler, and the variables that it is passed. -/
theorem IsNumbered.of_call {d d' : Descriptor} (h : d.IsNumbered) (h' : d'.IsNumbered) (hname : '(' ∉ d.name.toList)
    (hname' : '(' ∉ d'.name.toList) (htuple : d.ReturnsAsCounted) (htuple' : d'.ReturnsAsCounted)
    (hresults : d.results = d'.results) (hcall : d.registration.call = d'.registration.call) :
    d.returnsTuple = d'.returnsTuple ∧ d.name = d'.name ∧
      d.parameters.map (·.variableName) = d'.parameters.map (·.variableName) := by
  have htuples : d.returnsTuple = d'.returnsTuple := by
    rw [call_eq, call_eq] at hcall
    match hd : d.results with
    | [] => rw [htuple.1 hd, htuple'.1 (hresults ▸ hd)]
    | [r] =>
      obtain ⟨i, hi⟩ := h.variableName_result (hd ▸ List.mem_singleton_self r)
      simp only [resultPattern, ← hresults, hd, hi] at hcall
      cases hone : d.returnsTuple <;> cases hone' : d'.returnsTuple
      · rfl
      · exact absurd (by simpa [hone, hone'] using hcall) (single_ne_tuple i _ _)
      · exact absurd (by simpa [hone, hone'] using hcall.symm) (single_ne_tuple i _ _)
      · rfl
    | r :: r' :: rs =>
      have hlength : 2 ≤ d.results.length := by simp [hd]
      rw [htuple.2 hlength, htuple'.2 (hresults ▸ hlength)]
  have hpattern : d.resultPattern = d'.resultPattern := by
    rw [resultPattern, resultPattern, hresults, htuples]
  rw [call_eq, call_eq, hpattern, String.append_right_inj, String.append_right_inj] at hcall
  obtain ⟨hnames, hback⟩ := append_inj_of_head rfl hcall hname hname'
  have harguments := (String.append_left_inj _).mp hback
  refine ⟨htuples, hnames, ?_⟩
  have comma {d : Descriptor} (h : d.IsNumbered) : ∀ v ∈ d.registration.arguments, ',' ∉ v.toList := by
    intro v hv
    obtain ⟨p, hp, rfl⟩ := List.mem_map.mp hv
    exact h.not_mem_variableName hp (by decide) (by decide)
  have ne_empty {d : Descriptor} (h : d.IsNumbered) : ∀ v ∈ d.registration.arguments, v ≠ "" := by
    intro v hv
    obtain ⟨p, hp, rfl⟩ := List.mem_map.mp hv
    exact h.variableName_ne_empty hp
  exact intercalate_inj_of_ne_empty rfl (comma h) (comma h') (ne_empty h) (ne_empty h') harguments

/-! ### The parameters -/

/-- A variable shows an injected parameter, and a decoded one up to its local. -/
theorem roles_of_variable {p q : DescribedParameter} (hp : ∃ i, p.variableName = p.role.variableName i)
    (hq : ∃ i, q.variableName = q.role.variableName i) (h : p.variableName = q.variableName) :
    (p.dataLocal? = none ∧ q.dataLocal? = none ∧ p.role = q.role) ∨
      ∃ l l', p.dataLocal? = some l ∧ q.dataLocal? = some l' ∧ (l = l' → p.role = q.role) := by
  obtain ⟨i, hi⟩ := hp
  obtain ⟨j, hj⟩ := hq
  rw [hi, hj] at h
  cases hrole : p.role <;> cases hrole' : q.role <;> rw [hrole, hrole'] at h
  case injected.injected what what' =>
    exact Or.inl ⟨by simp [DescribedParameter.dataLocal?, hrole], by simp [DescribedParameter.dataLocal?, hrole'],
      congrArg _ (Injected.variableName_injective h)⟩
  case injected.dataByValue | injected.dataByPointer => exact absurd h.symm (parameterVariable_ne_injected _ _)
  case dataByValue.injected | dataByPointer.injected => exact absurd h (parameterVariable_ne_injected _ _)
  all_goals
    exact Or.inr ⟨_, _, by rw [DescribedParameter.dataLocal?, hrole], by rw [DescribedParameter.dataLocal?, hrole'],
      by simp⟩

/-- Variables and locals together show the parameters. -/
theorem parameters_of_locals {ps qs : List DescribedParameter} (hps : ∀ p ∈ ps, ∃ i, p.variableName = p.role.variableName i)
    (hqs : ∀ q ∈ qs, ∃ i, q.variableName = q.role.variableName i)
    (hvariables : ps.map (·.variableName) = qs.map (·.variableName))
    (hlocals : ps.filterMap (·.dataLocal?) = qs.filterMap (·.dataLocal?)) :
    ps.map (fun p => (p.role, p.variableName)) = qs.map fun q => (q.role, q.variableName) := by
  induction ps generalizing qs with
  | nil => rw [List.map_eq_nil_iff.mp hvariables.symm, List.map_nil]
  | cons p ps ih =>
    cases qs with
    | nil => cases hvariables
    | cons q qs =>
      obtain ⟨hp, hps⟩ := List.forall_mem_cons.mp hps
      obtain ⟨hq, hqs⟩ := List.forall_mem_cons.mp hqs
      obtain ⟨hvariable, hvariables⟩ := List.cons.inj hvariables
      rw [List.map_cons, List.map_cons, show p.variableName = q.variableName from hvariable]
      rcases roles_of_variable hp hq hvariable with ⟨hnone, hnone', hrole⟩ | ⟨l, l', hsome, hsome', hrole⟩
      · rw [List.filterMap_cons_none hnone, List.filterMap_cons_none hnone'] at hlocals
        rw [hrole, ih hps hqs hvariables hlocals]
      · rw [List.filterMap_cons_some hsome, List.filterMap_cons_some hsome'] at hlocals
        obtain ⟨hlocal, hlocals⟩ := List.cons.inj hlocals
        rw [hrole hlocal, ih hps hqs hvariables hlocals]

end Descriptor

/-! ### The lines of a registration -/

namespace Registration

/-- Whether a line shares something with the closure. -/
def isCaptureLine (line : String) : Bool :=
  leading 12 line == leading 12 "        let "

/-- Whether a line declares a local. -/
def isLocalLine (line : String) : Bool :=
  leading 17 line == leading 17 "            let m"

/-- The line that declares a local. -/
def localLine (l : DataLocal) : String :=
  "            " ++ l.render

variable (r : Registration) (a : SupportAliases)

/-- The line that opens the closure. -/
def headLine : String :=
  s!"        mux.handle_func(route_map.get_route(\"{r.name}\"), move |w: &mut dyn {a.transport}::ResponseWriter, "
    ++ s!"r: &{a.transport}::Request| " ++ openBrace

theorem lines_append (rest : List String) :
    r.lines a ++ rest = ("    " ++ openBrace) :: (r.captureLines ++ r.headLine a :: (r.locals.map localLine ++
      (r.decodeLines ++ ("            " ++ r.call) :: (r.encodeLines ++
        ("        " ++ closeBrace ++ ");") :: ("    " ++ closeBrace) :: rest)))) := by
  simp only [lines, List.append_assoc, List.cons_append, List.nil_append]
  rfl

theorem isCaptureLine_of_mem {line : String} (h : line ∈ r.captureLines) : isCaptureLine line = true := by
  obtain ⟨c, -, rfl⟩ := List.mem_map.mp h
  let back := " = std::sync::Arc::clone("
  change isCaptureLine ("        let " ++ c.variableName ++ back ++ c.variableName ++ ");") = true
  rw [isCaptureLine, String.append_assoc, String.append_assoc, String.append_assoc, leading_append (by decide),
    leading_ofList]
  decide

theorem isCaptureLine_headLine : isCaptureLine (r.headLine a) = false := by
  obtain ⟨rest, hrest⟩ : ∃ rest, r.headLine a = "        mux.handle_func(route_map.get_route(\"" ++ rest := by
    unfold headLine
    simp only [String.append_assoc]
    exact ⟨_, rfl⟩
  rw [isCaptureLine, hrest, leading_append (by decide), leading_ofList]
  decide

theorem isLocalLine_localLine (l : DataLocal) : isLocalLine (localLine l) = true := by
  obtain ⟨rest, hrest⟩ : ∃ rest, l.render = "let mut " ++ rest := by
    unfold DataLocal.render
    split <;> simp only [String.append_assoc] <;> exact ⟨_, rfl⟩
  have split : "            " ++ ("let mut " ++ rest) = "            let mut " ++ rest := by
    rw [← String.append_assoc]
    congr 1
  rw [isLocalLine, localLine, hrest, split, leading_append (by decide), leading_ofList]
  decide

/-- The first line behind the locals is none of them. -/
theorem isLocalLine_head (hcall : isLocalLine ("            " ++ r.call) = false) (rest : List String) :
    ∀ line ∈ (r.decodeLines ++ ("            " ++ r.call) :: rest).head?, isLocalLine line = false := by
  rw [decodeLines]
  split
  · simpa using hcall
  · simp only [List.cons_append, List.head?_cons, Option.mem_def, Option.some.injEq, forall_eq']
    let front := "            if let Err(err) = msg_codec.decode(r, &mut ["
    change isLocalLine (front ++ r.decodeArguments ++ "]) " ++ openBrace) = false
    rw [isLocalLine, String.append_assoc, String.append_assoc, leading_append (by decide), leading_ofList]
    decide

/-- The lines that encode are told from the end of the closure, and show what is encoded. -/
theorem encodeLines_inj {r r' : Registration} {rest rest' : List String}
    (h : r.encodeLines ++ ("        " ++ closeBrace ++ ");") :: rest =
      r'.encodeLines ++ ("        " ++ closeBrace ++ ");") :: rest') :
    r.encoded.isEmpty = r'.encoded.isEmpty ∧ (r.encoded.isEmpty = false → r.encodeArguments = r'.encodeArguments) ∧
      rest = rest' := by
  let front := "            if let Err(err) = msg_codec.encode(w, &["
  have differ (r : Registration) : "        " ++ closeBrace ++ ");" ≠ front ++ r.encodeArguments ++ "]) " ++ openBrace := by
    have split : front ++ r.encodeArguments ++ "]) " ++ openBrace =
        front ++ (r.encodeArguments ++ ("]) " ++ openBrace)) := by
      simp only [String.append_assoc]
    have close : "        " ++ closeBrace = "        \x7d" := by decide
    intro e
    have hleading := congrArg (leading 9) (e.trans split)
    rw [close, leading_append (by decide), leading_append (by decide)] at hleading
    exact absurd hleading (by decide)
  rw [encodeLines, encodeLines] at h
  cases hr : r.encoded.isEmpty <;> cases hr' : r'.encoded.isEmpty <;> rw [hr, hr'] at h
  · obtain ⟨hline, h⟩ := List.cons.inj h
    refine ⟨rfl, fun _ => ?_, (List.cons.inj (List.cons.inj (List.cons.inj h).2).2).2⟩
    exact (String.append_right_inj _).mp ((String.append_left_inj _).mp ((String.append_left_inj _).mp hline))
  · exact absurd (List.cons.inj h).1.symm (differ r)
  · exact absurd (List.cons.inj h).1 (differ r')
  · exact ⟨rfl, fun hne => (by cases hne), (List.cons.inj h).2⟩

end Registration

namespace Descriptor

/-- A call is not taken for the declaration of a local. -/
theorem IsNumbered.isLocalLine_call {d : Descriptor} (h : d.IsNumbered) :
    Registration.isLocalLine ("            " ++ d.registration.call) = false := by
  have starts {cs : List Char} (rest : String) (hlength : 5 ≤ cs.length) (hfront : cs.take 5 ≠ ['l', 'e', 't', ' ', 'm']) :
      Registration.isLocalLine ("            " ++ (String.ofList cs ++ rest)) = false := by
    have indent : "            " = String.ofList (List.replicate 12 ' ') := rfl
    have hlocal : leading 17 "            let m" = List.replicate 12 ' ' ++ ['l', 'e', 't', ' ', 'm'] := by
      rw [leading_ofList]
      rfl
    rw [Registration.isLocalLine, hlocal, indent, ← String.append_assoc, ← String.ofList_append,
      leading_append (by simp; omega), List.take_append, List.length_replicate]
    exact beq_false_of_ne fun e => hfront (List.append_cancel_left e)
  have tuple (names : List String) (rest : String) :
      Registration.isLocalLine ("            " ++ ((ResultPattern.tuple names).render ++ rest)) = false := by
    obtain ⟨bound, hbound⟩ : ∃ bound, (ResultPattern.tuple names).render = "let (" ++ bound := by
      rcases names with _ | ⟨name, _ | ⟨name', names⟩⟩ <;> exact ⟨_, String.append_assoc⟩
    rw [hbound, String.append_assoc]
    exact starts _ (by decide) (by decide)
  rw [call_eq, resultPattern]
  split
  · rw [show ResultPattern.render .nothing = "" from rfl, String.empty_append]
    exact starts _ (by decide) (by decide)
  · rename_i r hr
    obtain ⟨i, hi⟩ := h.variableName_result (hr ▸ List.mem_singleton_self r)
    split
    · exact tuple _ _
    · have hbound : (ResultPattern.single r.variableName).render = "let r" ++ (toString i ++ " = ") := by
        have split : "let r" = "let " ++ "r" := by decide
        change "let " ++ r.variableName ++ " = " = _
        rw [hi, resultVariable, split, String.append_assoc, String.append_assoc, String.append_assoc]
      rw [hbound, String.append_assoc]
      exact starts _ (by decide) (by decide)
  · exact tuple _ _

theorem IsNumbered.not_mem_local {d : Descriptor} (h : d.IsNumbered) {l : DataLocal} (hl : l ∈ d.registration.locals) :
    ':' ∉ l.variableName.toList := by
  rw [registration, filterMap_dataLocal?] at hl
  obtain ⟨p, hp, rfl⟩ := List.mem_map.mp hl
  exact h.not_mem_variableName (List.mem_filter.mp hp).1 (by decide) (by decide)

/-- There is a local for all that is decoded. -/
theorem isEmpty_decoded (d : Descriptor) : d.registration.decoded.isEmpty = d.registration.locals.isEmpty := by
  rw [registration, filterMap_decoded?, filterMap_dataLocal?, List.isEmpty_map, List.isEmpty_map]

/-- What the text of a dispatch file shows of a handler: all but its place, and the names of its parameters, in the
source. -/
structure IsShownAs (d d' : Descriptor) : Prop where
  name : d.name = d'.name
  parameters : d.parameters.map (fun p => (p.role, p.variableName)) = d'.parameters.map fun p => (p.role, p.variableName)
  results : d.results = d'.results
  returnsTuple : d.returnsTuple = d'.returnsTuple

/-- The lines of a registration end where they end, and show the handler. -/
theorem IsNumbered.lines_append_inj {d d' : Descriptor} (h : d.IsNumbered) (h' : d'.IsNumbered)
    (hname : '(' ∉ d.name.toList) (hname' : '(' ∉ d'.name.toList) (htuple : d.ReturnsAsCounted)
    (htuple' : d'.ReturnsAsCounted) {a a' : SupportAliases} {rest rest' : List String}
    (hlines : d.registration.lines a ++ rest = d'.registration.lines a' ++ rest') :
    d.IsShownAs d' ∧ rest = rest' := by
  rw [Registration.lines_append, Registration.lines_append] at hlines
  -- The captures end at the head of the closure, which shows nothing that the call does not show.
  obtain ⟨-, hclosure⟩ := append_inj_of_kinds (List.cons.inj hlines).2 (fun _ => Registration.isCaptureLine_of_mem _)
    (fun _ => Registration.isCaptureLine_of_mem _) (by simp [Registration.isCaptureLine_headLine])
    (by simp [Registration.isCaptureLine_headLine])
  have localLines (r : Registration) :
      ∀ line ∈ r.locals.map Registration.localLine, Registration.isLocalLine line = true := by
    intro line hline
    obtain ⟨l, -, rfl⟩ := List.mem_map.mp hline
    exact Registration.isLocalLine_localLine l
  obtain ⟨hlocalLines, hbody⟩ := append_inj_of_kinds (List.cons.inj hclosure).2 (localLines _) (localLines _)
    (Registration.isLocalLine_head _ h.isLocalLine_call _) (Registration.isLocalLine_head _ h'.isLocalLine_call _)
  have hlocals : d.registration.locals = d'.registration.locals :=
    eq_of_map_eq hlocalLines fun l hl l' hl' e =>
      DataLocal.render_inj (h.not_mem_local hl) (h'.not_mem_local hl') ((String.append_right_inj _).mp e)
  have hdecode : d.registration.decodeLines.length = d'.registration.decodeLines.length := by
    rw [Registration.decodeLines, Registration.decodeLines, d.isEmpty_decoded, d'.isEmpty_decoded, hlocals]
    split <;> rfl
  obtain ⟨-, hbody⟩ := List.append_inj hbody hdecode
  obtain ⟨hcallLine, hbody⟩ := List.cons.inj hbody
  obtain ⟨hempty, hencode, hrest⟩ := Registration.encodeLines_inj hbody
  have hresults : d.results = d'.results := by
    have hiff : d.results = [] ↔ d'.results = [] := by
      rw [← isEmpty_encoded_iff, ← isEmpty_encoded_iff, hempty]
    by_cases hnil : d.results = []
    · rw [hnil, hiff.mp hnil]
    · refine h.results_of_encodeArguments h' hnil (mt hiff.mpr hnil) (hencode ?_)
      exact Bool.eq_false_iff.mpr (mt d.isEmpty_encoded_iff.mp hnil)
  obtain ⟨hreturns, hnames, hvariables⟩ :=
    h.of_call h' hname hname' htuple htuple' hresults ((String.append_right_inj _).mp hcallLine)
  refine ⟨⟨hnames, ?_, hresults, hreturns⟩, (List.cons.inj hrest).2⟩
  have numbered {d : Descriptor} (h : d.IsNumbered) : ∀ p ∈ d.parameters, ∃ i, p.variableName = p.role.variableName i := by
    intro p hp
    obtain ⟨i, hi⟩ := List.getElem?_of_mem hp
    exact ⟨i, h.parameters i p hi⟩
  exact parameters_of_locals (numbered h) (numbered h') hvariables hlocals

end Descriptor

end Switchboard
