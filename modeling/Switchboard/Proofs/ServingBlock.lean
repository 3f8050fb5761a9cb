import Mathlib.Data.List.Dedup
import Mathlib.Tactic.Tauto
import Switchboard.Dispatch.File

/-! # The scope of a registration

The text of a registration is that of a block: some variables are shared with a closure, and the closure runs its
statements one after another. In a block it is plain where a variable is bound and where it is read. The block of a
handler declares what is decoded, passes on what it declares and what the closure is given, binds what the handler
returns, and shares with the closure what the closure reads and nothing else; and no two of its variables have one
name. -/

namespace Switchboard

open Source

/-! ### Blocks -/

/-- What a block calls. -/
inductive Callee where
  | item (path : String)
  | plain (name : String)
  | method (receiver name : String)
  deriving DecidableEq

/-- What a block passes to a call. -/
inductive Passed where
  | plain (name : String)
  | shared (name : String)
  /-- Variables in a row, to be filled or to be read. -/
  | row (filled : Bool) (elements : List Handed)
  deriving DecidableEq

/-- A call in a block. -/
structure BlockCall where
  callee : Callee
  passed : List Passed
  deriving DecidableEq

/-- A statement of the closure of a block. -/
inductive BlockStatement where
  | declare (l : DataLocal)
  | bind (pattern : ResultPattern) (call : BlockCall)
  /-- A call that can fail; the failure is bound and passed to another call, which may be the last. -/
  | attempt (failure : String) (call remedy : BlockCall) (ends : Bool)

/-- How one handler is served, statement by statement. -/
structure ServingBlock where
  route : String
  /-- The variables that are shared with the closure. -/
  captures : List String
  /-- The parameters of the closure with their types. -/
  parameters : List (String × String)
  body : List BlockStatement

namespace Callee

def render : Callee → String
  | item path => path
  | plain name => name
  | method receiver name => receiver ++ "." ++ name

/-- The variables that are read to find out what is called. -/
def reads : Callee → List String
  | item _ => []
  | plain name => [name]
  | method receiver _ => [receiver]

end Callee

namespace Passed

def render : Passed → String
  | plain name => name
  | shared name => "&" ++ name
  | row true elements => "&mut [" ++ ", ".intercalate (elements.map (·.renderMutable)) ++ "]"
  | row false elements => "&[" ++ ", ".intercalate (elements.map (·.renderShared)) ++ "]"

def reads : Passed → List String
  | plain name => [name]
  | shared name => [name]
  | row _ elements => elements.map (·.variableName)

end Passed

namespace BlockCall

def render (c : BlockCall) : String :=
  c.callee.render ++ "(" ++ ", ".intercalate (c.passed.map (·.render)) ++ ")"

def reads (c : BlockCall) : List String :=
  c.callee.reads ++ c.passed.flatMap (·.reads)

end BlockCall

namespace BlockStatement

def lines : BlockStatement → List String
  | declare l => ["            " ++ l.render]
  | bind pattern call => ["            " ++ (pattern.render ++ call.render ++ ";")]
  | attempt failure call remedy ends =>
    ["            if let Err(" ++ failure ++ ") = " ++ call.render ++ " " ++ openBrace,
      "                " ++ remedy.render ++ ";"]
      ++ (if ends then ["                return;"] else [])
      ++ ["            " ++ closeBrace]

/-- The variables that are in scope behind the statement. -/
def binds : BlockStatement → List String
  | declare l => [l.variableName]
  | bind pattern _ => pattern.variableNames
  | attempt _ _ _ _ => []

/-- The variables that are in scope inside the statement only. -/
def bindsInside : BlockStatement → List String
  | attempt failure _ _ _ => [failure]
  | _ => []

/-- The variables that the statement reads and does not bind itself, but for those in scope. -/
def unbound (scope : List String) : BlockStatement → List String
  | declare _ => []
  | bind _ call => call.reads.filter (· ∉ scope)
  | attempt failure call remedy _ =>
    call.reads.filter (· ∉ scope) ++ remedy.reads.filter (· ∉ failure :: scope)

/-- The calls of the statement, in order. -/
def calls : BlockStatement → List BlockCall
  | declare _ => []
  | bind _ call => [call]
  | attempt _ call remedy _ => [call, remedy]

end BlockStatement

/-- The variables that some statements read before any of them binds it, but for those in scope. -/
def unboundIn (scope : List String) : List BlockStatement → List String
  | [] => []
  | s :: rest => s.unbound scope ++ unboundIn (s.binds ++ scope) rest

namespace ServingBlock

variable (b : ServingBlock)

def lines : List String :=
  ["    " ++ openBrace] ++ b.captures.map (fun v => s!"        let {v} = std::sync::Arc::clone({v});")
    ++ [s!"        mux.handle_func(route_map.get_route(\"{b.route}\"), move |"
        ++ ", ".intercalate (b.parameters.map fun p => p.1 ++ ": " ++ p.2) ++ "| " ++ openBrace]
    ++ b.body.flatMap (·.lines)
    ++ ["        " ++ closeBrace ++ ");", "    " ++ closeBrace]

/-- The variables that the closure takes from outside. -/
def freeVariables : List String :=
  unboundIn (b.parameters.map (·.1)) b.body

/-- The variables that are bound for the closure or in it, those of failures once each. -/
def bound : List String :=
  b.captures ++ b.parameters.map (·.1) ++ b.body.flatMap (·.binds) ++ (b.body.flatMap (·.bindsInside)).dedup

/-- The locals, in order. -/
def declared : List DataLocal :=
  b.body.filterMap fun
    | .declare l => some l
    | _ => none

/-- The calls whose results are bound, with the patterns that bind them. -/
def bindings : List (ResultPattern × BlockCall) :=
  b.body.filterMap fun
    | .bind pattern call => some (pattern, call)
    | _ => none

/-- What is passed to the calls of a callee, call by call. -/
def passedTo (callee : Callee) : List (List Passed) :=
  ((b.body.flatMap (·.calls)).filter (·.callee = callee)).map (·.passed)

/-- The closure takes from outside what is shared with it and nothing else, and no binding hides another. -/
structure IsWellScoped : Prop where
  mem_free_iff : ∀ v, v ∈ b.freeVariables ↔ v ∈ b.captures
  distinct : b.bound.Nodup

end ServingBlock

/-- A pattern takes apart what a function returns, as far as its type shows it: nothing of no result or a unit, the
elements of another tuple, and all else as it is. The name of a tuple is no tuple here. -/
inductive ResultPattern.Fits : ResultPattern → Option TypeExpr → Prop
  | nothing : Fits .nothing none
  | unit : Fits .nothing (some (.tuple []))
  | tuple {names : List String} {elements : List TypeExpr} (h : elements ≠ []) (length : names.length = elements.length) :
      Fits (.tuple names) (some (.tuple elements))
  | single (name : String) {type : TypeExpr} (h : ∀ elements, type ≠ .tuple elements) : Fits (.single name) (some type)

/-! ### The block of a registration -/

namespace Registration

def decodeStatement (r : Registration) : BlockStatement :=
  .attempt "err" ⟨.method "msg_codec" "decode", [.plain "r", .row true r.decoded]⟩
    ⟨.plain "on_request_error", [.plain "r", .plain "w", .shared "err"]⟩ true

def callStatement (r : Registration) : BlockStatement :=
  .bind r.results ⟨.item ("super::" ++ r.name), r.arguments.map .plain⟩

def encodeStatement (r : Registration) : BlockStatement :=
  .attempt "err" ⟨.method "msg_codec" "encode", [.plain "w", .row false r.encoded]⟩
    ⟨.plain "on_response_error", [.plain "r", .shared "err"]⟩ false

/-- A registration as a block. -/
def block (a : SupportAliases) (r : Registration) : ServingBlock where
  route := r.name
  captures := r.captures.map (·.variableName)
  parameters := [("w", s!"&mut dyn {a.transport}::ResponseWriter"), ("r", s!"&{a.transport}::Request")]
  body := r.locals.map .declare ++ (if r.decoded.isEmpty then [] else [r.decodeStatement]) ++ [r.callStatement]
    ++ (if r.encoded.isEmpty then [] else [r.encodeStatement])

theorem lines_decodeStatement (r : Registration) :
    (if r.decoded.isEmpty then [] else [r.decodeStatement]).flatMap (·.lines) = r.decodeLines := by
  rw [decodeLines]
  split
  · rfl
  · have call : "            if let Err(" ++ "err" ++ ") = " ++
        BlockCall.render ⟨.method "msg_codec" "decode", [.plain "r", .row true r.decoded]⟩ ++ " " ++ openBrace =
        "            if let Err(err) = msg_codec.decode(r, &mut [" ++ r.decodeArguments ++ "]) " ++ openBrace := by
      apply String.toList_inj.mp
      simp [BlockCall.render, Callee.render, Passed.render, decodeArguments]
    have remedy : "                " ++
        BlockCall.render ⟨.plain "on_request_error", [.plain "r", .plain "w", .shared "err"]⟩ ++ ";" =
        "                on_request_error(r, w, &err);" := by decide
    rw [List.flatMap_singleton, decodeStatement, BlockStatement.lines, call, remedy]
    rfl

theorem lines_encodeStatement (r : Registration) :
    (if r.encoded.isEmpty then [] else [r.encodeStatement]).flatMap (·.lines) = r.encodeLines := by
  rw [encodeLines]
  split
  · rfl
  · have call : "            if let Err(" ++ "err" ++ ") = " ++
        BlockCall.render ⟨.method "msg_codec" "encode", [.plain "w", .row false r.encoded]⟩ ++ " " ++ openBrace =
        "            if let Err(err) = msg_codec.encode(w, &[" ++ r.encodeArguments ++ "]) " ++ openBrace := by
      apply String.toList_inj.mp
      simp [BlockCall.render, Callee.render, Passed.render, encodeArguments]
    have remedy : "                " ++ BlockCall.render ⟨.plain "on_response_error", [.plain "r", .shared "err"]⟩ ++ ";" =
        "                on_response_error(r, &err);" := by decide
    rw [List.flatMap_singleton, encodeStatement, BlockStatement.lines, call, remedy]
    rfl

theorem lines_callStatement (r : Registration) : r.callStatement.lines = ["            " ++ r.call] := by
  have passed : (r.arguments.map Passed.plain).map (·.render) = r.arguments := by
    rw [List.map_map]
    exact List.map_id _
  have call : r.results.render ++ BlockCall.render ⟨.item ("super::" ++ r.name), r.arguments.map .plain⟩ ++ ";" =
      r.results.render ++ ("super::" ++ r.name ++ "(") ++ ", ".intercalate r.arguments ++ ");" := by
    apply String.toList_inj.mp
    simp [BlockCall.render, Callee.render, passed]
  simp only [callStatement, BlockStatement.lines, call]
  rfl

/-- The text of a registration is that of its block. -/
theorem lines_block (a : SupportAliases) (r : Registration) : (r.block a).lines = r.lines a := by
  have captures : (r.captures.map (·.variableName)).map (fun v => s!"        let {v} = std::sync::Arc::clone({v});") =
      r.captureLines := List.map_map
  have locals : (r.locals.map BlockStatement.declare).flatMap (·.lines) = r.locals.map fun l => "            " ++ l.render := by
    rw [List.flatMap_map]
    exact List.map_eq_flatMap.symm
  have head : "        mux.handle_func(route_map.get_route(\"" ++ r.name ++ "\"), move |" ++
      ", ".intercalate ["w: " ++ ("&mut dyn " ++ a.transport ++ "::ResponseWriter"), "r: " ++ ("&" ++ a.transport ++ "::Request")]
        ++ "| " ++ openBrace =
      "        mux.handle_func(route_map.get_route(\"" ++ r.name ++ "\"), move |w: &mut dyn " ++ a.transport
        ++ "::ResponseWriter, " ++ ("r: &" ++ a.transport ++ "::Request| ") ++ openBrace := by
    apply String.toList_inj.mp
    simp
  simp only [ServingBlock.lines, lines, block, captures, List.flatMap_append, locals, lines_decodeStatement, lines_encodeStatement,
    List.flatMap_cons, List.flatMap_nil, lines_callStatement, List.append_assoc]
  congr 3
  · exact congrArg (fun text => text :: _) head

end Registration

/-! ### Scopes -/

/-- What is in scope behind some statements. -/
def scopeBehind (scope : List String) (statements : List BlockStatement) : List String :=
  statements.foldl (fun scope s => s.binds ++ scope) scope

theorem unboundIn_append (scope : List String) (xs ys : List BlockStatement) :
    unboundIn scope (xs ++ ys) = unboundIn scope xs ++ unboundIn (scopeBehind scope xs) ys := by
  induction xs generalizing scope with
  | nil => rfl
  | cons x xs ih => simp only [List.cons_append, unboundIn, ih, List.append_assoc, scopeBehind, List.foldl_cons]

theorem mem_scopeBehind_iff {scope : List String} {statements : List BlockStatement} {v : String} :
    v ∈ scopeBehind scope statements ↔ v ∈ statements.flatMap (·.binds) ∨ v ∈ scope := by
  induction statements generalizing scope with
  | nil => simp [scopeBehind]
  | cons s statements ih =>
    rw [scopeBehind, List.foldl_cons, ← scopeBehind, ih, List.flatMap_cons]
    simp only [List.mem_append]
    tauto

theorem unboundIn_declare (scope : List String) (locals : List DataLocal) :
    unboundIn scope (locals.map .declare) = [] := by
  induction locals generalizing scope with
  | nil => rfl
  | cons l locals ih => simp only [List.map_cons, unboundIn, BlockStatement.unbound, ih, List.append_nil]

theorem filter_not_mem_eq_nil {scope names : List String} (h : ∀ v ∈ names, v ∈ scope) :
    names.filter (· ∉ scope) = [] := by
  rw [List.filter_eq_nil_iff]
  intro v hv
  simpa using h v hv

/-- An attempt to use a codec on what is in scope takes the codec and its hook from outside. -/
theorem unbound_attempt {scope : List String} {codec method target hook failure : String} {filled ends : Bool}
    {handed : List Handed} {told : List Passed} (hcodec : codec ∉ scope) (htarget : target ∈ scope)
    (hhanded : ∀ h ∈ handed, h.variableName ∈ scope) (hhook : hook ∉ failure :: scope)
    (htold : ∀ v ∈ told.flatMap (·.reads), v ∈ failure :: scope) :
    (BlockStatement.attempt failure ⟨.method codec method, [.plain target, .row filled handed]⟩ ⟨.plain hook, told⟩ ends).unbound
      scope = [codec, hook] := by
  have passed : ∀ v ∈ target :: handed.map (·.variableName), v ∈ scope := by
    intro v hv
    rcases List.mem_cons.mp hv with rfl | hv
    · exact htarget
    · obtain ⟨h, hh, rfl⟩ := List.mem_map.mp hv
      exact hhanded h hh
  have call : (BlockCall.reads ⟨.method codec method, [.plain target, .row filled handed]⟩).filter (· ∉ scope) = [codec] := by
    have reads : BlockCall.reads ⟨.method codec method, [.plain target, .row filled handed]⟩ =
        codec :: target :: handed.map (·.variableName) := by
      simp [BlockCall.reads, Callee.reads, Passed.reads]
    rw [reads, List.filter_cons_of_pos (by simpa using hcodec), filter_not_mem_eq_nil passed]
  have remedy : (BlockCall.reads ⟨.plain hook, told⟩).filter (· ∉ failure :: scope) = [hook] := by
    rw [BlockCall.reads, Callee.reads, List.singleton_append, List.filter_cons_of_pos (by simpa using hhook),
      filter_not_mem_eq_nil htold]
  rw [BlockStatement.unbound, call, remedy]
  rfl

/-- The variables that a closure takes from outside, if it needs them. -/
def outerNames : List String :=
  Collaborator.variableName <$> [.codec, .requestHook, .responseHook]

section

variable {r : Registration} {scope : List String} (parameters : ∀ v ∈ ["w", "r"], v ∈ scope)
  (outer : ∀ v ∈ outerNames, v ∉ scope)
include parameters outer

theorem unbound_decodeStatement (handed : ∀ x ∈ r.decoded, x.variableName ∈ scope) :
    r.decodeStatement.unbound scope = ["msg_codec", "on_request_error"] := by
  refine unbound_attempt (outer _ (by decide)) (parameters _ (by decide)) handed ?_ ?_
  · exact List.not_mem_cons_of_ne_of_not_mem (by decide) (outer _ (by decide))
  · simpa [Passed.reads] using ⟨parameters "r" (by decide), parameters "w" (by decide)⟩

theorem unbound_encodeStatement (handed : ∀ x ∈ r.encoded, x.variableName ∈ scope) :
    r.encodeStatement.unbound scope = ["msg_codec", "on_response_error"] := by
  refine unbound_attempt (outer _ (by decide)) (parameters _ (by decide)) handed ?_ ?_
  · exact List.not_mem_cons_of_ne_of_not_mem (by decide) (outer _ (by decide))
  · simpa [Passed.reads] using parameters "r" (by decide)

end

theorem unbound_callStatement {r : Registration} {scope : List String} (arguments : ∀ v ∈ r.arguments, v ∈ scope) :
    r.callStatement.unbound scope = [] := by
  refine filter_not_mem_eq_nil fun v hv => ?_
  simp only [BlockCall.reads, Callee.reads, List.nil_append, List.flatMap_map, Passed.reads, List.mem_flatMap,
    List.mem_singleton] at hv
  obtain ⟨_, hv, rfl⟩ := hv
  exact arguments _ hv

end Switchboard
