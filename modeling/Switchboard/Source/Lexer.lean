import Switchboard.Source.Literal
import Switchboard.Text.Blank
import Switchboard.Text.Quoted

/-! # From text to token trees

The whole text is split into token trees before anything is made of it. Blanks and ordinary comments separate
tokens; a documentation comment stands for the attribute `#[doc = "…"]`. A text fails to split at the token that
cannot be one, at a closing delimiter that closes nothing or the wrong opening one, or, if the text ends too early,
at the innermost delimiter that is still open. -/

namespace Switchboard.Source

open Text

/-- The characters of which punctuation is made. -/
def isPunct (c : Char) : Bool :=
  "~!@#$%^&*-=+|;:,<.>/?'".contains c

/-- Whether the characters start with punctuation; the slash that opens a comment is none. -/
def startsWithPunct : List Char → Bool
  | '/' :: '/' :: _ => false
  | '/' :: '*' :: _ => false
  | c :: _ => isPunct c
  | [] => false

/-- What follows a block comment at some depth of nesting. -/
def afterBlockComment? (depth : Nat) : List Char → Option (List Char)
  | '/' :: '*' :: cs => afterBlockComment? (depth + 1) cs
  | '*' :: '/' :: cs => if depth = 0 then some cs else afterBlockComment? (depth - 1) cs
  | _ :: cs => afterBlockComment? depth cs
  | [] => none

/-- What follows the line that the characters are on: its line feed, with a carriage return in front. -/
def afterLine : List Char → List Char
  | '\n' :: cs => '\n' :: cs
  | '\r' :: '\n' :: cs => '\r' :: '\n' :: cs
  | _ :: cs => afterLine cs
  | [] => []

/-- Every carriage return is followed by a line feed. -/
def returnsPaired : List Char → Bool
  | '\r' :: '\n' :: cs => returnsPaired cs
  | '\r' :: _ => false
  | _ :: cs => returnsPaired cs
  | [] => true

/-- What follows the ordinary comment that the characters start with. -/
def afterComment? : List Char → Option (List Char)
  | '/' :: '/' :: '/' :: '/' :: cs => some (afterLine cs)
  | '/' :: '/' :: '/' :: _ => none
  | '/' :: '/' :: '!' :: _ => none
  | '/' :: '/' :: cs => some (afterLine cs)
  | '/' :: '*' :: '*' :: '/' :: cs => some cs
  | '/' :: '*' :: '*' :: '*' :: cs => afterBlockComment? 0 ('*' :: '*' :: cs)
  | '/' :: '*' :: '*' :: _ => none
  | '/' :: '*' :: '!' :: _ => none
  | '/' :: '*' :: cs => afterBlockComment? 0 cs
  | _ => none

/-- A documentation comment: whether it documents what it stands in, its text, and what follows it. -/
structure DocComment where
  inner : Bool
  text : List Char
  rest : List Char

/-- The documentation comment on one line, from behind its three opening characters on. -/
def DocComment.ofLine (inner : Bool) (cs : List Char) : DocComment :=
  let rest := afterLine cs
  ⟨inner, cs.take (cs.length - rest.length), rest⟩

/-- The documentation comment in a block, from behind its three opening characters on. -/
def DocComment.ofBlock? (inner : Bool) (cs : List Char) : Option DocComment :=
  (afterBlockComment? 0 cs).map fun rest => ⟨inner, cs.take (cs.length - rest.length - 2), rest⟩

/-- The documentation comment that the characters start with. -/
def docComment? (cs : List Char) : Option DocComment :=
  let found : Option DocComment := match cs with
    | '/' :: '/' :: '!' :: r => some (DocComment.ofLine true r)
    | '/' :: '*' :: '!' :: r => DocComment.ofBlock? true r
    | '/' :: '/' :: '/' :: r => some (DocComment.ofLine false r)
    | '/' :: '*' :: '*' :: r => DocComment.ofBlock? false r
    | _ => none
  found.filter (returnsPaired ·.text)

/-- The trees of a documentation comment, all at one place. -/
def DocComment.trees (doc : DocComment) (m : Mark) : List TokenTree :=
  let bang := if doc.inner then [.leaf m (.punct '!' false)] else []
  [.leaf m (.punct '#' false)] ++ bang ++
    [.group .bracket m m
      [.leaf m (.name "doc"), .leaf m (.punct '=' false), .leaf m (.literal .text (quotedLiteral doc.text))]]

/-- A name, raw or not, and what follows it. The path keywords have no raw form. -/
def name? (cs : List Char) : Option (String × List Char) :=
  match cs with
  | 'r' :: '#' :: r =>
    (afterName? r).bind fun rest =>
      let bare := String.ofList (r.take (r.length - rest.length))
      if ["_", "super", "self", "Self", "crate"].contains bare then none else some ("r#" ++ bare, rest)
  | _ => (afterName? cs).map fun rest => (String.ofList (cs.take (cs.length - rest.length)), rest)

/-- The beginnings of quoted literals, which are no names even when the literal does not end. -/
def startsQuotedLiteral : List Char → Bool
  | 'r' :: '"' :: _ => true
  | 'r' :: '#' :: '"' :: _ => true
  | 'r' :: '#' :: '#' :: _ => true
  | 'b' :: '"' :: _ => true
  | 'b' :: '\'' :: _ => true
  | 'b' :: 'r' :: '"' :: _ => true
  | 'b' :: 'r' :: '#' :: _ => true
  | 'c' :: '"' :: _ => true
  | 'c' :: 'r' :: '"' :: _ => true
  | 'c' :: 'r' :: '#' :: _ => true
  | _ => false

/-- A lifetime, from behind its apostrophe on. A name that an apostrophe follows would be a character literal. -/
def lifetime? (cs : List Char) : Option (Leaf × List Char) :=
  match name? cs with
  | some (name, rest) =>
    let raw := match cs with | 'r' :: '#' :: _ => true | _ => false
    match rest with
    | '\'' :: _ => none
    | '#' :: _ => if raw then some (.lifetime name, rest) else none
    | _ => some (.lifetime name, rest)
  | none => none

/-- The token that the characters start with and what follows it. -/
def leaf? (cs : List Char) : Option (Leaf × List Char) :=
  match afterLiteral? cs with
  | some (kind, rest) => some (.literal kind (String.ofList (cs.take (cs.length - rest.length))), rest)
  | none =>
    match cs with
    | '\'' :: r => lifetime? r
    | c :: r =>
      if startsWithPunct cs then some (.punct c (startsWithPunct r), r)
      else if startsQuotedLiteral cs then none
      else (name? cs).map fun (name, rest) => (.name name, rest)
    | [] => none

/-- A group that is still open: its delimiter and place, and the trees before it, last first. -/
structure OpenGroup where
  delimiter : Delimiter
  start : Mark
  before : List TokenTree

/-- Splits the characters from a place on. `pending` are the open groups, innermost first, and `done` the trees
read so far in the innermost one, last first. -/
def splitTrees (m : Mark) (pending : List OpenGroup) (done : List TokenTree) :
    List Char → Except Mark (List TokenTree)
  | [] =>
    match pending with
    | [] => .ok done.reverse
    | g :: _ => .error g.start
  | c :: cs =>
    let text := c :: cs
    let size (rest : List Char) : Nat := text.length - rest.length
    match afterComment? text with
    | some rest => splitTrees (m.afterAll (text.take (size rest))) pending done (cs.drop (size rest - 1))
    | none =>
    if isBlank c || c = '\u200e' || c = '\u200f' then splitTrees (m.after c) pending done cs
    else match docComment? text with
    | some doc =>
      splitTrees (m.afterAll (text.take (size doc.rest))) pending ((doc.trees m).reverse ++ done)
        (cs.drop (size doc.rest - 1))
    | none =>
    match Delimiter.opened? c with
    | some d => splitTrees (m.after c) (⟨d, m, done⟩ :: pending) [] cs
    | none =>
    match Delimiter.closed? c with
    | some d =>
      match pending with
      | g :: outer =>
        if g.delimiter = d then splitTrees (m.after c) outer (.group d g.start m done.reverse :: g.before) cs
        else .error m
      | [] => .error m
    | none =>
    match leaf? text with
    | some (token, rest) =>
      splitTrees (m.afterAll (text.take (size rest))) pending (.leaf m token :: done) (cs.drop (size rest - 1))
    | none => .error m
termination_by cs => cs.length

/-- A text without the byte-order mark that may stand in front of it. -/
def withoutByteOrderMark : List Char → List Char
  | '\ufeff' :: cs => cs
  | cs => cs

/-- What follows leading blanks and ordinary comments. -/
def skipBlanks (text : List Char) : List Char :=
  match text with
  | [] => []
  | c :: cs =>
    match afterComment? text with
    | some rest => skipBlanks (cs.drop (text.length - rest.length - 1))
    | none => if isBlank c || c = '\u200e' || c = '\u200f' then skipBlanks cs else text
termination_by text.length

/-- A text without its first line, if that names an interpreter: the line starts with `#!`, and what follows is not
the bracket of an attribute. The line feed stays, so that lines keep their numbers. -/
def withoutInterpreterLine (text : List Char) : List Char :=
  match text with
  | '#' :: '!' :: cs =>
    match skipBlanks cs with
    | '[' :: _ => text
    | _ => text.dropWhile (· ≠ '\n')
  | _ => text

/-- The token trees of a source text, or the place where it cannot be split. -/
def tokenTrees (source : String) : Except Mark (List TokenTree) :=
  splitTrees .start [] [] (withoutInterpreterLine (withoutByteOrderMark source.toList))

end Switchboard.Source
