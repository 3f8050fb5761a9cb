import Switchboard.Source.Position

/-! # Tokens and token trees

A source text is a sequence of token trees: names, lifetimes, literals, single punctuation characters, and groups
between matching delimiters. A punctuation character is `joint` when another one follows it directly, so that a
reader can tell `::` from `: :`. Every tree knows where it starts; a group also knows where it is closed. -/

namespace Switchboard.Source

/-- The three pairs of brackets. -/
inductive Delimiter where
  | parenthesis
  | bracket
  | brace
  deriving DecidableEq, Repr, Inhabited

namespace Delimiter

/-- The delimiter that a character opens. -/
def opened? : Char → Option Delimiter
  | '(' => some parenthesis
  | '[' => some bracket
  | '\x7b' => some brace
  | _ => none

/-- The delimiter that a character closes. -/
def closed? : Char → Option Delimiter
  | ')' => some parenthesis
  | ']' => some bracket
  | '\x7d' => some brace
  | _ => none

/-- The opening character. -/
def opening : Delimiter → String
  | parenthesis => "("
  | bracket => "["
  | brace => "\x7b"

/-- The closing character. -/
def closing : Delimiter → String
  | parenthesis => ")"
  | bracket => "]"
  | brace => "\x7d"

end Delimiter

/-- The kinds of literal that a reader tells apart. -/
inductive LiteralKind where
  | text
  | bytes
  | character
  | integer
  | float
  deriving DecidableEq, Repr

/-- A token that holds no other. -/
inductive Leaf where
  /-- A name or keyword, with the `r#` of a raw name. -/
  | name (text : String)
  /-- A lifetime, without its apostrophe. -/
  | lifetime (text : String)
  /-- A literal as written, suffix included. -/
  | literal (kind : LiteralKind) (text : String)
  /-- One punctuation character; `joint` when another follows without a gap. -/
  | punct (char : Char) (joint : Bool)
  deriving DecidableEq, Repr

/-- A token or a group of tokens between delimiters. -/
inductive TokenTree where
  | leaf (start : Mark) (token : Leaf)
  | group (delimiter : Delimiter) (start close : Mark) (content : List TokenTree)

/-- Where a tree starts. -/
def TokenTree.start : TokenTree → Mark
  | leaf m _ => m
  | group _ m _ _ => m

end Switchboard.Source
