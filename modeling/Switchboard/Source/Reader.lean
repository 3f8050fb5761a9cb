import Switchboard.Source.Spelling

/-! # Reading token trees

A reader consumes token trees from the front of a group, or of the whole text, and fails at a place: at the first
token that cannot continue, or at the group's end if there is none. Tokens left over at the end of a group are no
failure at once; the first such place is kept, for the reading of the text as a whole to fail there. A reader also
keeps the words of what it consumed. -/

namespace Switchboard.Source

/-- Where a reader stands. -/
structure Cursor where
  /-- The trees not yet consumed. -/
  rest : List TokenTree
  /-- The place reported if the trees end too early. -/
  close : Mark
  /-- The words consumed so far. -/
  words : Array Word
  /-- The first token left over at the end of a group. -/
  stray : Option Mark

/-- A reader fails with a place. -/
abbrev Reader := StateT Cursor (Except Mark)

namespace Cursor

/-- The place of the next token. -/
def mark (c : Cursor) : Mark :=
  match c.rest with
  | t :: _ => t.start
  | [] => c.close

/-- The cursor with a token left over, unless there was one before. -/
def withStray (c : Cursor) (m : Option Mark) : Cursor :=
  { c with stray := c.stray <|> m }

end Cursor

/-! ### What comes next -/

/-- The words that are no names unless written raw. -/
def keywords : List String :=
  ["_", "abstract", "as", "async", "await", "become", "box", "break", "const", "continue", "crate", "do", "dyn",
    "else", "enum", "extern", "false", "final", "fn", "for", "if", "impl", "in", "let", "loop", "macro", "match",
    "mod", "move", "mut", "override", "priv", "pub", "ref", "return", "Self", "self", "static", "struct", "super",
    "trait", "true", "try", "type", "typeof", "unsafe", "unsized", "use", "virtual", "where", "while", "yield"]

/-- A question about the trees that come next. -/
abbrev Ahead := List TokenTree → Bool

namespace Ahead

/-- A given keyword. -/
def keyword (k : String) : Ahead
  | .leaf _ (.name n) :: _ => n == k
  | _ => false

/-- One of some keywords. -/
def keywordOf (ks : List String) : Ahead := fun ts => ks.any (keyword · ts)

/-- A name that is no keyword. -/
def identifier : Ahead
  | .leaf _ (.name n) :: _ => !keywords.contains n
  | _ => false

/-- Any word, keyword or not. -/
def word : Ahead
  | .leaf _ (.name _) :: _ => true
  | _ => false

/-- A lifetime. -/
def lifetime : Ahead
  | .leaf _ (.lifetime _) :: _ => true
  | _ => false

/-- The characters of an operator, joined up to the last one. -/
def punctChars : List Char → Ahead
  | [], _ => true
  | [c], .leaf _ (.punct d _) :: _ => c == d
  | c :: cs, .leaf _ (.punct d joint) :: ts => c == d && joint && punctChars cs ts
  | _, _ => false

/-- An operator; what follows its last character does not matter. -/
def punct (op : String) : Ahead := punctChars op.toList

/-- A group in a delimiter. -/
def group (d : Delimiter) : Ahead
  | .group e _ _ _ :: _ => d = e
  | _ => false

/-- A literal without a sign, or a truth value. -/
def plainLiteral : Ahead
  | .leaf _ (.literal _ _) :: _ => true
  | ts => keywordOf ["true", "false"] ts

/-- A literal, with a sign or without. -/
def literal : Ahead
  | .leaf _ (.punct '-' _) :: .leaf _ (.literal k _) :: _ => k = .integer || k = .float
  | ts => plainLiteral ts

/-- The end of the group. -/
def nothing : Ahead := List.isEmpty

/-- What holds behind the next tree. -/
def second (p : Ahead) : Ahead := fun ts => p (ts.drop 1)

/-- What holds behind the next two trees. -/
def third (p : Ahead) : Ahead := fun ts => p (ts.drop 2)

/-- Either of two. -/
def or (p q : Ahead) : Ahead := fun ts => p ts || q ts

/-- The first and not the second. -/
def butNot (p q : Ahead) : Ahead := fun ts => p ts && !q ts

/-- Any of several. -/
def any (ps : List Ahead) : Ahead := fun ts => ps.any (· ts)

/-- A single colon that is not the beginning of `::`. -/
def loneColon : Ahead := butNot (punct ":") (punct "::")

/-- The keywords that may stand for a path's segment. -/
def pathKeyword : Ahead := keywordOf ["super", "self", "Self", "crate"]

end Ahead

/-! ### Elementary readers -/

namespace Reader

/-- Fails at the next token. -/
def fail {α : Type} : Reader α := fun c => .error c.mark

/-- Fails at a given place. -/
def failAt {α : Type} (m : Mark) : Reader α := fun _ => .error m

/-- The place of the next token. -/
def mark : Reader Mark := return (← get).mark

/-- Asks about what comes next. -/
def ahead (p : Ahead) : Reader Bool := return p (← get).rest

/-- Consumes some trees as the words given. -/
def consume (count : Nat) (words : List Word) : Reader Unit :=
  modify fun c => { c with rest := c.rest.drop count, words := c.words ++ words }

/-- Consumes one tree as it stands. -/
def tree : Reader TokenTree := do
  match (← get).rest with
  | t :: _ => consume 1 (Word.ofTree t); return t
  | [] => fail

/-- An operator. -/
def punct (op : String) : Reader Unit := do
  if ← ahead (.punct op) then consume op.length [.token op false] else fail

/-- A keyword. -/
def keyword (k : String) : Reader Unit := do
  if ← ahead (.keyword k) then consume 1 [.token k false] else fail

/-- Any word, keyword or not. -/
def word : Reader String := do
  match (← get).rest with
  | .leaf _ (.name n) :: _ => consume 1 [.token n false]; return n
  | _ => fail

/-- A name that is no keyword. -/
def identifier : Reader String := do
  if ← ahead .identifier then word else fail

/-- A lifetime. -/
def lifetime : Reader Unit := do
  match (← get).rest with
  | .leaf _ (.lifetime n) :: _ => consume 1 [.token ("'" ++ n) false]
  | _ => fail

/-- A literal; its sign is a word of its own. -/
def literal : Reader Unit := do
  if ← ahead .literal then
    if ← ahead (.punct "-") then punct "-"
    let _ ← tree
  else fail

/-- Whether an operator came, consumed if so. -/
def punct? (op : String) : Reader Bool := do
  if ← ahead (.punct op) then punct op; return true else return false

/-- Whether a keyword came, consumed if so. -/
def keyword? (k : String) : Reader Bool := do
  if ← ahead (.keyword k) then keyword k; return true else return false

/-- Whether a lifetime came, consumed if so. -/
def lifetime? : Reader Bool := do
  if ← ahead .lifetime then lifetime; return true else return false

/-- Reads the content of a group. What it leaves over is noted. -/
def inGroup {α : Type} (d : Delimiter) (content : Reader α) : Reader α := do
  let c ← get
  match c.rest with
  | .group e _ close trees :: rest =>
    if d = e then
      let (a, c') ← StateT.lift
        (content.run { rest := trees, close := close, words := c.words.push (.opening d), stray := c.stray })
      let c' := c'.withStray (c'.rest.head?.map (·.start))
      set { c' with rest := rest, close := c.close, words := c'.words.push (.closing d) }
      return a
    else fail
  | _ => fail

/-- A group whose content is not looked at. -/
def skipGroup (d : Delimiter) : Reader Unit := do
  if ← ahead (.group d) then let _ ← tree else fail

/-- A group in any delimiter, whose content is not looked at. -/
def anyGroup : Reader Delimiter := do
  match (← get).rest with
  | .group d _ _ _ :: _ => let _ ← tree; return d
  | _ => fail

/-- What a reader would give, if it succeeds, with nothing consumed. -/
def lookAhead {α : Type} (r : Reader α) : Reader (Option (α × Cursor)) :=
  fun c => .ok ((r c).toOption, c)

/-- A reader's result and the words it consumed, which are taken out of the words kept. -/
def spelled {α : Type} (r : Reader α) : Reader (α × List Word) := do
  let before := (← get).words
  modify fun c => { c with words := #[] }
  let a ← r
  let inside := (← get).words
  modify fun c => { c with words := before }
  return (a, inside.toList)

/-- Adds words to those kept. -/
def write (words : List Word) : Reader Unit :=
  modify fun c => { c with words := c.words ++ words }

/-- A reader's result and its spelling. -/
def withSpelling {α : Type} (r : Reader α) : Reader (α × String) := do
  let (a, words) ← spelled r
  write words
  return (a, Word.spell words)

/-- The spelling of the trees between an earlier cursor and now, as they stood. -/
def spellingSince (before : Cursor) : Reader String := do
  let rest := (← get).rest
  return Word.spell (Word.ofTrees (before.rest.take (before.rest.length - rest.length)))

/-! ### Repetition -/

/-- The results of a step repeated until it ends by itself, at most a number of times. -/
def repeatUpTo {α : Type} (step : Reader (Option α)) : Nat → Reader (List α)
  | 0 => return []
  | n + 1 => do
    match ← step with
    | none => return []
    | some a => return a :: (← repeatUpTo step n)

/-- The results of a step repeated until it ends by itself. A step that goes on consumes a tree, so the number of
trees bounds the repetition. -/
def many {α : Type} (step : Reader (Option α)) : Reader (List α) := do
  repeatUpTo step ((← get).rest.length + 1)

/-- Elements up to a stop, with a separator between any two and perhaps behind the last. -/
def separatedBy {α : Type} (separator : String) (stop : Ahead) (element : Reader α) : Reader (List α) := do
  if ← ahead stop then return []
  let first ← element
  let others ← many do
    if ← ahead stop then return none
    punct separator
    if ← ahead stop then return none
    return some (← element)
  return first :: others

/-- Elements joined by an operator: they go on as long as it comes, and may end behind it at a stop. -/
def joinedBy {α : Type} (operator : String) (stop : Ahead) (element : Reader α) : Reader (List α) := do
  if ← ahead stop then return []
  let first ← element
  let others ← many do
    if !(← punct? operator) then return none
    if ← ahead stop then return none
    return some (← element)
  return first :: others

/-- Elements separated by commas to the end of the group. -/
def commaSeparated {α : Type} (element : Reader α) : Reader (List α) :=
  separatedBy "," .nothing element

end Reader

end Switchboard.Source
