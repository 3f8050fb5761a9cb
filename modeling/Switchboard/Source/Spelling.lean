import Switchboard.Source.Token

/-! # Spelling of token sequences

Types and patterns are shown by their tokens, not by the text they were read from: one space between any two tokens,
except inside round and square brackets next to the bracket. An operator of several characters is one word. Tokens
that no grammar has looked at keep their punctuation as it was joined. -/

namespace Switchboard.Source

/-- One word of a spelled token sequence. -/
inductive Word where
  /-- A token's text; `joint` when the next word follows without a space. -/
  | token (text : String) (joint : Bool)
  | opening (delimiter : Delimiter)
  | closing (delimiter : Delimiter)
  deriving DecidableEq, Repr

namespace Word

/-- The characters of a word. -/
def text : Word → String
  | token t _ => t
  | opening d => d.opening
  | closing d => d.closing

/-- Whether a space separates two neighbouring words. -/
def spaced : Word → Word → Bool
  | token _ true, _ => false
  | opening .parenthesis, _ => false
  | opening .bracket, _ => false
  | _, closing .parenthesis => false
  | _, closing .bracket => false
  | _, _ => true

/-- The words as one text. -/
def spell : List Word → String
  | [] => ""
  | [w] => w.text
  | w :: v :: rest => w.text ++ (if spaced w v then " " else "") ++ spell (v :: rest)

/-- The word of a token that is shown as it stands. -/
def ofLeaf : Leaf → Word
  | .name t => token t false
  | .lifetime t => token ("'" ++ t) false
  | .literal _ t => token t false
  | .punct c joint => token c.toString joint

mutual

/-- The words of a tree that is shown as it stands. -/
def ofTree : TokenTree → List Word
  | .leaf _ t => [ofLeaf t]
  | .group d _ _ content => opening d :: (ofTrees content ++ [closing d])

/-- The words of trees that are shown as they stand. -/
def ofTrees : List TokenTree → List Word
  | [] => []
  | t :: ts => ofTree t ++ ofTrees ts

end

end Word

end Switchboard.Source
