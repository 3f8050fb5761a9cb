import Switchboard.Source.Token
import Switchboard.Text.Identifier

/-! # Literals

Where a literal ends. Each function takes the characters from some point of a literal on and answers what is left
behind it, or nothing if the characters are no such literal. Quoted texts come in three flavours, which differ in
the escapes and characters they admit; raw texts end at a quote followed by their hash signs. -/

namespace Switchboard.Source

open Text

/-- What follows a name, if the characters start with one. -/
def afterName? : List Char → Option (List Char)
  | c :: cs => if isIdentifierStart c then some (cs.dropWhile isIdentifierContinue) else none
  | [] => none

/-- A literal takes the name that follows it as its suffix. -/
def afterSuffix (cs : List Char) : List Char :=
  (afterName? cs).getD cs

/-- A hexadecimal digit's value. -/
def hexValue? (c : Char) : Option Nat :=
  if '0' ≤ c ∧ c ≤ '9' then some (c.toNat - '0'.toNat)
  else if 'a' ≤ c ∧ c ≤ 'f' then some (10 + (c.toNat - 'a'.toNat))
  else if 'A' ≤ c ∧ c ≤ 'F' then some (10 + (c.toNat - 'A'.toNat))
  else none

/-- A number that is a character's code point. -/
def isScalarValue (n : Nat) : Bool :=
  n < 0xD800 || (0xDFFF < n && n < 0x110000)

/-- The flavours of quoted text: characters, bytes, and zero-terminated characters. -/
inductive Quoted where
  | text
  | bytes
  | terminated
  deriving DecidableEq, Repr

namespace Quoted

/-- A character that may stand in the text as itself. -/
def admits : Quoted → Char → Bool
  | text, _ => true
  | bytes, c => c.toNat < 0x80
  | terminated, c => c != '\x00'

/-- A character that may follow a backslash alone. -/
def escapes : Quoted → Char → Bool
  | terminated, c => "nrt\\'\"".contains c
  | _, c => "nrt\\'\"0".contains c

/-- Two digits that may follow `\x`. -/
def hexEscapes (q : Quoted) (high low : Char) : Bool :=
  match hexValue? high, hexValue? low with
  | some h, some l =>
    match q with
    | text => h < 8
    | bytes => true
    | terminated => h + l != 0
  | _, _ => false

/-- A code point that may stand in `\u{…}`. -/
def codeEscapes : Quoted → Nat → Bool
  | text, n => isScalarValue n
  | bytes, _ => false
  | terminated, n => isScalarValue n && n != 0

end Quoted

/-- How far the reading of a quoted text has come: between characters, or inside the braces of `\u{…}` with some
digits read and their value. -/
inductive QuotedStage where
  | plain
  | code (digits value : Nat)

/-- One character inside the braces of `\u{…}`; nothing if it cannot stand there. The closing brace leads back to
the plain stage. -/
def Quoted.codeStep? (q : Quoted) (digits value : Nat) (c : Char) : Option QuotedStage :=
  if c = '\x7d' then
    if digits > 0 && q.codeEscapes value then some .plain else none
  else if c = '_' then
    if digits > 0 then some (.code digits value) else none
  else match hexValue? c with
    | some d => if digits < 6 then some (.code (digits + 1) (value * 16 + d)) else none
    | none => none

/-- What follows the closing quote of a quoted text. A carriage return must be followed by a line feed. -/
def afterQuoted? (q : Quoted) : QuotedStage → List Char → Option (List Char)
  | _, [] => none
  | .code digits value, c :: cs =>
    match q.codeStep? digits value c with
    | some stage => afterQuoted? q stage cs
    | none => none
  | .plain, '"' :: cs => some cs
  | .plain, '\r' :: '\n' :: cs => afterQuoted? q .plain cs
  | .plain, '\r' :: _ => none
  | .plain, '\\' :: 'x' :: high :: low :: cs => if q.hexEscapes high low then afterQuoted? q .plain cs else none
  | .plain, '\\' :: 'u' :: '\x7b' :: cs => afterQuoted? q (.code 0 0) cs
  | .plain, '\\' :: '\r' :: '\n' :: cs => afterQuoted? q .plain cs
  | .plain, '\\' :: c :: cs => if c = '\n' || q.escapes c then afterQuoted? q .plain cs else none
  | .plain, ['\\'] => none
  | .plain, c :: cs => if q.admits c then afterQuoted? q .plain cs else none

/-- What follows a raw text that ends at a quote and a number of hash signs. -/
def afterRawBody? (q : Quoted) (hashes : Nat) : List Char → Option (List Char)
  | [] => none
  | '\r' :: '\n' :: cs => afterRawBody? q hashes cs
  | '\r' :: _ => none
  | c :: cs =>
    if c = '"' && cs.take hashes == List.replicate hashes '#' then some (cs.drop hashes)
    else if q.admits c then afterRawBody? q hashes cs
    else none

/-- What follows a raw text, from its hash signs on; it has at most 255 of them. -/
def afterRaw? (q : Quoted) (cs : List Char) : Option (List Char) :=
  let hashes := (cs.takeWhile (· = '#')).length
  match cs.drop hashes with
  | '"' :: body => if hashes ≤ 255 then afterRawBody? q hashes body else none
  | _ => none

/-- What follows the braces of `\u{…}` in a character, from its first digit on. -/
def afterCharacterCode? (stage : Nat × Nat) : List Char → Option (List Char)
  | [] => none
  | c :: cs =>
    match Quoted.text.codeStep? stage.1 stage.2 c with
    | some (.code digits value) => afterCharacterCode? (digits, value) cs
    | some .plain => some cs
    | none => none

/-- What follows the one character, or escape, between apostrophes. -/
def afterCharacterBody? (q : Quoted) : List Char → Option (List Char)
  | '\\' :: 'x' :: high :: low :: cs => if q.hexEscapes high low then some cs else none
  | '\\' :: 'u' :: '\x7b' :: cs => if q = .text then afterCharacterCode? (0, 0) cs else none
  | '\\' :: c :: cs => if q.escapes c then some cs else none
  | ['\\'] => none
  | c :: cs => if q.admits c then some cs else none
  | [] => none

/-- What follows a character literal, from behind its first apostrophe on. -/
def afterCharacter? (q : Quoted) (cs : List Char) : Option (List Char) :=
  match afterCharacterBody? q cs with
  | some ('\'' :: rest) => some rest
  | _ => none

/-- What follows an exponent, from behind its `e` on. It may have one sign in front and needs a digit. -/
def afterExponent? (signed valued : Bool) : List Char → Option (List Char)
  | c :: cs =>
    if c = '+' || c = '-' then
      if valued then some (c :: cs) else if signed then none else afterExponent? true valued cs
    else if c.isDigit then afterExponent? signed true cs
    else if c = '_' then afterExponent? signed valued cs
    else if valued then some (c :: cs) else none
  | [] => if valued then some [] else none

/-- A digit, or the low line that may stand between digits. -/
def isDigitOrGap (c : Char) : Bool :=
  c.isDigit || c = '_'

/-- What follows the digits, point and exponent of a floating literal. Without a point it needs an exponent; a point
must not be followed by a name or another point; an exponent without digits is left to be the suffix. -/
def afterFloatDigits? (cs : List Char) : Option (List Char) :=
  match cs with
  | [] => none
  | c :: _ =>
    if !c.isDigit then none
    else match cs.dropWhile isDigitOrGap with
      | '.' :: tail =>
        if (tail.head?.map fun d => d = '.' || isIdentifierStart d).getD false then none
        else match tail.dropWhile isDigitOrGap with
          | e :: rest => if e = 'e' || e = 'E' then some ((afterExponent? false false rest).getD (e :: rest))
            else some (e :: rest)
          | [] => some []
      | e :: rest => if e = 'e' || e = 'E' then afterExponent? false false rest else none
      | [] => none

/-- What follows the digits of an integer in a base. -/
def afterDigits? (base : Nat) (seen : Bool) : List Char → Option (List Char)
  | c :: cs =>
    if c = '_' then
      if !seen && base = 10 then none else afterDigits? base seen cs
    else match hexValue? c with
      | some d =>
        if d < base then afterDigits? base true cs
        else if c.isDigit then none
        else if seen then some (c :: cs) else none
      | none => if seen then some (c :: cs) else none
  | [] => if seen then some [] else none

/-- What follows the digits of an integer, whose base a leading `0x`, `0o` or `0b` gives. -/
def afterIntegerDigits? : List Char → Option (List Char)
  | '0' :: 'x' :: cs => afterDigits? 16 false cs
  | '0' :: 'o' :: cs => afterDigits? 8 false cs
  | '0' :: 'b' :: cs => afterDigits? 2 false cs
  | cs => afterDigits? 10 false cs

/-- A number takes the name behind it as its suffix and must then be at a word's end. -/
def afterNumber? (digits : Option (List Char)) : Option (List Char) :=
  match digits.map afterSuffix with
  | some (c :: cs) => if isIdentifierContinue c then none else some (c :: cs)
  | rest => rest

/-- The literal that the characters start with: its kind and what follows it. -/
def afterLiteral? (cs : List Char) : Option (LiteralKind × List Char) :=
  let quoted : Option (LiteralKind × List Char) := match cs with
    | '"' :: r => (afterQuoted? .text .plain r).map (.text, ·)
    | 'r' :: r => (afterRaw? .text r).map (.text, ·)
    | 'b' :: '"' :: r => (afterQuoted? .bytes .plain r).map (.bytes, ·)
    | 'b' :: 'r' :: r => (afterRaw? .bytes r).map (.bytes, ·)
    | 'c' :: '"' :: r => (afterQuoted? .terminated .plain r).map (.bytes, ·)
    | 'c' :: 'r' :: r => (afterRaw? .terminated r).map (.bytes, ·)
    | 'b' :: '\'' :: r => (afterCharacter? .bytes r).map (.character, ·)
    | '\'' :: r => (afterCharacter? .text r).map (.character, ·)
    | _ => none
  match quoted with
  | some (kind, rest) => some (kind, afterSuffix rest)
  | none =>
    match afterNumber? (afterFloatDigits? cs) with
    | some rest => some (.float, rest)
    | none => (afterNumber? (afterIntegerDigits? cs)).map (.integer, ·)

end Switchboard.Source
