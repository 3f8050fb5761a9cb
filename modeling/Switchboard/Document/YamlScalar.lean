import Switchboard.Numeric.Notation

/-! # Texts in YAML

A text is written plain if it cannot be taken for anything else, and otherwise in quotes or as a block. -/

namespace Switchboard.Yaml

open Numeric

/-- Digits behind a zero at the front: a text, not a number. -/
def isZeroPadded (cs : List Char) : Bool :=
  let digits := match cs with
    | '-' :: rest => rest
    | '+' :: rest => rest
    | _ => cs
  match digits with
  | '0' :: d :: rest => (d :: rest).all Char.isDigit
  | _ => false

/-- Whether digits of a base, perhaps with their mark in front, are a number that fits a bound. -/
def isBoundedNumber (bound : Nat) : List Char → Bool
  | '0' :: 'x' :: rest => areDigits 16 rest && digitsValue 16 rest ≤ bound
  | '0' :: 'o' :: rest => areDigits 8 rest && digitsValue 8 rest ≤ bound
  | '0' :: 'b' :: rest => areDigits 2 rest && digitsValue 2 rest ≤ bound
  | cs => areDigits 10 cs && digitsValue 10 cs ≤ bound

/-- Whether a text reads as an integer. Integers have up to 128 bits. -/
def readsAsInteger (cs : List Char) : Bool :=
  !isZeroPadded cs && match cs with
    | '-' :: rest => isBoundedNumber (Nat.pow 2 127) rest
    | '+' :: rest => isBoundedNumber (Nat.pow 2 128 - 1) rest
    | _ => isBoundedNumber (Nat.pow 2 128 - 1) cs

/-- Whether a decimal number is too large for a double: at least the middle between the largest double and the next
power of two. -/
def isTooLarge (cs : List Char) : Bool :=
  let (n, exponent) := decimalParts cs
  let bound := Nat.pow 2 1024 - Nat.pow 2 970
  if n = 0 then false
  else if exponent < 0 then bound * Nat.pow 10 (min exponent.natAbs 100000) ≤ n
  else if exponent > 400 then true
  else bound ≤ n * Nat.pow 10 exponent.toNat

/-- Whether a text reads as a number that is no integer. -/
def readsAsDecimal (cs : List Char) : Bool :=
  let unsigned := match cs with
    | '-' :: rest => rest
    | '+' :: rest => rest
    | _ => cs
  !isZeroPadded cs && isDecimal unsigned && !isTooLarge unsigned

/-- The texts that stand for something else: nothing, truth values, and numbers that are not finite. -/
def reservedTexts : List String :=
  ["", "null", "Null", "NULL", "~", "true", "True", "TRUE", "false", "False", "FALSE", ".inf", ".Inf", ".INF", "+.inf",
    "+.Inf", "+.INF", "-.inf", "-.Inf", "-.INF", ".nan", ".NaN", ".NAN"]

/-- Whether a text without quotes would be read as something other than a text, or is like a number with zeros in
front. -/
def readsOtherwise (s : String) : Bool :=
  let cs := s.toList
  reservedTexts.contains s || readsAsInteger cs || readsAsDecimal cs || isZeroPadded cs

/-- A line break. -/
def isBreak (c : Char) : Bool :=
  c == '\n' || c == '\r' || c == '\x85' || c == '\u2028' || c == '\u2029'

/-- A character behind which a token ends. -/
def isBlankOrBreak (c : Char) : Bool :=
  c == ' ' || c == '\t' || c == '\x00' || isBreak c

/-- A character that can stand outside double quotes. -/
def isPrintable (c : Char) : Bool :=
  let n := c.toNat
  n == 0x0A || (0x20 ≤ n && n ≤ 0x7E) || (0xA0 ≤ n && n ≠ 0xFEFF && n ≠ 0xFFFE && n ≠ 0xFFFF)

/-- A character that starts something else than a plain text. -/
def isIndicator (c : Char) : Bool :=
  "#,[]\x7b\x7d&*!|>'\"%@`".toList.contains c

/-- Whether what follows is the end or a blank. -/
def endsToken : List Char → Bool
  | [] => true
  | c :: _ => isBlankOrBreak c

/-- Whether the characters of a text, from behind the first on, hold a mark that would end or change a plain text. -/
def hasInnerMark (previous : Char) : List Char → Bool
  | [] => false
  | c :: rest => (c == ':' && endsToken rest) || (c == '#' && isBlankOrBreak previous) || hasInnerMark c rest

/-- Whether a text holds a mark that would end or change it if it were plain. -/
def hasMark : List Char → Bool
  | [] => false
  | c :: rest =>
    isIndicator c || ((c == '?' || c == ':' || c == '-') && endsToken rest) || hasInnerMark c rest
      || ['-', '-', '-'].isPrefixOf (c :: rest) || ['.', '.', '.'].isPrefixOf (c :: rest)

/-- Whether one character comes directly before a break. -/
def spaceBeforeBreak : List Char → Bool
  | ' ' :: c :: rest => isBreak c || spaceBeforeBreak (c :: rest)
  | _ :: rest => spaceBeforeBreak rest
  | [] => false

/-- How a text is written. -/
inductive Style where
  | plain
  | singleQuoted
  | doubleQuoted
  | block
  deriving DecidableEq, Repr

/-- The style of a text. -/
def styleOf (s : String) : Style :=
  let cs := s.toList
  let outer := cs.head? == some ' ' || cs.getLast? == some ' '
  let special := spaceBeforeBreak cs || !cs.all isPrintable
  if cs.contains '\n' then
    if special || cs.getLast? == some ' ' then .doubleQuoted else .block
  else if special then .doubleQuoted
  else if readsOtherwise s || outer || hasMark cs || cs.any isBreak then .singleQuoted
  else .plain

/-- The escape of a character in double quotes. -/
def escapeOf (c : Char) : List Char :=
  let hex (width n : Nat) : List Char :=
    let digits := (Nat.toDigits 16 n).map Char.toUpper
    List.replicate (width - digits.length) '0' ++ digits
  match c.toNat with
  | 0x00 => ['\\', '0']
  | 0x07 => ['\\', 'a']
  | 0x08 => ['\\', 'b']
  | 0x09 => ['\\', 't']
  | 0x0A => ['\\', 'n']
  | 0x0B => ['\\', 'v']
  | 0x0C => ['\\', 'f']
  | 0x0D => ['\\', 'r']
  | 0x1B => ['\\', 'e']
  | 0x22 => ['\\', '"']
  | 0x5C => ['\\', '\\']
  | 0x85 => ['\\', 'N']
  | 0xA0 => ['\\', '_']
  | 0x2028 => ['\\', 'L']
  | 0x2029 => ['\\', 'P']
  | n => if n ≤ 0xFF then ['\\', 'x'] ++ hex 2 n else if n ≤ 0xFFFF then ['\\', 'u'] ++ hex 4 n
    else ['\\', 'U'] ++ hex 8 n

/-- A text in double quotes. -/
def doubleQuoted (s : String) : String :=
  let char (c : Char) : List Char :=
    if !isPrintable c || isBreak c || c == '"' || c == '\\' then escapeOf c else [c]
  String.ofList (['"'] ++ s.toList.flatMap char ++ ['"'])

/-- A text in single quotes. -/
def singleQuoted (s : String) : String :=
  String.ofList (['\''] ++ s.toList.flatMap (fun c => if c == '\'' then ['\'', '\''] else [c]) ++ ['\''])

/-- The mark in front of a block: its indentation if it starts with a blank or a break, and what becomes of the breaks
at its end. -/
def blockMark (cs : List Char) : String :=
  let indent := match cs with
    | c :: _ => if c == ' ' || isBreak c then "2" else ""
    | [] => ""
  let ending := match cs.reverse with
    | '\n' :: [] => "+"
    | '\n' :: c :: _ => if isBreak c then "+" else ""
    | _ => "-"
  "|" ++ indent ++ ending

/-- The lines of a text. -/
def linesOf (cs : List Char) : List (List Char) :=
  match cs with
  | [] => []
  | _ :: _ =>
    let rec go (line : List Char) : List Char → List (List Char)
      | [] => if line.isEmpty then [] else [line.reverse]
      | '\n' :: rest => line.reverse :: go [] rest
      | c :: rest => go (c :: line) rest
    go [] cs

/-- A text as it stands behind a key: the rest of the key's line, and the lines below it, to be indented. -/
def scalarLines (s : String) : String × List String :=
  match styleOf s with
  | .plain => (s, [])
  | .singleQuoted => (singleQuoted s, [])
  | .doubleQuoted => (doubleQuoted s, [])
  | .block => (blockMark s.toList, (linesOf s.toList).map String.ofList)

end Switchboard.Yaml
