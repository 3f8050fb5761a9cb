/-! # The text of settings

Settings are written one to a line, as a key, an equals sign and a value. A value is a truth value or a text between
quotes: double quotes allow escapes, single quotes do not, and three of either allow line breaks. Tables, numbers and
lists have no use here, so a text with one of them has no meaning. -/

namespace Switchboard.Settings

/-- The value of a setting. -/
inductive Value where
  | flag (b : Bool)
  | text (s : String)
  deriving DecidableEq, Repr

/-- A key with its value. -/
structure Assignment where
  key : String
  value : Value
  deriving DecidableEq, Repr

/-- What a step reads from a text, with the rest of the text. -/
abbrev Step (α : Type) := Option (α × List Char)

/-- A blank inside a line. -/
def isGap (c : Char) : Bool :=
  c = ' ' || c = '\t'

/-- A character that cannot stand for itself. A tab can. -/
def isControl (c : Char) : Bool :=
  (c.toNat < 0x20 && c ≠ '\t') || c.toNat = 0x7F

/-- A character of a key without quotes. -/
def isKeyChar (c : Char) : Bool :=
  c.isAlphanum || c = '_' || c = '-'

/-! ### Escapes -/

/-- The value of a hexadecimal digit. -/
def hexValue? (c : Char) : Option Nat :=
  if c.isDigit then some (c.toNat - 0x30)
  else if 'a' ≤ c ∧ c ≤ 'f' then some (c.toNat - 0x57)
  else if 'A' ≤ c ∧ c ≤ 'F' then some (c.toNat - 0x37)
  else none

/-- The number of some hexadecimal digits. -/
def hexNumber? (digits : List Char) : Option Nat :=
  digits.foldl (fun n c => do return 16 * (← n) + (← hexValue? c)) (some 0)

/-- The character whose number is written in a given count of hexadecimal digits. -/
def numberedChar? (count : Nat) (cs : List Char) : Option Char :=
  let digits := cs.take count
  if digits.length = count then
    match hexNumber? digits with
    | some n => if n.isValidChar then some (Char.ofNat n) else none
    | none => none
  else none

/-- The character that an escape stands for, with the number of characters of the escape behind the backslash. -/
def escape? : List Char → Option (Char × Nat)
  | 'b' :: _ => some ('\x08', 1)
  | 't' :: _ => some ('\t', 1)
  | 'n' :: _ => some ('\n', 1)
  | 'f' :: _ => some ('\x0c', 1)
  | 'r' :: _ => some ('\r', 1)
  | 'e' :: _ => some ('\x1b', 1)
  | '"' :: _ => some ('"', 1)
  | '\\' :: _ => some ('\\', 1)
  | 'x' :: cs => (numberedChar? 2 cs).map (·, 3)
  | 'u' :: cs => (numberedChar? 4 cs).map (·, 5)
  | 'U' :: cs => (numberedChar? 8 cs).map (·, 9)
  | _ => none

/-! ### Texts between quotes -/

/-- Puts characters in front of those that a step reads. -/
def Step.prepend (cs : List Char) (s : Step (List Char)) : Step (List Char) :=
  s.map fun (ds, rest) => (cs ++ ds, rest)

/-- A text behind its double quote. -/
def escapedText : List Char → Step (List Char)
  | [] => none
  | '"' :: rest => some ([], rest)
  | '\\' :: rest =>
    match escape? rest with
    | some (c, n) => Step.prepend [c] (escapedText (rest.drop n))
    | none => none
  | c :: rest => if isControl c then none else Step.prepend [c] (escapedText rest)
termination_by cs => cs.length

/-- A text behind its single quote. -/
def plainText : List Char → Step (List Char)
  | [] => none
  | '\'' :: rest => some ([], rest)
  | c :: rest => if isControl c then none else Step.prepend [c] (plainText rest)

/-- What closes a text of several lines: three quotes, with up to two more that belong to the text. -/
def closing? (quote : Char) (cs : List Char) : Step (List Char) :=
  let quotes := min 5 (cs.takeWhile (· = quote)).length
  if 3 ≤ quotes then some (List.replicate (quotes - 3) quote, cs.drop quotes) else none

/-- A line break, with or without a carriage return. -/
def lineBreak? : List Char → Option (List Char)
  | '\n' :: rest => some rest
  | '\r' :: '\n' :: rest => some rest
  | _ => none

/-- The rest of a text behind blanks and line breaks. -/
def skipLines : List Char → List Char
  | '\r' :: '\n' :: rest => skipLines rest
  | c :: rest => if isGap c || c = '\n' then skipLines rest else c :: rest
  | [] => []

theorem length_skipLines_le (cs : List Char) : (skipLines cs).length ≤ cs.length := by
  fun_induction skipLines cs with
  | case1 rest ih => simp; omega
  | case2 c rest _ _ ih => simp; omega
  | case3 => simp
  | case4 => simp

/-- A text of several lines behind its double quotes. A backslash at the end of a line joins it with the next text,
blanks left out. -/
def escapedLines (cs : List Char) : Step (List Char) :=
  match closing? '"' cs with
  | some (quotes, rest) => some (quotes, rest)
  | none =>
    match cs with
    | [] => none
    | '\\' :: rest =>
      if (lineBreak? (rest.dropWhile isGap)).isSome then escapedLines (skipLines rest)
      else match escape? rest with
        | some (c, n) => Step.prepend [c] (escapedLines (rest.drop n))
        | none => none
    | '\r' :: '\n' :: rest => Step.prepend ['\n'] (escapedLines rest)
    | c :: rest => if isControl c && c ≠ '\n' then none else Step.prepend [c] (escapedLines rest)
termination_by cs.length
decreasing_by
  · have := length_skipLines_le rest
    simp only [List.length_cons]
    omega
  all_goals
    simp only [List.length_cons, List.length_drop]
    omega

/-- A text of several lines behind its single quotes. -/
def plainLines (cs : List Char) : Step (List Char) :=
  match closing? '\'' cs with
  | some (quotes, rest) => some (quotes, rest)
  | none =>
    match cs with
    | [] => none
    | '\r' :: '\n' :: rest => Step.prepend ['\n'] (plainLines rest)
    | c :: rest => if isControl c && c ≠ '\n' then none else Step.prepend [c] (plainLines rest)
termination_by cs.length

/-- A text without the line break that it starts with. -/
def skipLineBreak (cs : List Char) : List Char :=
  (lineBreak? cs).getD cs

/-- A text between quotes on one line. -/
def quotedText : List Char → Step (List Char)
  | '"' :: rest => escapedText rest
  | '\'' :: rest => plainText rest
  | _ => none

/-! ### Lines -/

/-- A value. -/
def value : List Char → Step Value
  | '"' :: '"' :: '"' :: rest => (escapedLines (skipLineBreak rest)).map fun (cs, rest) => (.text (.ofList cs), rest)
  | '\'' :: '\'' :: '\'' :: rest => (plainLines (skipLineBreak rest)).map fun (cs, rest) => (.text (.ofList cs), rest)
  | 't' :: 'r' :: 'u' :: 'e' :: rest => some (.flag true, rest)
  | 'f' :: 'a' :: 'l' :: 's' :: 'e' :: rest => some (.flag false, rest)
  | cs => (quotedText cs).map fun (cs, rest) => (.text (.ofList cs), rest)

/-- A key: between quotes, or of letters, digits, underscores and hyphens. -/
def key (cs : List Char) : Step String :=
  match cs with
  | '"' :: _ | '\'' :: _ => (quotedText cs).map fun (cs, rest) => (.ofList cs, rest)
  | _ =>
    match cs.takeWhile isKeyChar with
    | [] => none
    | name => some (.ofList name, cs.dropWhile isKeyChar)

/-- A key with its value. -/
def assignment (cs : List Char) : Step Assignment :=
  match key cs with
  | none => none
  | some (name, rest) =>
    match rest.dropWhile isGap with
    | '=' :: rest => (value (rest.dropWhile isGap)).map fun (v, rest) => (⟨name, v⟩, rest)
    | _ => none

/-- The text behind a comment, if there is one. -/
def skipComment : List Char → List Char
  | '#' :: rest => rest.dropWhile (!isControl ·)
  | cs => cs

/-- What is behind the end of a line: blanks and a comment may stand before it. -/
def lineEnd (cs : List Char) : Option (List Char) :=
  match skipComment (cs.dropWhile isGap) with
  | [] => some []
  | rest => lineBreak? rest

/-- At most `n` lines. -/
def lines : Nat → List Char → Option (List Assignment)
  | 0, _ => none
  | n + 1, cs =>
    match cs.dropWhile isGap with
    | [] => some []
    | cs =>
      match lineEnd cs with
      | some rest => lines n rest
      | none =>
        match assignment cs with
        | none => none
        | some (a, rest) =>
          match lineEnd rest with
          | none => none
          | some rest => (lines n rest).map (a :: ·)

/-- A text without its byte order mark. -/
def skipMark : List Char → List Char
  | '\ufeff' :: cs => cs
  | cs => cs

/-- The settings that a text makes, in order. Each line takes a character or more. -/
def assignments (text : String) : Option (List Assignment) :=
  let cs := skipMark text.toList
  lines (cs.length + 1) cs

end Switchboard.Settings
