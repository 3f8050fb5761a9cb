import Switchboard.Json.Fault
import Switchboard.Text.Utf8

/-! # Reading bytes of JSON

A reader goes through bytes and knows where it stands. A fault is placed either behind the bytes already read, or at
the next byte, which it then counts. -/

namespace Switchboard.Json

/-- A sequence of bytes that is being read: what is left of it, and the place behind what was read. -/
structure ByteCursor where
  rest : List UInt8
  place : BytePlace

namespace ByteCursor

/-- A sequence of which nothing was read. -/
def start (bytes : List UInt8) : ByteCursor :=
  ⟨bytes, ⟨1, 0⟩⟩

/-- The place behind one more byte. -/
def placeAfter (p : BytePlace) (b : UInt8) : BytePlace :=
  if b == 0x0A then ⟨p.line + 1, 0⟩ else ⟨p.line, p.column + 1⟩

/-- The place that counts the next byte, if there is one. -/
def nextPlace (c : ByteCursor) : BytePlace :=
  match c.rest with
  | [] => c.place
  | b :: _ => placeAfter c.place b

/-- Behind some more bytes. -/
def skip (c : ByteCursor) : Nat → ByteCursor
  | 0 => c
  | n + 1 =>
    match c.rest with
    | [] => c
    | b :: rest => skip ⟨rest, placeAfter c.place b⟩ n

end ByteCursor

/-- A reader of bytes. -/
abbrev Reader (α : Type) := StateT ByteCursor (Except JsonError) α

namespace Reader

/-- Fails behind what was read. -/
def failBehind {α : Type} (fault : JsonFault) : Reader α := fun c =>
  .error ⟨fault, some c.place⟩

/-- Fails at the next byte. -/
def failAt {α : Type} (fault : JsonFault) : Reader α := fun c =>
  .error ⟨fault, some c.nextPlace⟩

/-- The next byte, which stays. -/
def peek : Reader (Option UInt8) := fun c =>
  .ok (c.rest.head?, c)

/-- Goes past some bytes. -/
def skip (n : Nat) : Reader Unit := fun c =>
  .ok ((), c.skip n)

/-- The next byte, which is read. -/
def next : Reader (Option UInt8) := do
  let b ← peek
  skip 1
  return b

/-- The bytes up to the first that fails a test. They stay. -/
def peekWhile (p : UInt8 → Bool) : Reader (List UInt8) := fun c =>
  .ok (c.rest.takeWhile p, c)

/-- The number of bytes that are left. -/
def remaining : Reader Nat := fun c =>
  .ok (c.rest.length, c)

/-- A blank between the parts of a value. -/
def isBlankByte (b : UInt8) : Bool :=
  b == 0x20 || b == 0x0A || b == 0x0D || b == 0x09

/-- Goes past blanks and shows the byte behind them. -/
def peekPastBlanks : Reader (Option UInt8) := do
  let blanks ← peekWhile isBlankByte
  skip blanks.length
  peek

/-- Goes past the given rest of a word. -/
def word : List Char → Reader Unit
  | [] => return
  | expected :: rest => do
    match ← next with
    | none => failBehind (.ends .value)
    | some b => if b.toNat = expected.toNat then word rest else failBehind .expectedIdent

/-- A reader of the whole of some bytes, which may be followed by blanks only. -/
def runWhole {α : Type} (r : Reader α) (bytes : List UInt8) : Except JsonError α :=
  let whole : Reader α := do
    let a ← r
    match ← peekPastBlanks with
    | none => return a
    | some _ => failAt .trailingCharacters
  (whole (.start bytes)).map (·.1)

end Reader

end Switchboard.Json
