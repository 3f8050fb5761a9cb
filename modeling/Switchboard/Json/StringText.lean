import Switchboard.Json.Bytes

/-! # Strings in JSON text

A string is read in runs of plain bytes with escapes between them. A run has to be text by itself. -/

namespace Switchboard.Json

open Reader

/-- A byte that ends a run of plain bytes: a quote, a backslash or a control. -/
def endsRun (b : UInt8) : Bool :=
  b == 0x22 || b == 0x5C || b < 0x20

/-- Fails at the end of the text if nothing is left of it. -/
def peekInString : Reader UInt8 := do
  match ← peek with
  | some b => return b
  | none => failBehind (.ends .string)

/-- The value of a hexadecimal digit. -/
def hexValue? (b : UInt8) : Option Nat :=
  if 0x30 ≤ b && b ≤ 0x39 then some (b.toNat - 0x30)
  else if 0x61 ≤ b && b ≤ 0x66 then some (b.toNat - 0x57)
  else if 0x41 ≤ b && b ≤ 0x46 then some (b.toNat - 0x37)
  else none

/-- The number of some hexadecimal digits. -/
def hexNumber? (bytes : List UInt8) : Option Nat :=
  bytes.foldl (fun n b => do return 16 * (← n) + (← hexValue? b)) (some 0)

/-- The four hexadecimal digits of an escape. -/
def hexEscape : Reader Nat := do
  let left ← remaining
  if left < 4 then
    skip left
    failBehind (.ends .string)
  else
    let bytes ← fun c => .ok (c.rest.take 4, c)
    skip 4
    match hexNumber? bytes with
    | some n => return n
    | none => failBehind .invalidEscape

/-- Whether a unit of sixteen bits is the first of a pair. -/
def isLeadingUnit (n : Nat) : Bool :=
  0xD800 ≤ n && n ≤ 0xDBFF

/-- Whether a unit of sixteen bits is the second of a pair. -/
def isTrailingUnit (n : Nat) : Bool :=
  0xDC00 ≤ n && n ≤ 0xDFFF

/-- The next byte of a second escape has to be the given one. -/
def pairByte (expected : UInt8) : Reader Unit := do
  let b ← peekInString
  skip 1
  if b != expected then failBehind .endOfHexEscape

/-- The character of an escape by number, which may take a second escape. -/
def unicodeEscape : Reader Char := do
  let n ← hexEscape
  if isTrailingUnit n then failBehind .loneSurrogate
  else if isLeadingUnit n then
    pairByte 0x5C
    pairByte 0x75
    let m ← hexEscape
    if isTrailingUnit m then return Char.ofNat ((n - 0xD800) * 0x400 + (m - 0xDC00) + 0x10000)
    else failBehind .loneSurrogate
  else return Char.ofNat n

/-- The character behind a backslash. -/
def escape : Reader Char := do
  match ← next with
  | none => failBehind (.ends .string)
  | some 0x22 => return '"'
  | some 0x5C => return '\\'
  | some 0x2F => return '/'
  | some 0x62 => return '\x08'
  | some 0x66 => return '\x0c'
  | some 0x6E => return '\n'
  | some 0x72 => return '\r'
  | some 0x74 => return '\t'
  | some 0x75 => unicodeEscape
  | some _ => failBehind .invalidEscape

/-- A run of plain bytes as text. Bytes that are no text are a fault at the first of them. -/
def plainRun (bytes : List UInt8) : Reader (List Char) :=
  match Text.decodeUtf8 bytes with
  | .ok s => do
    skip bytes.length
    return s.toList
  | .error before => do
    skip (before + 1)
    failBehind .invalidCodePoint

/-- The rest of a string behind its first quote, in at most `n` runs. -/
def stringRuns : Nat → Reader (List Char)
  | 0 => failBehind (.ends .string)
  | n + 1 => do
    let bytes ← peekWhile (!endsRun ·)
    match ← fun c => .ok (c.rest[bytes.length]?, c) with
    | none =>
      skip bytes.length
      failBehind (.ends .string)
    | some 0x22 =>
      let run ← plainRun bytes
      skip 1
      return run
    | some 0x5C =>
      let run ← plainRun bytes
      skip 1
      let c ← escape
      return run ++ c :: (← stringRuns n)
    | some _ =>
      skip (bytes.length + 1)
      failBehind .controlCharacter

/-- The rest of a string behind its first quote. Every run but the last takes two bytes or more. -/
def stringBody : Reader String := do
  return String.ofList (← stringRuns ((← remaining) + 1))

end Switchboard.Json
