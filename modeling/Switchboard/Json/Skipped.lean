import Switchboard.Json.Text

/-! # Skipped values

A value that nobody wants is only passed over. Its brackets nest without limit, its numbers have no size, and the
bytes of its strings need not be text. -/

namespace Switchboard.Json

open Reader

/-- Passes over the character behind a backslash. -/
def skipEscape : Reader Unit := do
  match ← next with
  | none => failBehind (.ends .string)
  | some 0x75 => discard hexEscape
  | some b =>
    if !([0x22, 0x5C, 0x2F, 0x62, 0x66, 0x6E, 0x72, 0x74] : List UInt8).contains b then failBehind .invalidEscape

/-- Passes over the rest of a string, in at most `n` runs. -/
def skipRuns : Nat → Reader Unit
  | 0 => failBehind (.ends .string)
  | n + 1 => do
    skip (← peekWhile (!endsRun ·)).length
    match ← peek with
    | none => failBehind (.ends .string)
    | some 0x22 => skip 1
    | some 0x5C =>
      skip 1
      skipEscape
      skipRuns n
    | some _ => failBehind .controlCharacter

/-- Passes over the rest of a string behind its first quote. -/
def skipString : Reader Unit := do
  skipRuns ((← remaining) + 1)

/-- Passes over the exponent of a number, from its letter on. -/
def skipExponent : Reader Unit := do
  skip 1
  let sign ← peek
  if sign == some 0x2B || sign == some 0x2D then skip 1
  let digits ← peekDigits
  if digits.isEmpty then
    skip 1
    failBehind .invalidNumber
  else skip digits.length

/-- Passes over what follows the integer part of a number. -/
def skipFraction : Reader Unit := do
  if (← peek) == some 0x2E then
    skip 1
    let digits ← peekDigits
    if digits.isEmpty then failAt .invalidNumber
    skip digits.length
  match ← peek with
  | some 0x65 | some 0x45 => skipExponent
  | _ => return

/-- Passes over a number behind its sign. -/
def skipNumber : Reader Unit := do
  match ← peekDigits with
  | [] =>
    skip 1
    failBehind .invalidNumber
  | 0 :: _ :: _ =>
    skip 1
    failAt .invalidNumber
  | digits =>
    skip digits.length
    skipFraction

/-- Passes over a key and its colon. -/
def skipKey : Reader Unit := do
  match ← peekPastBlanks with
  | some 0x22 =>
    skip 1
    skipString
    colon
  | some _ => failAt .expectedKey
  | none => failAt (.ends .object)

mutual

/-- Passes over a value, in at most `n` steps. -/
def skipValue : Nat → Reader Unit
  | 0 => return
  | n + 1 => do
    match ← peekPastBlanks with
    | none => failAt (.ends .value)
    | some 0x22 =>
      skip 1
      skipString
    | some 0x2D =>
      skip 1
      skipNumber
    | some 0x5B =>
      skip 1
      skipMembers false true n
    | some 0x7B =>
      skip 1
      skipMembers true true n
    | some b => if isDigitByte b then skipNumber else discard plainValue

/-- Passes over the members of an array or an object up to its end, in at most `n` steps. -/
def skipMembers (named first : Bool) : Nat → Reader Unit
  | 0 => return
  | n + 1 => do
    match ← peekPastBlanks with
    | none => failAt (.ends (if named then .object else .list))
    | some b =>
      if b == (if named then 0x7D else 0x5D) then skip 1
      else if first || b == 0x2C then
        if !first then skip 1
        if named then skipKey
        skipValue n
        skipMembers named false n
      else failAt (if named then .expectedObjectEnd else .expectedListEnd)

end

/-- Passes over a value. Every step takes a byte, or is followed by one that does. -/
def skipped : Reader Unit := do
  skipValue (2 * (← remaining) + 2)

end Switchboard.Json
