import Switchboard.Json.NumberText
import Switchboard.Json.StringText

/-! # JSON text

The values of JSON text. Brackets nest up to a fixed depth. -/

namespace Switchboard.Json

open Reader

/-- How deep brackets can nest. -/
def deepest : Nat := 127

/-- Goes to the next element of a list, if there is one. The end of the list stays. -/
def nextElement (first : Bool) : Reader Bool := do
  match ← peekPastBlanks with
  | none => failAt (.ends .list)
  | some 0x5D => return false
  | some b =>
    if first then return true
    else if b == 0x2C then
      skip 1
      match ← peekPastBlanks with
      | none => failAt (.ends .value)
      | some 0x5D => failAt .trailingComma
      | some _ => return true
    else failAt .expectedListEnd

/-- Goes to the next key of an object, if there is one. The end of the object stays. -/
def nextKey (first : Bool) : Reader Bool := do
  match ← peekPastBlanks with
  | none => failAt (.ends .object)
  | some 0x7D => return false
  | some b =>
    if first then
      if b == 0x22 then return true else failAt .expectedKey
    else if b == 0x2C then
      skip 1
      match ← peekPastBlanks with
      | none => failAt (.ends .value)
      | some 0x22 => return true
      | some 0x7D => failAt .trailingComma
      | some _ => failAt .expectedKey
    else failAt .expectedObjectEnd

/-- The colon between a key and its value. -/
def colon : Reader Unit := do
  match ← peekPastBlanks with
  | some 0x3A => skip 1
  | some _ => failAt .expectedColon
  | none => failAt (.ends .object)

/-- A key, from its quote on. -/
def key : Reader String := do
  skip 1
  stringBody

/-- At most `n` elements of a list. -/
def elements {α : Type} (element : Reader α) (first : Bool) : Nat → Reader (List α)
  | 0 => return []
  | n + 1 => do
    if ← nextElement first then
      let a ← element
      return a :: (← elements element false n)
    else return []

/-- At most `n` fields of an object, each read by its name. -/
def fields {α : Type} (field : String → Reader α) (first : Bool) : Nat → Reader (List (String × α))
  | 0 => return []
  | n + 1 => do
    if ← nextKey first then
      let name ← key
      colon
      let a ← field name
      return (name, a) :: (← fields field false n)
    else return []

/-- A value that has no parts. Anything else is no value. -/
def plainValue : Reader Json := do
  match ← peek with
  | some 0x6E =>
    skip 1
    word ['u', 'l', 'l']
    return .null
  | some 0x74 =>
    skip 1
    word ['r', 'u', 'e']
    return .bool true
  | some 0x66 =>
    skip 1
    word ['a', 'l', 's', 'e']
    return .bool false
  | some 0x22 =>
    skip 1
    return .string (← stringBody)
  | some b => if b == 0x2D || isDigitByte b then number else failAt .expectedValue
  | none => failAt (.ends .value)

/-- A value whose brackets nest up to a given depth. -/
def valueWithin : Nat → Reader Json
  | 0 => do
    let b ← peekPastBlanks
    if b == some 0x5B || b == some 0x7B then failAt .tooDeep else plainValue
  | depth + 1 => do
    match ← peekPastBlanks with
    | some 0x5B =>
      skip 1
      let vs ← elements (valueWithin depth) true ((← remaining) + 1)
      skip 1
      return .array vs
    | some 0x7B =>
      skip 1
      let fs ← fields (fun _ => valueWithin depth) true ((← remaining) + 1)
      skip 1
      return .ofFields fs
    | _ => plainValue

/-- A value. -/
def value : Reader Json :=
  valueWithin deepest

/-- The value that some bytes are the text of. -/
def parse (bytes : List UInt8) : Except JsonError Json :=
  runWhole value bytes

end Switchboard.Json
