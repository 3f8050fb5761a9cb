import Switchboard.Json.Bytes

/-! # Numbers in JSON text

An integer that fits 64 bits is one; every other number is a double. The double is the significand, cut off where it
would pass 64 bits, scaled by a rounded power of ten: it can differ from the nearest double in its last bits. -/

namespace Switchboard.Json

open Numeric Reader

/-- Appends digits to a number while it stays below a bound, and counts the digits that fit. -/
def appendDigits (bound n : Nat) : List Nat → Nat × Nat
  | [] => (n, 0)
  | d :: ds =>
    if 10 * n + d < bound then
      let (m, fitting) := appendDigits bound (10 * n + d) ds
      (m, fitting + 1)
    else (n, 0)

/-- The first number that needs more than 64 bits. -/
def wordBound : Nat := Nat.pow 2 64

/-- The first exponent that is too large to be counted. -/
def exponentBound : Nat := Nat.pow 2 31

/-- The largest exponent of a power of ten that is a double. -/
def largestPower : Nat := 308

/-- The double nearest to a power of ten. -/
def powerOfTen (n : Nat) : Binary :=
  .ofDecimal .double false 1 n

/-- A double divided by a power of ten, by the largest power that is a double as long as that is not enough. -/
def divideByPower (x : Binary) (n : Nat) : Binary :=
  if n ≤ largestPower then x.div .double (powerOfTen n)
  else if x.isZero then x
  else divideByPower (x.div .double (powerOfTen largestPower)) (n - largestPower)
termination_by n
decreasing_by simp_all [largestPower]; omega

/-- A significand scaled by a power of ten, unless that is too large for a double. -/
def scaled? (significand : Nat) (exponent : Int) : Option Binary :=
  let x := Binary.ofInt .double significand
  if exponent < 0 then some (divideByPower x exponent.natAbs)
  else if exponent.natAbs ≤ largestPower then
    let y := x.mul .double (powerOfTen exponent.natAbs)
    if y.isFinite then some y else none
  else if x.isZero then some x else none

/-- A digit. -/
def isDigitByte (b : UInt8) : Bool :=
  0x30 ≤ b && b ≤ 0x39

/-- The next digits, which stay. -/
def peekDigits : Reader (List Nat) := do
  return (← peekWhile isDigitByte).map fun b => b.toNat - 0x30

/-- A double with its sign. -/
def signed (negative : Bool) (x : Binary) : Binary :=
  if negative then x.negate else x

/-- The double of a significand and an exponent. -/
def scaledNumber (negative : Bool) (significand : Nat) (exponent : Int) : Reader Json :=
  match scaled? significand exponent with
  | some x => return .float (signed negative x)
  | none => failBehind .numberOutOfRange

/-- The exponent of a number, from its letter on. -/
def exponentPart (negative : Bool) (significand : Nat) (exponent : Int) : Reader Json := do
  skip 1
  let sign ← peek
  let down := sign == some 0x2D
  if down || sign == some 0x2B then skip 1
  let digits ← peekDigits
  if digits.isEmpty then
    match ← next with
    | none => failBehind (.ends .value)
    | some _ => failBehind .invalidNumber
  else
    let (n, fitting) := appendDigits exponentBound 0 digits
    if fitting < digits.length then
      if significand ≠ 0 ∧ !down then
        skip (fitting + 1)
        failBehind .numberOutOfRange
      else
        skip digits.length
        return .float (.zero negative)
    else
      skip digits.length
      scaledNumber negative significand (if down then exponent - n else exponent + n)

/-- What can follow the fraction of a number. -/
def afterFraction (negative : Bool) (significand : Nat) (exponent : Int) : Reader Json := do
  match ← peek with
  | some 0x65 | some 0x45 => exponentPart negative significand exponent
  | _ => scaledNumber negative significand exponent

/-- The fraction of a number, from its point on. -/
def fractionPart (negative : Bool) (significand : Nat) (exponent : Int) : Reader Json := do
  skip 1
  let digits ← peekDigits
  if digits.isEmpty then
    match ← peek with
    | none => failAt (.ends .value)
    | some _ => failAt .invalidNumber
  else
    skip digits.length
    let (n, fitting) := appendDigits wordBound significand digits
    afterFraction negative n (exponent - fitting)

/-- The integer of some digits: zero with a minus sign, and a negative number below 64 bits, are doubles. -/
def integerNumber (negative : Bool) (n : Nat) : Json :=
  if negative then
    if 0 < n ∧ n ≤ Nat.pow 2 63 then .integer (-n) else .float (signed true (.ofInt .double n))
  else .integer n

/-- What can follow the integer part of a number, some digits of which may not have fitted. -/
def afterInteger (negative : Bool) (significand dropped : Nat) : Reader Json := do
  match ← peek with
  | some 0x2E => fractionPart negative significand dropped
  | some 0x65 | some 0x45 => exponentPart negative significand dropped
  | _ =>
    if dropped = 0 then return integerNumber negative significand
    else scaledNumber negative significand dropped

/-- A number behind its sign. A zero is the only digit of an integer part that starts with it. -/
def unsignedNumber (negative : Bool) : Reader Json := do
  match ← peekDigits with
  | [] =>
    match ← next with
    | none => failBehind (.ends .value)
    | some _ => failBehind .invalidNumber
  | 0 :: _ :: _ =>
    skip 1
    failAt .invalidNumber
  | digits =>
    skip digits.length
    let (n, fitting) := appendDigits wordBound 0 digits
    afterInteger negative n (digits.length - fitting)

/-- A number. -/
def number : Reader Json := do
  if (← peek) == some 0x2D then
    skip 1
    unsignedNumber true
  else unsignedNumber false

end Switchboard.Json
