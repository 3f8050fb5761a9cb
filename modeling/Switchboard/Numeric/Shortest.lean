import Switchboard.Numeric.Binary

/-! # The shortest decimal of a binary number

Every binary number owns an interval of reals that round to it. Among the decimals in that interval those with the
fewest digits are the shortest, and of these the one nearest to the number is its decimal text. -/

namespace Switchboard.Numeric

/-- A decimal number `digits · 10 ^ exponent`. -/
structure Decimal where
  digits : Nat
  exponent : Int
  deriving DecidableEq, Repr

/-- The reals that round to a binary number, as quotients over one denominator: the number itself, the ends of its
interval, and whether the ends belong to it. -/
structure RoundingInterval where
  value : Nat
  low : Nat
  high : Nat
  denominator : Nat
  closed : Bool

/-- The interval of a positive finite number of a format. Below a power of two the numbers are twice as dense. -/
def RoundingInterval.of (f : BinaryFormat) (significand unit : Nat) : RoundingInterval where
  value := 4 * significand * Nat.pow 2 unit
  low := (4 * significand - (if significand = Nat.pow 2 (f.precision - 1) ∧ unit ≠ 0 then 1 else 2)) * Nat.pow 2 unit
  high := (4 * significand + 2) * Nat.pow 2 unit
  denominator := 4 * Nat.pow 2 f.scale
  closed := significand % 2 = 0

namespace RoundingInterval

/-- Whether a quotient rounds to the number. -/
def contains (i : RoundingInterval) (num den : Nat) : Bool :=
  if i.closed then i.low * den ≤ num * i.denominator && num * i.denominator ≤ i.high * den
  else i.low * den < num * i.denominator && num * i.denominator < i.high * den

/-- The multiples of a decimal unit next to the number: which of them round to it, and of two the nearer. -/
def nearestMultiple? (i : RoundingInterval) (exponent : Int) : Option Decimal :=
  let up := Nat.pow 10 exponent.toNat
  let down := Nat.pow 10 (-exponent).toNat
  let floor := i.value * down / (i.denominator * up)
  let rest := i.value * down % (i.denominator * up)
  let fits (n : Nat) : Bool := n > 0 && i.contains (n * up) down
  match fits floor, fits (floor + 1) with
  | true, true =>
    let nearer :=
      if 2 * rest < i.denominator * up then floor
      else if i.denominator * up < 2 * rest then floor + 1
      else if floor % 2 = 0 then floor else floor + 1
    some ⟨nearer, exponent⟩
  | true, false => some ⟨floor, exponent⟩
  | false, true => some ⟨floor + 1, exponent⟩
  | false, false => none

/-- The first multiple that fits, among units from one exponent down to `count` exponents below it. -/
def firstMultiple? (i : RoundingInterval) (exponent : Int) : Nat → Option Decimal
  | 0 => i.nearestMultiple? exponent
  | n + 1 =>
    match i.nearestMultiple? exponent with
    | some d => some d
    | none => firstMultiple? i (exponent - 1) n

/-- The decimal exponent of the number's leading digit, or one more. -/
def leadingExponent (i : RoundingInterval) : Int :=
  if i.denominator ≤ i.value then (Nat.toDigits 10 (i.value / i.denominator)).length
  else 1 - ((Nat.toDigits 10 (i.denominator / i.value)).length : Int)

end RoundingInterval

/-- The digits behind the last that is no zero are left out. -/
def Decimal.normalize (d : Decimal) : Nat → Decimal
  | 0 => d
  | n + 1 => if d.digits % 10 = 0 ∧ d.digits ≠ 0 then normalize ⟨d.digits / 10, d.exponent + 1⟩ n else d

/-- The shortest decimal of a positive finite number of a format. Seventeen digits, and one for the estimate of the
leading digit, are enough for the formats here. -/
def shortestDecimal (f : BinaryFormat) (significand unit : Nat) : Decimal :=
  let i := RoundingInterval.of f significand unit
  let d := (i.firstMultiple? i.leadingExponent 20).getD ⟨0, 0⟩
  d.normalize 20

end Switchboard.Numeric
