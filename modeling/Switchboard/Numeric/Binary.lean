/-! # Binary floating point

Numbers with a bounded binary significand, in exact integer arithmetic. A finite number is
`significand · 2 ^ unit / 2 ^ scale` for the scale of its format, and it is kept in lowest units: the significand has
all its bits, or the unit is the smallest. Rounding goes to the nearest number, and from half way to the even
significand. -/

namespace Switchboard.Numeric

/-- A format: the bits of a significand, the binary scale of the smallest unit, and the largest unit. -/
structure BinaryFormat where
  precision : Nat
  scale : Nat
  maxUnit : Nat
  deriving DecidableEq, Repr

namespace BinaryFormat

/-- Numbers of eight bytes. -/
def double : BinaryFormat := ⟨53, 1074, 2045⟩

/-- Numbers of four bytes. -/
def single : BinaryFormat := ⟨24, 149, 253⟩

end BinaryFormat

/-- A number of some binary format. -/
inductive Binary where
  | finite (negative : Bool) (significand unit : Nat)
  | infinite (negative : Bool)
  | notANumber
  deriving DecidableEq, Repr, Inhabited

/-- A quotient rounded to the nearest natural number, from half way to the even one. -/
def roundHalfEven (num den : Nat) : Nat :=
  let q := num / den
  let r := num % den
  if 2 * r < den then q else if den < 2 * r then q + 1 else if q % 2 = 0 then q else q + 1

/-- The number of binary digits; zero has none. -/
def bitLength (n : Nat) : Nat :=
  if n = 0 then 0 else n.log2 + 1

namespace Binary

/-- Zero. -/
def zero (negative : Bool) : Binary := .finite negative 0 0

/-- The number of a format that is nearest to a quotient. -/
def ofRatio (f : BinaryFormat) (negative : Bool) (num den : Nat) : Binary :=
  let scaled := num * Nat.pow 2 f.scale
  let unit := bitLength (scaled / den) - f.precision
  let significand := roundHalfEven scaled (den * Nat.pow 2 unit)
  let (significand, unit) :=
    if significand = Nat.pow 2 f.precision then (Nat.pow 2 (f.precision - 1), unit + 1) else (significand, unit)
  if unit ≤ f.maxUnit then .finite negative significand unit else .infinite negative

/-- The number of a format that is nearest to an integer. -/
def ofInt (f : BinaryFormat) (n : Int) : Binary :=
  ofRatio f (n < 0) n.natAbs 1

/-- The number of a format that is nearest to `significand · 10 ^ exponent`. -/
def ofDecimal (f : BinaryFormat) (negative : Bool) (significand : Nat) (exponent : Int) : Binary :=
  if 0 ≤ exponent then ofRatio f negative (significand * Nat.pow 10 exponent.toNat) 1
  else ofRatio f negative significand (Nat.pow 10 (-exponent).toNat)

/-- Whether a number is finite. -/
def isFinite : Binary → Bool
  | finite _ _ _ => true
  | _ => false

/-- Whether a number is a zero, of either sign. -/
def isZero : Binary → Bool
  | finite _ 0 _ => true
  | _ => false

/-- The opposite number. -/
def negate : Binary → Binary
  | finite s m u => finite (!s) m u
  | infinite s => infinite (!s)
  | notANumber => notANumber

/-- The product of a number of a format with a positive finite one, rounded. -/
def mul (f : BinaryFormat) : Binary → Binary → Binary
  | finite s m u, finite t n v => ofRatio f (s != t) (m * Nat.pow 2 u * (n * Nat.pow 2 v)) (Nat.pow 2 f.scale * Nat.pow 2 f.scale)
  | x, _ => x

/-- The quotient of a number of a format by a positive finite one, rounded. -/
def div (f : BinaryFormat) : Binary → Binary → Binary
  | finite s m u, finite t n v => ofRatio f (s != t) (m * Nat.pow 2 u) (n * Nat.pow 2 v)
  | x, _ => x

/-- A number of one format as the nearest of another. -/
def convert (source target : BinaryFormat) : Binary → Binary
  | finite s m u => ofRatio target s (m * Nat.pow 2 u) (Nat.pow 2 source.scale)
  | x => x

end Binary

end Switchboard.Numeric
