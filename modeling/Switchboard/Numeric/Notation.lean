import Switchboard.Numeric.Binary

/-! # Written numbers

Numbers as people write them: digits of a base, and decimals with a point and an exponent. -/

namespace Switchboard.Numeric

/-- Whether a text is one digit or more, all below a base. -/
def areDigits (base : Nat) (cs : List Char) : Bool :=
  let value (c : Char) : Nat :=
    if c.isDigit then c.toNat - '0'.toNat
    else if 'a' ≤ c ∧ c ≤ 'z' then c.toNat - 'a'.toNat + 10
    else if 'A' ≤ c ∧ c ≤ 'Z' then c.toNat - 'A'.toNat + 10
    else base
  !cs.isEmpty && cs.all (value · < base)

/-- The value of some digits. -/
def digitsValue (base : Nat) (cs : List Char) : Nat :=
  let value (c : Char) : Nat :=
    if c.isDigit then c.toNat - '0'.toNat
    else if 'a' ≤ c ∧ c ≤ 'z' then c.toNat - 'a'.toNat + 10
    else c.toNat - 'A'.toNat + 10
  cs.foldl (fun n c => base * n + value c) 0

/-- The digits at the front of a text, and what follows them. -/
def splitDigits (cs : List Char) : List Char × List Char :=
  cs.span Char.isDigit

/-- Whether a text is an exponent, or empty. -/
def isExponent : List Char → Bool
  | [] => true
  | e :: rest =>
    (e == 'e' || e == 'E') && match rest with
      | '-' :: ds => areDigits 10 ds
      | '+' :: ds => areDigits 10 ds
      | ds => areDigits 10 ds

/-- Whether a text is a decimal number without a sign: digits around a point of which there is one at least, and
perhaps an exponent. -/
def isDecimal (cs : List Char) : Bool :=
  let (whole, rest) := splitDigits cs
  match rest with
  | '.' :: rest =>
    let (fraction, rest) := splitDigits rest
    !(whole.isEmpty && fraction.isEmpty) && isExponent rest
  | _ => !whole.isEmpty && isExponent rest

/-- The digits of a decimal number as one number, and the power of ten that it is to be multiplied by. -/
def decimalParts (cs : List Char) : Nat × Int :=
  let (whole, rest) := splitDigits cs
  let (fraction, rest) := match rest with
    | '.' :: rest => splitDigits rest
    | _ => ([], rest)
  let exponent : Int := match rest.drop 1 with
    | '-' :: ds => -digitsValue 10 ds
    | '+' :: ds => digitsValue 10 ds
    | ds => digitsValue 10 ds
  (digitsValue 10 (whole ++ fraction), exponent - fraction.length)

/-- The number of a format that a text without a sign stands for. -/
def unsignedOfText? (f : BinaryFormat) (negative : Bool) (cs : List Char) : Option Binary :=
  match String.ofList (cs.map Char.toLower) with
  | "inf" => some (.infinite negative)
  | "infinity" => some (.infinite negative)
  | "nan" => some .notANumber
  | _ =>
    if isDecimal cs then
      let (n, exponent) := decimalParts cs
      some (.ofDecimal f negative n exponent)
    else none

/-- The number of a format that a text stands for. -/
def Binary.ofText? (f : BinaryFormat) (s : String) : Option Binary :=
  match s.toList with
  | '-' :: cs => unsignedOfText? f true cs
  | '+' :: cs => unsignedOfText? f false cs
  | cs => unsignedOfText? f false cs

end Switchboard.Numeric
