import Switchboard.Numeric.Shortest

/-! # Decimal text

The text of a binary number as data formats write it: its shortest decimal, with a point or an exponent in every
case, so that no number is taken for an integer. -/

namespace Switchboard.Numeric

/-- How numbers are laid out: the decimal exponents of the leading digit from `low` up to below `high` are written by
position, all others with an exponent. -/
structure DecimalLayout where
  low : Int
  high : Int
  deriving DecidableEq, Repr

/-- Numbers from `10 ^ -5` up to below `10 ^ 16` are written by position. -/
def plainLayout : DecimalLayout := ⟨-5, 16⟩

/-- Some zeros. -/
def zeros (n : Nat) : List Char :=
  List.replicate n '0'

/-- Digits with the point behind the first `point` of them, and a zero where there is no digit next to it. -/
def positional (digits : List Char) (point : Int) : List Char :=
  if point ≤ 0 then ['0', '.'] ++ zeros (-point).toNat ++ digits
  else if point.toNat < digits.length then digits.take point.toNat ++ ['.'] ++ digits.drop point.toNat
  else digits ++ zeros (point.toNat - digits.length) ++ ['.', '0']

/-- Digits with the point behind the first, and the exponent of the first with its sign. -/
def scientific (digits : List Char) (exponent : Int) : List Char :=
  let fraction := match digits.drop 1 with
    | [] => []
    | rest => '.' :: rest
  digits.take 1 ++ fraction ++ ['e', if exponent < 0 then '-' else '+'] ++ Nat.toDigits 10 exponent.natAbs

/-- The text of a positive decimal. -/
def Decimal.render (layout : DecimalLayout) (d : Decimal) : List Char :=
  let digits := Nat.toDigits 10 d.digits
  let leading := d.exponent + digits.length - 1
  if layout.low ≤ leading ∧ leading < layout.high then positional digits (leading + 1)
  else scientific digits leading

/-- The text of a finite number; the other numbers have none. -/
def Binary.text? (f : BinaryFormat) (layout : DecimalLayout) : Binary → Option String
  | .finite negative significand unit =>
    let body := if significand = 0 then ['0', '.', '0'] else (shortestDecimal f significand unit).render layout
    some (String.ofList (if negative then '-' :: body else body))
  | _ => none

end Switchboard.Numeric
