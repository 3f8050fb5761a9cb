/-! # Sets of code points as ranges

A property of characters is given as a table of ranges in increasing order, both ends included. `inRanges` looks
a code point up by halving the table. -/

namespace Switchboard.Text

/-- Looks `code` up between the positions `low` and `high` of a table in increasing order. -/
def inRangesBetween (table : Array (Nat × Nat)) (code low high : Nat) : Bool :=
  if _h : low < high then
    let middle := (low + high) / 2
    match table[middle]? with
    | none => false
    | some (first, last) =>
      if code < first then inRangesBetween table code low middle
      else if last < code then inRangesBetween table code (middle + 1) high
      else true
  else false
termination_by high - low

/-- Whether a table of ranges in increasing order has a code point. -/
def inRanges (table : Array (Nat × Nat)) (code : Nat) : Bool :=
  inRangesBetween table code 0 table.size

end Switchboard.Text
