/-! # Bounded integers

The integers of a kind lie between two bounds, with zero among them. -/

namespace Switchboard.Numeric

/-- A kind of bounded integers, with the name by which data calls it. -/
structure IntegerKind where
  name : String
  low : Int
  high : Int
  low_le_zero : low ≤ 0
  zero_le_high : 0 ≤ high

namespace IntegerKind

/-- The naturals of some bits. -/
def naturals (name : String) (bits : Nat) : IntegerKind where
  name := name
  low := 0
  high := Int.ofNat (Nat.pow 2 bits - 1)
  low_le_zero := Int.le_refl 0
  zero_le_high := Int.natCast_nonneg _

/-- The integers of some bits, one of which is for the sign. -/
def integers (name : String) (bits : Nat) : IntegerKind where
  name := name
  low := -Int.ofNat (Nat.pow 2 (bits - 1))
  high := Int.ofNat (Nat.pow 2 (bits - 1) - 1)
  low_le_zero := Int.neg_nonpos_of_nonneg (Int.natCast_nonneg _)
  zero_le_high := Int.natCast_nonneg _

/-- The naturals of eight bits. -/
def natural8 : IntegerKind := naturals "u8" 8
/-- The naturals of sixteen bits. -/
def natural16 : IntegerKind := naturals "u16" 16
/-- The naturals of thirty-two bits. -/
def natural32 : IntegerKind := naturals "u32" 32
/-- The naturals of sixty-four bits. -/
def natural64 : IntegerKind := naturals "u64" 64
/-- The naturals of a hundred and twenty-eight bits. -/
def natural128 : IntegerKind := naturals "u128" 128
/-- The naturals that count the bytes of a memory. -/
def size : IntegerKind := naturals "usize" 64
/-- The integers of eight bits. -/
def signed8 : IntegerKind := integers "i8" 8
/-- The integers of sixteen bits. -/
def signed16 : IntegerKind := integers "i16" 16
/-- The integers of thirty-two bits. -/
def signed32 : IntegerKind := integers "i32" 32
/-- The integers of sixty-four bits. -/
def signed64 : IntegerKind := integers "i64" 64
/-- The integers of a hundred and twenty-eight bits. -/
def signed128 : IntegerKind := integers "i128" 128
/-- The integers that measure the distance between bytes of a memory. -/
def signedSize : IntegerKind := integers "isize" 64

/-- Whether an integer is of a kind. -/
def contains (k : IntegerKind) (n : Int) : Bool :=
  k.low ≤ n && n ≤ k.high

/-- The number of integers of a kind. -/
def count (k : IntegerKind) : Int :=
  k.high - k.low + 1

theorem count_pos (k : IntegerKind) : 0 < k.count := by
  have := k.low_le_zero
  have := k.zero_le_high
  unfold count
  omega

end IntegerKind

/-- An integer of a kind. -/
structure Bounded (k : IntegerKind) where
  value : Int
  low_le : k.low ≤ value
  le_high : value ≤ k.high
  deriving DecidableEq, Repr

namespace Bounded

variable {k : IntegerKind}

/-- Zero. -/
def zero : Bounded k := ⟨0, k.low_le_zero, k.zero_le_high⟩

/-- The integer of a kind that an integer is, if it is one. -/
def ofInt? (n : Int) : Option (Bounded k) :=
  if h : k.low ≤ n ∧ n ≤ k.high then some ⟨n, h.1, h.2⟩ else none

/-- The integer of a kind that differs from an integer by a multiple of their number. -/
def wrap (n : Int) : Bounded k where
  value := k.low + (n - k.low) % k.count
  low_le := by
    have := Int.emod_nonneg (n - k.low) (Int.ne_of_gt k.count_pos)
    omega
  le_high := by
    have := Int.emod_lt_of_pos (n - k.low) k.count_pos
    unfold IntegerKind.count at this
    unfold IntegerKind.count
    omega

theorem ofInt?_value (n : Bounded k) : ofInt? n.value = some n := by
  simp [ofInt?, n.low_le, n.le_high]

end Bounded

end Switchboard.Numeric
