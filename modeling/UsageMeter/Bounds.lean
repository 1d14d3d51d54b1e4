/-!
The bounds of the integers of fixed width that readings and settings are kept in,
and powers of the bases that numbers are written in.
-/
namespace UsageMeter

/-- The greatest natural of 16 bits. -/
def maxWord16 : Nat := 65535

/-- The greatest natural of 32 bits. -/
def maxWord32 : Nat := 4294967295

/-- The greatest natural of 64 bits. -/
def maxWord64 : Nat := 18446744073709551615

/-- The greatest integer of 64 bits, as a natural. -/
def maxInt64 : Nat := 9223372036854775807

/-- A power of two. -/
def twoTo (n : Nat) : Nat := Nat.pow 2 n

/-- A power of ten. -/
def tenTo (n : Nat) : Nat := Nat.pow 10 n

theorem twoTo_pos (n : Nat) : 0 < twoTo n := Nat.pow_pos (by decide)

theorem tenTo_pos (n : Nat) : 0 < tenTo n := Nat.pow_pos (by decide)

end UsageMeter
