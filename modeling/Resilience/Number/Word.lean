/-!
# Numbers of fixed width

The largest number that so many bits hold.
-/

namespace Resilience.Number

/-- The largest number of 16 bits. -/
def word16Limit : Nat := 0xffff

/-- The largest number of 32 bits. -/
def word32Limit : Nat := 0xffffffff

/-- The largest number of 64 bits. -/
def wordLimit : Nat := 0xffffffffffffffff

/-- The largest number of 128 bits. -/
def word128Limit : Nat := 0xffffffffffffffffffffffffffffffff

end Resilience.Number
