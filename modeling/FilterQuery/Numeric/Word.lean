/-!
# Words

The limits of integers of 64 bits.
-/

namespace FilterQuery

/-- Integers of 64 bits with a sign are below this number, and not below its negative. -/
def signedLimit : Nat := Nat.pow 2 63

/-- Integers of 64 bits without a sign are below this number. -/
def unsignedLimit : Nat := Nat.pow 2 64

/-- Whether an integer has 64 bits with a sign. -/
def fitsSigned (n : Int) : Bool := -(signedLimit : Int) ≤ n && n < signedLimit

end FilterQuery
