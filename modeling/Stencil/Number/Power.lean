/-!
Powers of the two bases that numbers are held and written in.
-/

namespace Stencil.Number

/-- A power of two. -/
def twoTo (exponent : Nat) : Nat :=
  Nat.pow 2 exponent

/-- A power of ten. -/
def tenTo (exponent : Nat) : Nat :=
  Nat.pow 10 exponent

end Stencil.Number
