/-!
# Powers of ten in double precision

Scale factors and decimal places are applied as floating-point powers of ten.
The power is built by repeated squaring, so its rounding errors are the same
wherever a scale factor or a number of places is applied.
-/

namespace InverterBridge

/-- The pair `(10^k, 10^(2^i))` after one more binary digit of the exponent. -/
def powerOfTenStep (exponent : Nat) (state : Float × Float) (bit : Nat) : Float × Float :=
  (if exponent.testBit bit then state.1 * state.2 else state.1, state.2 * state.2)

/-- `10^exponent` as the product of the squarings `10^(2^i)` over the binary
digits of the exponent, lowest digit first. -/
def powerOfTenNat (exponent : Nat) : Float :=
  ((List.range (exponent.log2 + 1)).foldl (powerOfTenStep exponent) (1.0, 10.0)).1

/-- `10^exponent`; a negative power is the reciprocal of the positive one. -/
def powerOfTen (exponent : Int) : Float :=
  match exponent with
  | .ofNat n => powerOfTenNat n
  | .negSucc n => 1.0 / powerOfTenNat (n + 1)

end InverterBridge
