/-
Binary floating-point numbers of 64 bits, as their bits.

A finite number is `± m · 2 ^ q` with natural `m < 2 ^ 53` and `q ≥ -1074`.
Everything here is exact arithmetic on naturals: `Binary64.ofDecimal` rounds a
decimal `digits · 10 ^ exponent` to the nearest number, a tie to the even one,
and `Binary64.significand` and `Binary64.exponent` give `m` and `q` back.
-/

set_option autoImplicit false

namespace ModuleLinks

/-- **A floating-point number**, given by its 64 bits. -/
structure Binary64 where
  /-- Sign, exponent field and fraction field, from the top. -/
  bits : UInt64
deriving DecidableEq

namespace Binary64

/-- The sign bit. -/
def isNegative (x : Binary64) : Bool := x.bits.toNat / Nat.pow 2 63 == 1

/-- The eleven bits of the exponent field. -/
def exponentField (x : Binary64) : Nat := x.bits.toNat / Nat.pow 2 52 % Nat.pow 2 11

/-- The fifty-two bits of the fraction field. -/
def fractionField (x : Binary64) : Nat := x.bits.toNat % Nat.pow 2 52

/-- Not a number. -/
def isNaN (x : Binary64) : Bool := x.exponentField == 2047 && x.fractionField != 0

/-- Infinity of either sign. -/
def isInfinite (x : Binary64) : Bool := x.exponentField == 2047 && x.fractionField == 0

/-- Zero of either sign. -/
def isZero (x : Binary64) : Bool := x.exponentField == 0 && x.fractionField == 0

/-- The `m` of a finite number `± m · 2 ^ q`. -/
def significand (x : Binary64) : Nat :=
  if x.exponentField = 0 then x.fractionField else x.fractionField + Nat.pow 2 52

/-- The `q` of a finite number `± m · 2 ^ q`. -/
def exponent (x : Binary64) : Int := (max x.exponentField 1 : Nat) - 1075

/-- The number with these bits and this sign. -/
def ofMagnitude (negative : Bool) (magnitude : Nat) : Binary64 :=
  ⟨UInt64.ofNat (magnitude + if negative then Nat.pow 2 63 else 0)⟩

/-- The bits of infinity without its sign. -/
def infinityBits : Nat := 2047 * Nat.pow 2 52

/-- Infinity. -/
def infinity (negative : Bool) : Binary64 := ofMagnitude negative infinityBits

/-- The quiet value that is not a number. -/
def nan : Binary64 := ofMagnitude false (infinityBits + Nat.pow 2 51)

/-- The natural number nearest to `num / den`, a tie to the even one. -/
def roundedQuotient (num den : Nat) : Nat :=
  let whole := num / den
  let rest := num % den
  if 2 * rest > den ∨ 2 * rest = den ∧ whole % 2 = 1 then whole + 1 else whole

/-- `num / den` divided by `2 ^ q`, as a pair of naturals. -/
def scaled (num den : Nat) (q : Int) : Nat × Nat :=
  if 0 ≤ q then (num, den * Nat.pow 2 q.toNat) else (num * Nat.pow 2 (-q).toNat, den)

/-- The exponent `q ≥ -1074` at which the positive `num / den` has at most 53 bits before the
point, and exactly 53 if `q > -1074`. -/
def rulerExponent (num den : Nat) : Int :=
  let guess : Int := (Nat.log2 num : Int) - (Nat.log2 den : Int) - 53
  let (n, d) := scaled num den guess
  max (if n / d < Nat.pow 2 53 then guess else guess + 1) (-1074)

/-- The bits of the number nearest to the positive `num / den`. The significand counts in units
of `2 ^ q`, so a carry into the next power of two lands in the exponent field by itself. -/
def nearestBits (num den : Nat) : Nat :=
  let q := rulerExponent num den
  let (n, d) := scaled num den q
  min ((q + 1074).toNat * Nat.pow 2 52 + roundedQuotient n d) infinityBits

/-- **The number nearest to a decimal** `± digits · 10 ^ exponent`. Outside the range of decimal
exponents that a finite number can have the answer is infinity or zero at once. -/
def ofDecimal (negative : Bool) (digits : Nat) (exponent : Int) : Binary64 :=
  let magnitude : Int := (Nat.toDigits 10 digits).length + exponent
  if digits = 0 ∨ magnitude < -330 then ofMagnitude negative 0
  else if magnitude > 310 then infinity negative
  else if 0 ≤ exponent then
    ofMagnitude negative (nearestBits (digits * Nat.pow 10 exponent.toNat) 1)
  else ofMagnitude negative (nearestBits digits (Nat.pow 10 (-exponent).toNat))

end Binary64

end ModuleLinks
