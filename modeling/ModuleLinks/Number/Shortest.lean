/-
The shortest decimal text that reads back as the same number.

The reals that round to `m · 2 ^ q` form an interval, its ends included when
`m` is even. For one, two, … up to seventeen digits the value has two
neighbours on the decimal grid of that many digits; the first grid with a
neighbour inside the interval wins, and of two such neighbours the nearer one,
an exact tie going to the even digit. All quantities are scaled to naturals by
one common factor, so no division is inexact.
-/
import ModuleLinks.Number.Binary64

set_option autoImplicit false

namespace ModuleLinks

/-- **A decimal** `digits · 10 ^ exponent`. -/
structure Decimal where
  /-- The digits, read as one natural number. -/
  digits : Nat
  /-- The power of ten of the last digit. -/
  exponent : Int
deriving DecidableEq

namespace Decimal

/-- The common scale: a quarter of `2 ^ -1080`, times `10 ^ -400`. -/
def scale : Nat := 4 * Nat.pow 2 1080 * Nat.pow 10 400

/-- One unit in the last place of a number with binary exponent `q`, in quarters, scaled. -/
def unit (q : Int) : Nat := Nat.pow 2 (q + 1080).toNat * Nat.pow 10 400

/-- The step of the decimal grid whose last place is `10 ^ p`, scaled. -/
def step (p : Int) : Nat := 4 * Nat.pow 2 1080 * Nat.pow 10 (p + 400).toNat

/-- The reals that round to a positive number, scaled: the ends and whether they belong. -/
structure Interval where
  /-- The lower end. -/
  low : Nat
  /-- The upper end. -/
  high : Nat
  /-- Both ends round to the number too. -/
  closed : Bool

/-- The interval holds a scaled real. -/
def Interval.holds (i : Interval) (x : Nat) : Bool :=
  if i.closed then i.low ≤ x && x ≤ i.high else i.low < x && x < i.high

/-- The reals that round to the magnitude of `x`. Just above a power of two the neighbour below is
only half as far away. -/
def roundingInterval (x : Binary64) : Interval where
  low := (4 * x.significand - if x.fractionField = 0 ∧ 1 < x.exponentField then 1 else 2)
    * unit x.exponent
  high := (4 * x.significand + 2) * unit x.exponent
  closed := x.significand % 2 == 0

/-- The neighbour of `value` that a grid of the given step puts forward, if one of its two
neighbours lies in the interval. -/
def candidate? (interval : Interval) (value gridStep : Nat) : Option Nat :=
  let below := value / gridStep
  let above := below + 1
  match interval.holds (below * gridStep), interval.holds (above * gridStep) with
  | true, true =>
    let down := value - below * gridStep
    let up := above * gridStep - value
    some (if down < up ∨ down = up ∧ below % 2 = 0 then below else above)
  | true, false => some below
  | false, true => some above
  | false, false => none

/-- The decimal without the zeros at the end of its digits; `fuel` bounds their number. -/
def withoutZeros : Nat → Decimal → Decimal
  | 0, d => d
  | fuel + 1, d =>
    if d.digits ≠ 0 ∧ d.digits % 10 = 0 then
      withoutZeros fuel ⟨d.digits / 10, d.exponent + 1⟩
    else d

/-- **The shortest decimal** that rounds to the magnitude of a finite number other than zero. -/
def shortest (x : Binary64) : Decimal :=
  let value := 4 * x.significand * unit x.exponent
  let leading : Int := (Nat.toDigits 10 (value * Nat.pow 10 400 / scale)).length - 401
  let interval := roundingInterval x
  let found := (List.range 17).findSome? fun (more : Nat) =>
    let last := leading - more
    (candidate? interval value (step last)).map fun digits => Decimal.mk digits last
  withoutZeros 20 (found.getD ⟨0, 0⟩)

end Decimal

namespace Binary64

/-- The text of a positive decimal: plain from `0.0001` on and below `10 ^ 16`, with at least one
digit after the point, and in scientific form elsewhere, the exponent signed and of at least two
digits. -/
def positional (d : Decimal) : List Char :=
  let digits := Nat.toDigits 10 d.digits
  let leading := d.exponent + digits.length - 1
  if -4 ≤ leading ∧ leading < 16 then
    if 0 ≤ d.exponent then digits ++ List.replicate d.exponent.toNat '0' ++ ['.', '0']
    else if 0 ≤ leading then
      digits.take (leading.toNat + 1) ++ '.' :: digits.drop (leading.toNat + 1)
    else '0' :: '.' :: List.replicate (-leading - 1).toNat '0' ++ digits
  else
    let fraction := match digits.drop 1 with
      | [] => []
      | tail => '.' :: tail
    let power := Nat.toDigits 10 leading.natAbs
    digits.take 1 ++ fraction ++ 'e' :: (if leading < 0 then '-' else '+') ::
      (if power.length < 2 then '0' :: power else power)

/-- **The text of a number.** The three values that no decimal denotes have names, which the
caller chooses. -/
def render (nanName infinityName : List Char) (x : Binary64) : List Char :=
  if x.isNaN then nanName
  else
    let magnitude :=
      if x.isInfinite then infinityName
      else if x.isZero then ['0', '.', '0']
      else positional (Decimal.shortest x)
    if x.isNegative then '-' :: magnitude else magnitude

end Binary64

end ModuleLinks
