/-!
# Shortest decimals

A binary floating-point number stands for every real that rounds to it: an
interval around its value, whose ends belong to it exactly when its mantissa
is even. The decimal written for it is the one with the fewest digits in that
interval, and of two such the nearer.

Decimals with few digits lie on coarse grids of multiples of a power of ten.
The search goes from coarse to fine and stops at the first grid with a point
in the interval. Such a point, if there is one, is one of the two neighbours
of the value itself on that grid, so only those are tested, in exact integer
arithmetic.
-/

namespace CommandLink.Decimal

/-- The positive number `mantissa * 2 ^ exponent`, and whether it is the
smallest of its binade, so that the gap below it is half the gap above. -/
structure Binary where
  mantissa : Nat
  exponent : Int
  lowest : Bool
  deriving DecidableEq, Repr

/-- The magnitude of a finite double from its bits. -/
def Binary.ofBits (bits : UInt64) : Binary :=
  let stored := (bits &&& 0xFFFFFFFFFFFFF).toNat
  let biased := ((bits >>> 52) &&& 0x7FF).toNat
  -- A subnormal number has no leading bit beside the stored ones.
  if biased = 0 then
    ⟨stored, -1074, false⟩
  else
    ⟨stored + 0x10000000000000, (biased : Int) - 1075, stored == 0 && biased > 1⟩

/-- The number `digits * 10 ^ exponent`. -/
structure Scientific where
  digits : Nat
  exponent : Int
  deriving DecidableEq, Repr

/-- `numerator / denominator` scaled by `base ^ exponent`, as a fraction. -/
private def scaled (numerator denominator base : Nat) (exponent : Int) : Nat × Nat :=
  if exponent < 0 then
    (numerator, denominator * base.pow exponent.natAbs)
  else
    (numerator * base.pow exponent.natAbs, denominator)

/-- Whether `digits * 10 ^ exponent` rounds to `x`. Four times the value is
compared with four times the ends of the interval. -/
def Binary.admits (x : Binary) (digits : Nat) (exponent : Int) : Bool :=
  let (decimal, scale) := scaled 4 1 10 exponent
  let (unit, divisor) := scaled 1 1 2 x.exponent
  let point := digits * decimal * divisor
  -- The gap below the lowest number of a binade is half as wide.
  let low := (4 * x.mantissa - (if x.lowest then 1 else 2)) * unit * scale
  let high := (4 * x.mantissa + 2) * unit * scale
  if x.mantissa % 2 = 0 then
    low ≤ point && point ≤ high
  else
    low < point && point < high

/-- The neighbour of `x` on the grid of multiples of `10 ^ exponent` that
rounds to `x`; of two the nearer, and the even one when they are equally near. -/
def Binary.onGrid? (x : Binary) (exponent : Int) : Option Scientific :=
  let (unit, divisor) := scaled x.mantissa 1 2 x.exponent
  let (grid, scale) := scaled 1 1 10 exponent
  let numerator := unit * scale
  let denominator := divisor * grid
  let below := numerator / denominator
  let rest := 2 * (numerator % denominator)
  match x.admits below exponent, x.admits (below + 1) exponent with
  | false, false => none
  | true, false => some ⟨below, exponent⟩
  | false, true => some ⟨below + 1, exponent⟩
  | true, true =>
    if rest < denominator || (rest = denominator && below % 2 = 0) then
      some ⟨below, exponent⟩
    else
      some ⟨below + 1, exponent⟩

/-- An exponent of ten whose power is not below `x`. -/
private def Binary.coarsest (x : Binary) : Int :=
  (((x.mantissa.log2 + 1 : Nat) : Int) + x.exponent) * 30103 / 100000 + 1

private def search (x : Binary) : Nat → Int → Scientific
  | 0, exponent => ⟨0, exponent⟩
  | rounds + 1, exponent =>
    match x.onGrid? exponent with
    | some found => found
    | none => search x rounds (exponent - 1)

/-- The shortest decimal that reads back as `x`. Seventeen digits always
suffice, so twenty grids are more than enough. -/
def shortest (x : Binary) : Scientific :=
  if x.mantissa = 0 then ⟨0, 0⟩ else search x 20 x.coarsest

end CommandLink.Decimal
