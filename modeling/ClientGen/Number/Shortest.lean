import ClientGen.Number.Binary64

/-!
# The shortest decimal of a number

A finite number is written with the fewest decimal digits that still read back as the same
number, and among those with the digits nearest to it. `shortest` finds them by trying one
digit, two digits, and so on: for each count it looks at the two neighbours of the value
among the decimals with that many digits. Seventeen digits are always enough.

`Binary64.text` lays the digits out: positionally while the first digit stands for a power
of ten between `-4` and `15`, with an exponent otherwise.
-/

namespace ClientGen

/-- The decimal `digits * 10 ^ exponent`. -/
structure Decimal where
  /-- The digits, read as one natural number. -/
  digits : Nat
  /-- The power of ten by which the last digit counts. -/
  exponent : Int
  deriving DecidableEq, Repr

namespace Decimal

/-- Remove the zeros at the end of the digits, at most as many as the bound. -/
def dropZeros : Nat → Decimal → Decimal
  | 0, d => d
  | n + 1, d =>
    if d.digits ≠ 0 ∧ d.digits % 10 = 0 then dropZeros n ⟨d.digits / 10, d.exponent + 1⟩ else d

end Decimal

namespace Binary64

/-- The number of decimal digits of a natural number. -/
def digitCount (n : Nat) : Nat :=
  (Nat.toDigits 10 n).length

/-- The power of ten of the first digit of the ratio `num / den`. -/
def leadingPower (num den : Nat) : Int :=
  let guess : Int := (digitCount num : Int) - digitCount den
  let reaches : Bool :=
    if guess < 0 then den ≤ num * tenTo (-guess).toNat else den * tenTo guess.toNat ≤ num
  if reaches then guess else guess - 1

/-- The decimals with a given last place next to a number, tested against the interval of
the reals that round to it. The number is `4 * m` units, its interval goes from `low` to
`high` units (its ends belong to it when `m` is even), and a unit is the ratio
`unit.1 / unit.2`. -/
def nearestOnGrid? (m low high : Nat) (unit : Nat × Nat) (place : Int) : Option Nat :=
  let grid : Nat × Nat :=
    if place < 0 then (1, tenTo (-place).toNat) else (tenTo place.toNat, 1)
  let scale (units : Nat) : Nat := units * unit.1 * grid.2
  let point (d : Nat) : Nat := d * grid.1 * unit.2
  let inside (d : Nat) : Bool :=
    if m % 2 = 0 then scale low ≤ point d && point d ≤ scale high
    else scale low < point d && point d < scale high
  let below := scale (4 * m) / (grid.1 * unit.2)
  let gapBelow := scale (4 * m) - point below
  let gapAbove := point (below + 1) - scale (4 * m)
  match inside below, inside (below + 1) with
  | true, true =>
    if gapBelow < gapAbove || (gapBelow == gapAbove && below % 2 == 0) then some below
    else some (below + 1)
  | true, false => some below
  | false, true => some (below + 1)
  | false, false => none

/-- The decimal with the fewest digits that rounds to `m * 2 ^ q`, for `m ≠ 0`. -/
def shortest (m : Nat) (q : Int) : Decimal :=
  let low := if m = twoTo 52 ∧ q > minExponent then 4 * m - 1 else 4 * m - 2
  let unit : Nat × Nat :=
    if q - 2 < 0 then (1, twoTo (2 - q).toNat) else (twoTo (q - 2).toNat, 1)
  let lead := leadingPower (4 * m * unit.1) unit.2
  let hit := (List.range 17).findSome? fun (k : Nat) =>
    let place : Int := lead - k
    (nearestOnGrid? m low (4 * m + 2) unit place).map (Decimal.mk · place)
  (hit.getD ⟨m, q⟩).dropZeros 17

/-- How the decimals of numbers are laid out in texts. -/
structure Layout where
  /-- The least power of ten of the first digit that is written positionally. -/
  leastPower : Int
  /-- The first power of ten of the first digit that is not written positionally. -/
  powerBound : Int
  /-- The least number of digits of an exponent. -/
  exponentWidth : Nat

/-- Positional from `0.0001` up to sixteen digits before the point; exponents have a sign
and at least two digits. -/
def Layout.standard : Layout :=
  ⟨-4, 16, 2⟩

/-- Lay out digits whose first one stands for the power of ten `lead`. -/
def Layout.write (l : Layout) (ds : List Char) (lead : Int) : List Char :=
  if l.leastPower ≤ lead && lead < l.powerBound then
    if lead < 0 then
      '0' :: '.' :: List.replicate (-lead - 1).toNat '0' ++ ds
    else
      let whole := lead.toNat + 1
      if ds.length ≤ whole then ds ++ List.replicate (whole - ds.length) '0' ++ ['.', '0']
      else ds.take whole ++ '.' :: ds.drop whole
  else
    let body := match ds with
      | [] => []
      | [d] => [d]
      | d :: rest => d :: '.' :: rest
    let es := Nat.toDigits 10 lead.natAbs
    let sign := if lead < 0 then '-' else '+'
    body ++ 'e' :: sign :: List.replicate (l.exponentWidth - es.length) '0' ++ es

/-- **The text of a number.** -/
def text : Binary64 → String
  | .nan => "nan"
  | .infinite s => if s then "-inf" else "inf"
  | .finite s m q =>
    let body :=
      if m = 0 then ['0', '.', '0']
      else
        let d := shortest m q
        let ds := Nat.toDigits 10 d.digits
        Layout.standard.write ds (d.exponent + ds.length - 1)
    String.ofList (if s then '-' :: body else body)

end Binary64

end ClientGen
