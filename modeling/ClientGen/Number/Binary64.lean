/-!
# Double-precision numbers

The numbers of the binary interchange format with 64 bits, as exact values: a finite
number is a sign, a mantissa below `2 ^ 53` and a power of two. All arithmetic is on
natural numbers and rounds to the nearest number, to the even mantissa in a tie, so that
each operation here is determined by the rational number it rounds.
-/

namespace ClientGen

/-- A double-precision number. The finite number `finite s m q` is `m * 2 ^ q` with sign
`s`; the functions of this module give the mantissa `m ≥ 2 ^ 52`, or the least power
`q = -1074`. -/
inductive Binary64
  /-- The number `mantissa * 2 ^ exponent` with a sign. -/
  | finite (negative : Bool) (mantissa : Nat) (exponent : Int) : Binary64
  /-- One of the two infinities. -/
  | infinite (negative : Bool) : Binary64
  /-- The result of an undefined operation. -/
  | nan : Binary64
  deriving DecidableEq, Repr

namespace Binary64

/-- A power of two. -/
def twoTo (n : Nat) : Nat :=
  Nat.pow 2 n

/-- A power of ten. -/
def tenTo (n : Nat) : Nat :=
  Nat.pow 10 n

/-- The least power of two of a finite number. -/
def minExponent : Int := -1074

/-- The greatest power of two of a finite number. -/
def maxExponent : Int := 971

/-- The zero of a sign. -/
def zero (negative : Bool) : Binary64 :=
  .finite negative 0 minExponent

/-- The ratio `num / den` divided by `2 ^ e`, as a numerator and a denominator. -/
def scaleDown (num den : Nat) (e : Int) : Nat × Nat :=
  if e < 0 then (num * twoTo (-e).toNat, den) else (num, den * twoTo e.toNat)

/-- Divide and round to the nearest natural number, to the even one in a tie. -/
def roundDiv (num den : Nat) : Nat :=
  let q := num / den
  let r := num % den
  if 2 * r > den || (2 * r == den && q % 2 == 1) then q + 1 else q

/-- **The number nearest to the ratio** `num / den` (with `den ≠ 0`). -/
def ofRatio (negative : Bool) (num den : Nat) : Binary64 :=
  if num = 0 then zero negative else
  let low : Int := max ((num.log2 : Int) - den.log2 - 53) minExponent
  let s := scaleDown num den low
  let e := if s.1 / s.2 < twoTo 53 then low else low + 1
  let t := scaleDown num den e
  let m := roundDiv t.1 t.2
  let r : Nat × Int := if m = twoTo 53 then (twoTo 52, e + 1) else (m, e)
  if r.2 > maxExponent then .infinite negative else .finite negative r.1 r.2

/-- The number nearest to `digits * 10 ^ exponent`. The two guards keep the powers of ten
small: they only take over where the result is out of range on either side. -/
def ofDecimal (negative : Bool) (digits : Nat) (exponent : Int) : Binary64 :=
  if digits = 0 then zero negative else
  let magnitude : Int := (Nat.toDigits 10 digits).length + exponent
  if magnitude > 310 then .infinite negative
  else if magnitude < -330 then zero negative
  else if exponent < 0 then ofRatio negative digits (tenTo (-exponent).toNat)
  else ofRatio negative (digits * tenTo exponent.toNat) 1

/-- The number nearest to an integer; `none` when it is out of range. -/
def ofInt? (n : Int) : Option Binary64 :=
  match ofRatio (n < 0) n.natAbs 1 with
  | .infinite _ => none
  | x => some x

/-- Whether a number is neither infinite nor undefined. -/
def isFinite : Binary64 → Bool
  | .finite .. => true
  | _ => false

/-- Whether a number is a zero of either sign. -/
def isZero : Binary64 → Bool
  | .finite _ 0 _ => true
  | _ => false

/-- Whether a number is below zero. -/
def isNegative : Binary64 → Bool
  | .finite s m _ => s && m != 0
  | .infinite s => s
  | .nan => false

/-- Whether a number is equal to an integer. -/
def eqInt : Binary64 → Int → Bool
  | .finite s m q, n =>
    let v : Int := if s then -m else m
    if q < 0 then v == n * twoTo (-q).toNat else v * twoTo q.toNat == n
  | _, _ => false

/-- Whether two numbers are equal as numbers: the zeros are equal, and an undefined number
is equal to nothing. -/
def eqNumber : Binary64 → Binary64 → Bool
  | .nan, _ => false
  | _, .nan => false
  | x, y => x == y || (x.isZero && y.isZero)

theorem eqNumber_comm (x y : Binary64) : x.eqNumber y = y.eqNumber x := by
  cases x <;> cases y <;> simp [eqNumber, Bool.and_comm, BEq.comm]

/-- The sum of two numbers. -/
def add : Binary64 → Binary64 → Binary64
  | .nan, _ => .nan
  | _, .nan => .nan
  | .infinite s, .infinite t => if s = t then .infinite s else .nan
  | .infinite s, _ => .infinite s
  | _, .infinite t => .infinite t
  | .finite s m p, .finite t n q =>
    let e := min p q
    let a : Int := (if s then -1 else 1) * (m * twoTo (p - e).toNat)
    let b : Int := (if t then -1 else 1) * (n * twoTo (q - e).toNat)
    let sum := a + b
    if sum = 0 then zero (s && t)
    else if e < 0 then ofRatio (sum < 0) sum.natAbs (twoTo (-e).toNat)
    else ofRatio (sum < 0) (sum.natAbs * twoTo e.toNat) 1

end Binary64

end ClientGen
