import RpcGuard.Binary64

/-!
# Decimal numerals

A numeral is a sign, digits before and after the point, and an exponent. It has two readings: the
value closest to it (`Decimal.nearest`), and the quick one (`Decimal.quick?`) that keeps as many
leading digits as fit in 64 bits and then scales by a power of ten with one rounding or two.
-/

namespace RpcGuard

/-- A power of ten written behind a numeral. -/
structure Decimal.Exponent where
  negative : Bool
  digits : List Nat
  deriving DecidableEq, Repr

/-- A decimal numeral. `fraction` is `none` where no point is written. -/
structure Decimal where
  negative : Bool
  whole : List Nat
  fraction : Option (List Nat)
  exponent : Option Decimal.Exponent
  deriving DecidableEq, Repr

namespace Decimal

-- Powers of naturals are those of the core library, whatever else is imported.
attribute [local instance (high)] instPowNat

/-- The number that the digits spell. -/
def valueOf (digits : List Nat) : Nat := digits.foldl (fun n d => 10 * n + d) 0

/-- The digit that a character shows. -/
def digit? (c : Char) : Option Nat :=
  if '0' ≤ c ∧ c ≤ '9' then some (c.toNat - 0x30) else none

/-- The digits at the head of a text, and what follows them. -/
def spanDigits : List Char → List Nat × List Char
  | [] => ([], [])
  | c :: cs =>
    match digit? c with
    | some d => let (ds, r) := spanDigits cs; (d :: ds, r)
    | none => ([], c :: cs)

/-- The numeral is an integer: no point and no exponent. -/
def isWhole (x : Decimal) : Bool := x.fraction.isNone && x.exponent.isNone

/-- The signed power of ten that the exponent stands for. -/
def Exponent.value (e : Exponent) : Int :=
  if e.negative then -(valueOf e.digits : Int) else valueOf e.digits

/-! ## The closest value -/

/-- The value closest to `n * 10^k`. Past the range of the format the answer is known without
computing the power. -/
def nearestScaled? (n : Nat) (k : Int) : Option Binary64.Magnitude :=
  let size : Int := (Nat.toDigits 10 n).length
  if n = 0 ∨ size + k < -400 then some .zero
  else if size + k > 400 then none
  else if 0 ≤ k then Binary64.nearest? (n * 10 ^ k.toNat) 1
  else Binary64.nearest? n (10 ^ (-k).toNat)

/-- The value closest to the numeral, `none` where it is too large for any. -/
def nearest? (x : Decimal) : Option Binary64 :=
  let fraction := x.fraction.getD []
  let k : Int := (x.exponent.map Exponent.value).getD 0
  (nearestScaled? (valueOf (x.whole ++ fraction)) (k - fraction.length)).map
    (.ofMagnitude x.negative)

/-! ## The quick value -/

/-- Appends digits to `n` while the result fits in 64 bits; the number so far and the digits from
the first that did not fit. -/
def absorb (n : Nat) : List Nat → Nat × List Nat
  | [] => (n, [])
  | d :: ds => if 10 * n + d < 2 ^ (64 : Nat) then absorb (10 * n + d) ds else (n, d :: ds)

/-- The power of ten, rounded. -/
def powerOfTen (k : Nat) : Binary64.Magnitude :=
  (Binary64.nearest? (10 ^ k) 1).getD .zero

/-- `x * 10^k` for a rounded `x`: one multiplication or division by a rounded power of ten. Below
`10^-308` a division by `10^308` comes first, as often as something is left to divide. -/
def scale? : Nat → Binary64.Magnitude → Int → Option Binary64.Magnitude
  | 0, x, _ => some x
  | fuel + 1, x, k =>
    if k.natAbs ≤ 308 then
      if 0 ≤ k then x.mul? (powerOfTen k.toNat) else x.div? (powerOfTen (-k).toNat)
    else if x.significand = 0 then some x
    else if 0 ≤ k then none
    else do scale? fuel (← x.div? (powerOfTen 308)) (k + 308)

/-- The quick value of `n * 10^k`, for `n` below `2^64`. Four rounds of scaling suffice: two
divisions by `10^308` leave nothing of any such `n`. -/
def quickScaled? (n : Nat) (k : Int) : Option Binary64.Magnitude := do
  scale? 4 (← Binary64.nearest? n 1) k

/-- The quick value of the numeral, `none` where it is too large. An exponent of more than 31 bits
is not computed: it makes zero of a zero or if negative, and is too large otherwise. -/
def quick? (x : Decimal) : Option Binary64 := do
  let (n, left) := absorb 0 x.whole
  let fraction := x.fraction.getD []
  let (n, unread) := absorb n fraction
  let k : Int := (left.length : Int) - (fraction.length - unread.length : Nat)
  let magnitude ← match x.exponent with
    | none => quickScaled? n k
    | some e =>
      if valueOf e.digits < 2 ^ (31 : Nat) then quickScaled? n (k + e.value)
      else if n = 0 ∨ e.negative then some .zero
      else none
  return .ofMagnitude x.negative magnitude

end Decimal

end RpcGuard
