/-!
# Binary64 numbers

The values of the 64-bit binary floating-point format, kept exactly: a finite value is a sign, a
significand below `2^53` and a power of two. `nearest?` rounds a positive ratio to the closest
value, a tie to the even significand; all reading and scaling of decimals goes through it.
-/

namespace RpcGuard

/-- A binary64 value. `finite s m e` is `m * 2^e`, negated if `s`. -/
inductive Binary64 where
  | finite (negative : Bool) (significand : Nat) (exponent : Int)
  | infinite (negative : Bool)
  | nan
  deriving DecidableEq, Repr

namespace Binary64

-- Powers of naturals are those of the core library, whatever else is imported.
attribute [local instance (high)] instPowNat

/-- The exponent of the values next to zero. -/
def minExponent : Int := -1074

/-- The exponent of the largest finite values. -/
def maxExponent : Int := 971

/-- A magnitude `significand * 2^exponent`. -/
structure Magnitude where
  significand : Nat
  exponent : Int
  deriving DecidableEq, Repr

/-- Zero. -/
def Magnitude.zero : Magnitude := ⟨0, minExponent⟩

/-- `n / d` rounded to the closest natural number, a tie to the even one. -/
def divNearest (n d : Nat) : Nat :=
  let q := n / d
  let r := n % d
  if 2 * r > d ∨ (2 * r = d ∧ q % 2 = 1) then q + 1 else q

/-- Numerator and denominator of `(n / d) / 2^e`. -/
def scaled (n d : Nat) (e : Int) : Nat × Nat :=
  if 0 ≤ e then (n, d * 2 ^ e.toNat) else (n * 2 ^ (-e).toNat, d)

/-- The exponent at which `n / d` has 53 significant bits, or the least exponent if that is
larger. -/
def exponentOf (n d : Nat) : Int :=
  let e := (n.log2 : Int) - d.log2 - 52
  let (a, b) := scaled n d e
  max minExponent (if a < 2 ^ (52 : Nat) * b then e - 1 else e)

/-- The value closest to `n / d`, a tie to the even significand; `none` past the largest finite
value. -/
def nearest? (n d : Nat) : Option Magnitude :=
  if n = 0 then some .zero
  else
    let e := exponentOf n d
    let (a, b) := scaled n d e
    let m := divNearest a b
    let (m, e) := if m = 2 ^ (53 : Nat) then (2 ^ (52 : Nat), e + 1) else (m, e)
    if e > maxExponent then none else some ⟨m, e⟩

/-- The magnitude as a ratio of natural numbers. -/
def Magnitude.ratio (x : Magnitude) : Nat × Nat :=
  if 0 ≤ x.exponent then (x.significand * 2 ^ x.exponent.toNat, 1)
  else (x.significand, 2 ^ (-x.exponent).toNat)

/-- The rounded product. -/
def Magnitude.mul? (x y : Magnitude) : Option Magnitude :=
  nearest? (x.ratio.1 * y.ratio.1) (x.ratio.2 * y.ratio.2)

/-- The rounded quotient. -/
def Magnitude.div? (x y : Magnitude) : Option Magnitude :=
  nearest? (x.ratio.1 * y.ratio.2) (x.ratio.2 * y.ratio.1)

/-- The value with a given sign and magnitude. -/
def ofMagnitude (negative : Bool) (x : Magnitude) : Binary64 :=
  .finite negative x.significand x.exponent

/-- The value is an ordinary number below zero. -/
def isBelowZero : Binary64 → Bool
  | finite s m _ => s && m != 0
  | infinite s => s
  | nan => false

/-- Numeric equality: the two zeros are equal, and so are all values that are no number. -/
def same : Binary64 → Binary64 → Bool
  | finite s m e, finite s' m' e' => (m == 0 && m' == 0) || (s == s' && m == m' && e == e')
  | infinite s, infinite s' => s == s'
  | nan, nan => true
  | _, _ => false

/-- The closest natural number to a value that is not below zero, a half going up; `none` for a
value below zero, and from `bound` on. -/
def toNatBelow? (bound : Nat) : Binary64 → Option Nat
  | finite s m e =>
    if s ∧ m ≠ 0 then none
    else if 0 ≤ e then
      let n := m * 2 ^ e.toNat
      if n < bound then some n else none
    else
      let d := 2 ^ (-e).toNat
      if m < bound * d then some ((2 * m + d) / (2 * d)) else none
  | _ => none

/-- The 64 bits of the interchange format: sign, eleven bits of exponent, 52 of fraction. -/
def bits : Binary64 → Nat
  | finite s m e =>
    (if s then 2 ^ (63 : Nat) else 0) +
      (if m < 2 ^ (52 : Nat) then m
        else (e - minExponent + 1).toNat * 2 ^ (52 : Nat) + (m - 2 ^ (52 : Nat)))
  | infinite s => (if s then 2 ^ (63 : Nat) else 0) + 0x7FF * 2 ^ (52 : Nat)
  | nan => 0x7FF8 * 2 ^ (48 : Nat)

end Binary64

end RpcGuard
