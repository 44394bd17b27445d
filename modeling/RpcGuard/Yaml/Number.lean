import RpcGuard.Decimal
import RpcGuard.Number
import RpcGuard.Text.Digits

/-!
# Numbers in plain scalars

Integers in four bases, and floats. Decimal digits behind a leading zero are no number.
-/

namespace RpcGuard.Yaml

-- Powers of naturals are those of the core library, whatever else is imported.
attribute [local instance (high)] instPowNat

/-- The number that digits of a base spell; there must be one. -/
def digitsIn? (base : Nat) (cs : List Char) : Option Nat :=
  if cs.isEmpty then none else Digits.number? base cs

/-- The text without one sign. -/
def withoutSign : List Char → List Char
  | '-' :: cs => cs
  | '+' :: cs => cs
  | cs => cs

/-- Decimal digits behind a leading zero. -/
def hasLeadingZero (cs : List Char) : Bool :=
  match withoutSign cs with
  | '0' :: d :: ds => (d :: ds).all Char.isDigit
  | _ => false

/-- The magnitude of an integer below `bound`: after `0x`, `0o` or `0b` in base 16, 8 or 2, and in
base 10 if that does not read. -/
def magnitude? (bound : Nat) (cs : List Char) : Option Nat :=
  let marked : Option Nat := match cs with
    | '0' :: 'x' :: ds => digitsIn? 16 ds
    | '0' :: 'o' :: ds => digitsIn? 8 ds
    | '0' :: 'b' :: ds => digitsIn? 2 ds
    | _ => none
  marked.filter (· < bound) <|>
    if hasLeadingZero cs then none else (digitsIn? 10 cs).filter (· < bound)

/-- A natural number below `bound`, perhaps with a plus sign. -/
def natural? (bound : Nat) (cs : List Char) : Option Nat :=
  match cs with
  | '+' :: cs => magnitude? bound cs
  | cs => magnitude? bound cs

/-- The magnitude of a number with a minus sign, at most `bound`. -/
def negative? (bound : Nat) (cs : List Char) : Option Nat :=
  match cs with
  | '-' :: cs => magnitude? (bound + 1) cs
  | _ => none

/-- A decimal numeral with at least one digit before the exponent. -/
def decimal? (negative : Bool) (cs : List Char) : Option Decimal :=
  let (whole, r) := Decimal.spanDigits cs
  let (fraction, r) := match r with
    | '.' :: r => let (ds, r) := Decimal.spanDigits r; (some ds, r)
    | r => (none, r)
  if whole.isEmpty ∧ (fraction.getD []).isEmpty then none
  else
    match r with
    | [] => some ⟨negative, whole, fraction, none⟩
    | e :: r =>
      if e = 'e' ∨ e = 'E' then
        let (sign, r) := match r with
          | '-' :: r => (true, r)
          | '+' :: r => (false, r)
          | r => (false, r)
        match Decimal.spanDigits r with
        | ([], _) => none
        | (ds, []) => some ⟨negative, whole, fraction, some ⟨sign, ds⟩⟩
        | _ => none
      else none

/-- A float. Infinity and the value that is no number have words, and a numeral that is too large
is none. -/
def float? (cs : List Char) : Option Binary64 :=
  let word := String.ofList cs
  if word ∈ [".inf", ".Inf", ".INF", "+.inf", "+.Inf", "+.INF"] then some (.infinite false)
  else if word ∈ ["-.inf", "-.Inf", "-.INF"] then some (.infinite true)
  else if word ∈ [".nan", ".NaN", ".NAN"] then some .nan
  else
    match cs with
    | '-' :: cs => (decimal? true cs).bind Decimal.nearest?
    | '+' :: cs => (decimal? false cs).bind Decimal.nearest?
    | cs => (decimal? false cs).bind Decimal.nearest?

/-- An integer that a scalar spells. -/
inductive Integer where
  | number (n : Number)
  /-- An integer of more than 64 and at most 128 bits. -/
  | large
  deriving DecidableEq, Repr

/-- The integer that a text spells, of at most 128 bits. -/
def integer? (cs : List Char) : Option Integer :=
  match natural? (2 ^ (64 : Nat)) cs with
  | some n => some (.number (.natural (UInt64.ofNat n)))
  | none =>
    match negative? (2 ^ (63 : Nat)) cs with
    | some n => some (.number (if n = 0 then .natural 0 else .negative (-n)))
    | none =>
      if (natural? (2 ^ (128 : Nat)) cs).isSome ∨ (negative? (2 ^ (127 : Nat)) cs).isSome then
        some .large
      else none

end RpcGuard.Yaml
