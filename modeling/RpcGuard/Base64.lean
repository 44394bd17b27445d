import RpcGuard.Bytes

/-!
# Base64

Strict base64 over two alphabets. A text has at most one reading and a byte string exactly one
writing: unused bits of the last symbol are zero, and padding is either required in full (`decode
.standard`) or forbidden (`decode .urlSafe`). Nothing else, not even white space, is allowed.
-/

namespace RpcGuard.Base64

/-- The two alphabets, each with its rule for padding. -/
inductive Alphabet where
  /-- Symbols `+` and `/`; the text is padded with `=` to a multiple of four. -/
  | standard
  /-- Symbols `-` and `_`; no padding. -/
  | urlSafe
  deriving DecidableEq, Repr

namespace Alphabet

/-- The symbols with the values 62 and 63. -/
def last : Alphabet → Char × Char
  | standard => ('+', '/')
  | urlSafe => ('-', '_')

/-- The value of a symbol, below 64. -/
def value? (a : Alphabet) (c : Char) : Option Nat :=
  let n := c.toNat
  if 0x41 ≤ n ∧ n ≤ 0x5A then some (n - 0x41)
  else if 0x61 ≤ n ∧ n ≤ 0x7A then some (n - 0x61 + 26)
  else if 0x30 ≤ n ∧ n ≤ 0x39 then some (n - 0x30 + 52)
  else if c = a.last.1 then some 62
  else if c = a.last.2 then some 63
  else none

/-- The symbol of a value below 64. -/
def symbol (a : Alphabet) (v : Nat) : Char :=
  if v < 26 then Char.ofNat (v + 0x41)
  else if v < 52 then Char.ofNat (v - 26 + 0x61)
  else if v < 62 then Char.ofNat (v - 52 + 0x30)
  else if v = 62 then a.last.1
  else a.last.2

end Alphabet

/-- The bytes that six-bit values spell: three for each four values, and one or two for a rest of
two or three, whose unused low bits must be zero. A rest of one spells nothing. -/
def bytesOfSextets? : List Nat → Option Bytes
  | [] => some []
  | [_] => none
  | [a, b] => if b % 16 = 0 then some [UInt8.ofNat (a * 4 + b / 16)] else none
  | [a, b, c] =>
    if c % 4 = 0 then
      some [UInt8.ofNat (a * 4 + b / 16), UInt8.ofNat (b % 16 * 16 + c / 4)]
    else none
  | a :: b :: c :: d :: rest =>
    (bytesOfSextets? rest).map fun bs =>
      UInt8.ofNat (a * 4 + b / 16) :: UInt8.ofNat (b % 16 * 16 + c / 4) ::
        UInt8.ofNat (c % 4 * 64 + d) :: bs

/-- The text without its final padding, of at most two characters; `none` if the length is not a
multiple of four. -/
def unpad? (cs : List Char) : Option (List Char) :=
  if cs.length % 4 = 0 then
    some <| match cs.reverse with
      | '=' :: '=' :: r => r.reverse
      | '=' :: r => r.reverse
      | _ => cs
  else none

/-- The bytes that the text spells. -/
def decode? (a : Alphabet) (cs : List Char) : Option Bytes := do
  let body ← match a with
    | .standard => unpad? cs
    | .urlSafe => some cs
  bytesOfSextets? (← body.mapM a.value?)

/-- The six-bit values of a byte string, with zero bits to fill up the last. -/
def sextets : Bytes → List Nat
  | [] => []
  | [x] => [x.toNat / 4, x.toNat % 4 * 16]
  | [x, y] => [x.toNat / 4, x.toNat % 4 * 16 + y.toNat / 16, y.toNat % 16 * 4]
  | x :: y :: z :: rest =>
    x.toNat / 4 :: (x.toNat % 4 * 16 + y.toNat / 16) :: (y.toNat % 16 * 4 + z.toNat / 64) ::
      z.toNat % 64 :: sextets rest

/-- The padding that brings `n` symbols to a multiple of four. -/
def padding (n : Nat) : List Char := List.replicate ((4 - n % 4) % 4) '='

/-- The text that spells a byte string. -/
def encode (a : Alphabet) (bs : Bytes) : List Char :=
  let body := (sextets bs).map a.symbol
  match a with
  | .standard => body ++ padding body.length
  | .urlSafe => body

end RpcGuard.Base64
