import RpcGuard.Text.Digits
import RpcGuard.Text.Utf8

/-!
# Percent-encoding

Bytes outside a chosen set are written as `%` and two hexadecimal digits in upper case. Decoding
takes digits of either case, and leaves a `%` alone that no two digits follow.
-/

namespace RpcGuard.Percent

/-- One byte, escaped. -/
def escaped (b : UInt8) : List Char :=
  ['%', Digits.ofValue (b.toNat / 16), Digits.ofValue (b.toNat % 16)]

/-- One character, escaped byte by byte unless it is ASCII and none of the `escape` characters.
Controls are always escaped. -/
def encodeChar (escape : List Char) (c : Char) : List Char :=
  if c.toNat < 0x20 ∨ 0x7F ≤ c.toNat ∨ c ∈ escape then (Utf8.encodeChar c).flatMap escaped
  else [c]

/-- A text in which all controls, all characters outside ASCII and the `escape` characters are
escaped. -/
def encode (escape : List Char) (cs : List Char) : List Char := cs.flatMap (encodeChar escape)

/-- The bytes that a text with escapes spells. -/
def decode : Bytes → Bytes
  | b :: h :: l :: r =>
    if b = 0x25 then
      match Digits.value? h.toNat, Digits.value? l.toNat with
      | some x, some y => UInt8.ofNat (x * 16 + y) :: decode r
      | _, _ => b :: decode (h :: l :: r)
    else b :: decode (h :: l :: r)
  | bs => bs

end RpcGuard.Percent
