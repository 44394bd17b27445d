import RpcGuard.Sha256

/-!
# RSA signatures

Verification of PKCS#1 v1.5 signatures over SHA-256. A modulus has 2048 to 8192 bits and an
exponent at most 33; both are odd and written without leading zeros. A signature is a number below
the modulus, written with as many bytes, whose power is exactly the encoding of the message.
-/

namespace RpcGuard.Rsa

-- Powers of naturals are those of the core library, whatever else is imported.
attribute [local instance (high)] instPowNat

/-- A public key: two numbers, most significant byte first. -/
structure PublicKey where
  modulus : Bytes
  exponent : Bytes
  deriving DecidableEq, Repr

/-- The bytes begin with one that is not zero. -/
def hasNoLeadingZero (bs : Bytes) : Bool := bs.head?.any (· != 0)

/-- The key is one that signatures are checked with. -/
def PublicKey.isSupported (k : PublicKey) : Bool :=
  let n := k.modulus.toNat
  let e := k.exponent.toNat
  hasNoLeadingZero k.modulus && n % 2 == 1 && 256 ≤ k.modulus.length && k.modulus.length ≤ 1024 &&
    hasNoLeadingZero k.exponent && e % 2 == 1 && k.exponent.length ≤ 5 && 3 ≤ e &&
    e < 2 ^ (33 : Nat)

/-- `b ^ e` modulo `m`, by squaring. -/
def powMod (b m e : Nat) : Nat :=
  if e = 0 then 1 % m
  else
    let r := powMod b m (e / 2)
    if e % 2 = 0 then r * r % m else r * r % m * b % m
termination_by e

/-- What precedes the hash in an encoded message: the DER of its algorithm, SHA-256. -/
def digestInfo : Bytes :=
  [0x30, 0x31, 0x30, 0x0d, 0x06, 0x09, 0x60, 0x86, 0x48, 0x01, 0x65, 0x03, 0x04, 0x02, 0x01, 0x05,
   0x00, 0x04, 0x20]

/-- The encoding of a message for a modulus of `size` bytes. -/
def encoded (message : Bytes) (size : Nat) : Bytes :=
  let hash := digestInfo ++ Sha256.hash message
  [0x00, 0x01] ++ List.replicate (size - 3 - hash.length) 0xFF ++ [0x00] ++ hash

/-- The signature is one of the message under the key. -/
def verify (k : PublicKey) (message signature : Bytes) : Bool :=
  let n := k.modulus.toNat
  let s := signature.toNat
  k.isSupported && signature.length == k.modulus.length && s != 0 && s < n &&
    powMod s n k.exponent.toNat == (encoded message k.modulus.length).toNat

theorem powMod_eq (b m e : Nat) : powMod b m e = b ^ e % m := by
  fun_induction powMod b m e with
  | case1 => simp
  | case2 e _ r h ih =>
    have he : e = e / 2 + e / 2 := by omega
    have hr : r = b ^ (e / 2) % m := ih
    rw [hr, ← Nat.mul_mod, ← Nat.pow_add, ← he]
  | case3 e _ r h ih =>
    have he : e = e / 2 + e / 2 + 1 := by omega
    have hr : r = b ^ (e / 2) % m := ih
    rw [hr, ← Nat.mul_mod, ← Nat.pow_add, Nat.mod_mul_mod, ← Nat.pow_succ, Nat.succ_eq_add_one,
      ← he]

end RpcGuard.Rsa
