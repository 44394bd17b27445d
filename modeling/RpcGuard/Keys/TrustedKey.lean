import RpcGuard.Keys.Der
import RpcGuard.Keys.Jwk
import RpcGuard.Keys.Pem

/-!
# Trusted keys

Keys that signatures are checked with: an optional key id and RSA key material. Key material is
taken as it comes, and found wanting only when a signature is checked.
-/

namespace RpcGuard

/-- The material of a key. -/
inductive KeyMaterial where
  /-- Modulus and exponent. -/
  | components (key : Rsa.PublicKey)
  /-- The DER form of both. -/
  | der (bytes : Bytes)
  deriving DecidableEq, Repr

/-- The material as an RSA key. -/
def KeyMaterial.rsa? : KeyMaterial → Option Rsa.PublicKey
  | components key => some key
  | der bytes => Rsa.PublicKey.ofDer? bytes

/-- A key that signatures are checked with. -/
structure TrustedKey where
  kid : Option String
  material : KeyMaterial
  deriving DecidableEq, Repr

namespace TrustedKey

/-- The signature is one of the message under the key. -/
def verifies (k : TrustedKey) (message signature : Bytes) : Bool :=
  match k.material.rsa? with
  | some key => Rsa.verify key message signature
  | none => false

/-- The key that a published key stands for: an RSA key, for no algorithm but RS256, whose numbers
are base64. -/
def ofJwk? (k : Jwk) : Option TrustedKey :=
  if k.kty = "RSA" ∧ (k.alg = none ∨ k.alg = some "RS256") then do
    let n ← Base64.decode? .urlSafe (← k.n).toList
    let e ← Base64.decode? .urlSafe (← k.e).toList
    return ⟨k.kid, .components ⟨n, e⟩⟩
  else none

/-- The usable keys among published ones. -/
def usable (ks : List Jwk) : List TrustedKey := ks.filterMap ofJwk?

/-- The first key with a given id. A key without an id answers only to a token without one. -/
def find? (keys : List TrustedKey) (kid : Option String) : Option TrustedKey :=
  keys.find? fun k => k.kid = kid

/-- A PEM text that holds no key. -/
inductive PemFault where
  /-- No block, an unknown label, or contents that are no RSA key container. -/
  | format
  /-- A container without key bytes. -/
  | empty
  deriving DecidableEq, Repr

/-- The fault in words. -/
def PemFault.message : PemFault → String
  | format => "InvalidKeyFormat"
  | empty => "InvalidEcdsaKey"

/-- The RSA key of a PEM text. A block of an RSA key is the key; a container or a certificate must
name the key type RSA before any other, and its first string is the key. -/
def ofPem (text : String) : Except PemFault TrustedKey :=
  match Pem.read? text.toList with
  | none => .error .format
  | some block =>
    match Asn1.read? block.contents with
    | none => .error .format
    | some items =>
      if block.label = "RSA PUBLIC KEY" ∨ block.label = "RSA PRIVATE KEY" then
        .ok ⟨none, .der block.contents⟩
      else if block.label = "PUBLIC KEY" ∨ block.label = "PRIVATE KEY" ∨
          block.label = "CERTIFICATE" then
        if Asn1.keyType? items = some .rsa then
          match Asn1.firstString? items with
          | some bytes => .ok ⟨none, .der bytes⟩
          | none => .error .empty
        else .error .format
      else .error .format

end TrustedKey

end RpcGuard
