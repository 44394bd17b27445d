import RpcGuard.Jwt.Token
import RpcGuard.Keys.Source

/-!
# Verification of tokens

A token is verified in a fixed order: its form, the key that its header asks for, the signature, the
issuer, and the dates. The first check that fails decides the rejection.
-/

namespace RpcGuard

/-- A token that passed all checks. -/
structure VerifiedToken where
  header : Jwt.Header
  claims : Claims
  deriving Repr

namespace VerifiedToken

/-- The token in words. -/
def toString (t : VerifiedToken) : String :=
  "VerifiedToken\x7bkid=" ++ Text.quoted? t.header.kid ++ ", sub=" ++
    Text.quoted? t.claims.subject ++ ", iss=" ++ Text.quoted? t.claims.issuer ++ ", exp=" ++
    Text.optional (fun n : UInt64 => n.toNat.repr) t.claims.expiry ++ "\x7d"

end VerifiedToken

/-- What tokens are verified against. -/
structure Verifier where
  issuer : Option String
  /-- How far the clock may be off, in seconds. -/
  leeway : UInt64
  keys : KeySource
  deriving DecidableEq, Repr

namespace Verifier

-- Powers of naturals are those of the core library, whatever else is imported.
attribute [local instance (high)] instPowNat

/-- The sum, or the largest value if that is less. -/
def saturatingAdd (a b : UInt64) : UInt64 :=
  if a.toNat + b.toNat < 2 ^ (64 : Nat) then a + b else UInt64.ofNat (2 ^ (64 : Nat) - 1)

/-- Checks the signature, with the only algorithm that is allowed. -/
def checkSignature (key : TrustedKey) (t : Jwt.Token) : Except Rejection Unit :=
  if t.header.algorithm ≠ .rs256 then
    .error (.signatureInvalid (.algorithm t.header.algorithm))
  else
    match Base64.decode? .urlSafe t.signature with
    | none => .error (.malformedToken .base64)
    | some signature =>
      if !key.verifies t.signedPart signature then .error (.signatureInvalid .mismatch)
      else if t.repeatsAudience then .error (.malformedToken .json)
      else .ok ()

/-- Checks the issuer. Without an expected issuer no token passes. -/
def checkIssuer (v : Verifier) (c : Claims) : Except Rejection Unit :=
  if v.issuer ≠ none ∧ c.issuer = v.issuer then .ok ()
  else .error (.issuerMismatch v.issuer c.issuer)

/-- Checks the dates against a clock that may be off by the leeway. -/
def checkDates (v : Verifier) (now : UInt64) (c : Claims) : Except Rejection Unit :=
  match c.expiry with
  | none => .error (.malformedToken .missingExpiry)
  | some expiry =>
    if saturatingAdd expiry v.leeway < now then .error .expiredToken
    else
      match c.notBefore with
      | none => .ok ()
      | some notBefore =>
        if saturatingAdd now v.leeway < notBefore then .error .tokenNotYetValid else .ok ()

/-- All checks that follow the choice of a key. -/
def check (v : Verifier) (key : TrustedKey) (now : UInt64) (t : Jwt.Token) :
    Except Rejection VerifiedToken := do
  checkSignature key t
  v.checkIssuer t.claims
  v.checkDates now t.claims
  return ⟨t.header, t.claims⟩

/-- Verifies a token at a time, with a given way to find its key. -/
def verifyWith {τ : Type} (v : Verifier) (resolve : Resolver τ) (now : UInt64) (token : String)
    (s : τ) : Except Rejection VerifiedToken × τ :=
  match Jwt.Token.read token with
  | .error fault => (.error (.malformedToken fault), s)
  | .ok t =>
    match resolve t.header.kid s with
    | (.error reason, s) => (.error reason, s)
    | (.ok key, s) => (v.check key now t, s)

/-- Verifies a token at a time: `uptime` is the clock of the key cache, `now` is Unix time. -/
def verify {σ : Type} (v : Verifier) (f : Fetcher σ) (uptime : Uptime) (now : UInt64)
    (token : String) (s : Shared σ) : Except Rejection VerifiedToken × Shared σ :=
  v.verifyWith (v.keys.resolve f uptime) now token s

end Verifier

end RpcGuard
