import RpcGuard.Claims
import RpcGuard.Jwt.Algorithm
import RpcGuard.Keys.Fault

/-!
# Rejections

The reasons to refuse a call. Each has a message, which tells an operator what is wrong, and a
description, which tells the caller no more than the kind of reason.
-/

namespace RpcGuard

/-- What is wrong with the form of a token. -/
inductive TokenFault where
  | notThreeSegments
  /-- The header or the signature is not base64. -/
  | base64
  /-- The header, or the payload on a second look, is not the JSON it should be. -/
  | json
  /-- The payload is not base64. -/
  | payloadEncoding
  | claims (fault : Claims.Fault)
  | missingExpiry
  /-- The credentials hold characters that no header may. -/
  | headerNotAscii
  deriving DecidableEq, Repr

/-- The fault in words. -/
def TokenFault.message : TokenFault → String
  | notThreeSegments => "token must have three segments"
  | base64 => "Base64 error"
  | json => "JSON error"
  | payloadEncoding => "invalid payload encoding"
  | claims fault => fault.message
  | missingExpiry => "missing exp claim"
  | headerNotAscii => "authorization header is not ASCII"

/-- What is wrong with a signature. -/
inductive SignatureFault where
  | algorithm (used : Jwt.Algorithm)
  | mismatch
  deriving DecidableEq, Repr

/-- The fault in words. -/
def SignatureFault.message : SignatureFault → String
  | algorithm used => "algorithm " ++ used.name ++ " is not allowed"
  | mismatch => "InvalidSignature"

/-- A reason to refuse a call. -/
inductive Rejection where
  | missingToken
  | malformedToken (fault : TokenFault)
  | keyUnavailable (fault : KeyFault)
  | signatureInvalid (fault : SignatureFault)
  | issuerMismatch (expected actual : Option String)
  | expiredToken
  | tokenNotYetValid
  | unsupportedScheme (scheme : String)
  | permissionDenied
  deriving DecidableEq, Repr

namespace Rejection

/-- The reason in words, for the log. -/
def message : Rejection → String
  | missingToken => "missing Authorization header"
  | malformedToken fault => "malformed token: " ++ fault.message
  | keyUnavailable fault => "signing key resolution failed: " ++ fault.message
  | signatureInvalid fault => "invalid signature: " ++ fault.message
  | issuerMismatch expected actual =>
    "issuer mismatch: expected " ++ Text.quoted? expected ++ ", got " ++ Text.quoted? actual
  | expiredToken => "token expired"
  | tokenNotYetValid => "token not yet valid"
  | unsupportedScheme scheme => "unsupported Authorization scheme: " ++ scheme
  | permissionDenied => "permission denied"

/-- The status code of a call that is refused: permission denied, or unauthenticated. -/
def code : Rejection → Nat
  | permissionDenied => 7
  | _ => 16

/-- What the caller is told. -/
def description : Rejection → String
  | missingToken => "JWT token is missing"
  | unsupportedScheme _ => "Unsupported authorization scheme"
  | permissionDenied => "Client has insufficient permissions"
  | _ => "JWT token not valid"

end Rejection

end RpcGuard
