import RpcGuard.Guard

/-!
# Bearer credentials

The calling side: credentials that put a bearer token on every request.
-/

namespace RpcGuard

/-- The value of an authorization header. -/
structure BearerCredentials where
  value : Bytes
  deriving DecidableEq, Repr

namespace BearerCredentials

/-- A byte that a header value may hold: anything but controls, other than the tab. -/
def isHeaderByte (b : UInt8) : Bool := (0x20 ≤ b && b != 0x7F) || b == 9

/-- Credentials for a token, unless no header could carry it. -/
def ofToken? (token : String) : Option BearerCredentials :=
  let value := Utf8.bytes ("Bearer " ++ token)
  if value.all isHeaderByte then some ⟨value⟩ else none

/-- What is reported of a token that no header could carry. -/
def faultMessage : String := "failed to parse metadata value"

/-- The headers with these credentials instead of any others. -/
def apply (c : BearerCredentials) (hs : Headers) : Headers :=
  hs.filter (fun h => h.1 ≠ "authorization") ++ [("authorization", c.value)]

/-- The credentials in words, which do not tell the token. -/
def toString (_ : BearerCredentials) : String :=
  "BearerCredentials \x7b value: \"Bearer <redacted>\" \x7d"

end BearerCredentials

end RpcGuard
