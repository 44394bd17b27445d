import RpcGuard.Text.Blank

/-!
# Settings

The settings of a guard, with their defaults. All fields may be left out; a text of nothing but
white space counts as left out wherever a single text is meant.
-/

namespace RpcGuard

/-- What to do with credentials of another scheme than bearer tokens. -/
inductive UnknownScheme where
  /-- Calls of secured services are refused, other calls go on without credentials. -/
  | reject
  /-- All calls go on without credentials. -/
  | passThrough
  deriving DecidableEq, Repr

/-- The word for the choice in a configuration. -/
def UnknownScheme.name : UnknownScheme → String
  | reject => "reject"
  | passThrough => "pass-through"

/-- The choice with a given word. -/
def UnknownScheme.ofName? (s : String) : Option UnknownScheme :=
  if s = "reject" then some reject else if s = "pass-through" then some passThrough else none

@[simp] theorem UnknownScheme.ofName?_name (x : UnknownScheme) : ofName? x.name = some x := by
  cases x <;> rfl

/-- The settings of a guard. Durations are in seconds. -/
structure Settings where
  /-- The issuer of accepted tokens; without one, no token is accepted. -/
  issuer : Option String := none
  /-- A public key in PEM, or a key document, perhaps in base64. -/
  publicKey : Option String := none
  /-- A domain or URL whose well-known document publishes the keys. -/
  jwksDomain : Option String := none
  /-- The URL of a document that publishes the keys. -/
  jwksEndpoint : Option String := none
  /-- How far the clock may be off when a token's dates are checked. -/
  leeway : UInt64 := 0
  /-- The resource whose roles count. -/
  resourceName : Option String := none
  /-- Resources by service, each service once. -/
  resourceNames : List (String × String) := []
  unknownScheme : UnknownScheme := .reject
  /-- Services whose calls are not checked. -/
  skippedServices : List String := []
  /-- How long fetched keys are used without asking again. -/
  cacheTtl : UInt64 := 600
  /-- How long an unknown key is no reason to fetch again. -/
  refreshCooldown : UInt64 := 30
  fetchTimeout : UInt64 := 5
  /-- How long fetched keys are used while fetching fails. -/
  maxStaleness : UInt64 := 3600
  deriving DecidableEq, Repr

namespace Settings

/-- Default settings for an issuer. -/
def forIssuer (issuer : String) : Settings := { issuer := some issuer }

/-- The issuer, if one is set. -/
def trustedIssuer (s : Settings) : Option String := Text.nonBlank s.issuer

/-- The resource for services without one of their own, if one is set. -/
def globalResource (s : Settings) : Option String := Text.nonBlank s.resourceName

end Settings

end RpcGuard
