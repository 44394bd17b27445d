import RpcGuard.Settings.Basic

/-!
# The keys of the settings

The names of the settings in a configuration. Both ways to read one (`Settings.ofDocument?` and
`Settings.ofValue?`) refuse a key that is written twice and pass over keys they do not know.
-/

namespace RpcGuard.Settings

/-- A setting. -/
inductive Key where
  | issuer | publicKey | jwksDomain | jwksEndpoint | leeway | resourceName | resourceNames
  | unknownScheme | skippedServices | cacheTtl | refreshCooldown | fetchTimeout | maxStaleness
  deriving DecidableEq, Repr

/-- The name of a setting. -/
def Key.name : Key → String
  | issuer => "issuer"
  | publicKey => "public-key"
  | jwksDomain => "jwks-uri"
  | jwksEndpoint => "keycloak-jwks-uri"
  | leeway => "maximum-leeway"
  | resourceName => "resource-name"
  | resourceNames => "resource-names"
  | unknownScheme => "unknown-scheme"
  | skippedServices => "skip-services"
  | cacheTtl => "jwks-cache-ttl-secs"
  | refreshCooldown => "jwks-refresh-cooldown-secs"
  | fetchTimeout => "jwks-fetch-timeout-secs"
  | maxStaleness => "jwks-max-stale-secs"

/-- All settings. -/
def Key.all : List Key :=
  [issuer, publicKey, jwksDomain, jwksEndpoint, leeway, resourceName, resourceNames, unknownScheme,
    skippedServices, cacheTtl, refreshCooldown, fetchTimeout, maxStaleness]

/-- The setting with a given name. -/
def Key.ofName? (s : String) : Option Key := all.find? fun k => k.name == s

@[simp] theorem Key.ofName?_name (k : Key) : ofName? k.name = some k := by cases k <;> decide

/-- How a form of configuration writes the values of settings. -/
structure Reading (α : Type) where
  text? : α → Option (Option String)
  number? : α → Option UInt64
  names? : α → Option (List (String × String))
  list? : α → Option (List String)
  scheme? : α → Option UnknownScheme

/-- Sets one setting. -/
def Reading.set? {α : Type} (r : Reading α) (s : Settings) (k : Key) (x : α) : Option Settings :=
  match k with
  | .issuer => do return { s with issuer := ← r.text? x }
  | .publicKey => do return { s with publicKey := ← r.text? x }
  | .jwksDomain => do return { s with jwksDomain := ← r.text? x }
  | .jwksEndpoint => do return { s with jwksEndpoint := ← r.text? x }
  | .leeway => do return { s with leeway := ← r.number? x }
  | .resourceName => do return { s with resourceName := ← r.text? x }
  | .resourceNames => do return { s with resourceNames := ← r.names? x }
  | .unknownScheme => do return { s with unknownScheme := ← r.scheme? x }
  | .skippedServices => do return { s with skippedServices := ← r.list? x }
  | .cacheTtl => do return { s with cacheTtl := ← r.number? x }
  | .refreshCooldown => do return { s with refreshCooldown := ← r.number? x }
  | .fetchTimeout => do return { s with fetchTimeout := ← r.number? x }
  | .maxStaleness => do return { s with maxStaleness := ← r.number? x }

/-- The settings that entries make, from the first on. `seen` are the settings before them. -/
def Reading.entries? {α : Type} (r : Reading α) (s : Settings) (seen : List Key) :
    List (String × α) → Option Settings
  | [] => some s
  | (name, x) :: es =>
    match Key.ofName? name with
    | none => entries? r s seen es
    | some k => if k ∈ seen then none else do entries? r (← r.set? s k x) (k :: seen) es

end RpcGuard.Settings
