import RpcGuard.Policy.Access
import RpcGuard.Verifier

/-!
# The guard

The guard decides about each call of a remote procedure from its path and headers: it lets the call
pass with a verified token, lets it pass without one, or rejects it. It is built once, from settings
and service declarations; if that fails, nothing may be served.
-/

namespace RpcGuard

/-- A reason not to start. -/
inductive StartupFault where
  | trust (fault : Trust.Fault)
  | publicKey (fault : PublicKeyFault)
  | policy (fault : PolicyFault)
  deriving DecidableEq, Repr

/-- The fault in words. -/
def StartupFault.message : StartupFault → String
  | trust fault => fault.message
  | publicKey fault => fault.message
  | policy fault => fault.message

/-- A guard. -/
structure Guard where
  verifier : Verifier
  resources : ResourceNames
  policies : PolicyTable
  unknownScheme : UnknownScheme
  skipped : List String
  deriving Repr

/-- What the guard decides about a call. -/
inductive Decision where
  /-- The call goes on with a verified token. -/
  | allow (token : VerifiedToken)
  /-- The call goes on without a token. -/
  | passThrough
  | reject (reason : Rejection)
  deriving Repr

/-- Headers as they are sent: names in lower case, in order, perhaps repeated. -/
abbrev Headers := List (String × Bytes)

/-- The first value of a name. -/
def Headers.first? (name : String) (hs : Headers) : Option Bytes := List.lookup name hs

namespace Guard

/-- Builds the guard. Trust comes first, then the source of keys, then the policies. -/
def build (s : Settings) (ds : List ServiceDeclaration) : Except StartupFault Guard := do
  let trust ← (Trust.ofSettings s).mapError .trust
  let keys ← (KeySource.ofTrust trust.source (.ofSettings s)).mapError .publicKey
  let policies ← (PolicyTable.compile ds).mapError .policy
  return {
    verifier := ⟨trust.issuer, trust.leeway, keys⟩
    resources := ⟨trust.resourceName, s.resourceNames⟩
    policies
    unknownScheme := s.unknownScheme
    skipped := s.skippedServices }

/-! ## Calls -/

/-- Service and method of a path: around its last slash, one leading slash apart. -/
def serviceAndMethod (path : String) : String × String :=
  let cs := match path.toList with
    | '/' :: cs => cs
    | cs => cs
  match cs.reverse.span (· ≠ '/') with
  | (method, _ :: service) => (String.ofList service.reverse, String.ofList method.reverse)
  | (_, []) => ("unknown", String.ofList cs)

/-- The bytes that a header may hold as text: visible ASCII, the space and the tab. -/
def isVisible (b : UInt8) : Bool := (0x20 ≤ b && b < 0x7F) || b == 9

/-- The credentials of a call, without white space around them. -/
def credentials (hs : Headers) : Except Rejection (List Char) :=
  match hs.first? "authorization" with
  | none => .error .missingToken
  | some value =>
    if value.all isVisible then
      let text := Text.trimChars (value.map fun b => Char.ofNat b.toNat)
      if text.isEmpty then .error .missingToken else .ok text
    else .error (.malformedToken .headerNotAscii)

/-- Scheme and token of credentials, around the first white space. -/
def schemeAndToken (cs : List Char) : List Char × List Char :=
  let (scheme, token) := cs.span fun c => !Text.isBlank c
  (scheme, Text.trimChars token)

/-- The scheme of bearer tokens, in any case of letters. -/
def isBearer (scheme : List Char) : Bool := scheme.map Char.toLower == "bearer".toList

/-- The bearer token of a call, or the decision about a call that has none. -/
def bearerToken (g : Guard) (service : String) (hs : Headers) : Except Decision String :=
  match credentials hs with
  | .error reason => .error (.reject reason)
  | .ok text =>
    let (scheme, token) := schemeAndToken text
    if !isBearer scheme then
      if g.unknownScheme = .reject ∧ g.policies.isSecured service then
        .error (.reject (.unsupportedScheme (String.ofList scheme)))
      else .error .passThrough
    else if token.isEmpty then .error (.reject .missingToken)
    else .ok (String.ofList token)

/-- Decides about a call at a time, with a given way to find keys. -/
def authorizeWith {τ : Type} (g : Guard) (resolve : Resolver τ) (now : UInt64) (path : String)
    (hs : Headers) (s : τ) : Decision × τ :=
  let (service, method) := serviceAndMethod path
  if service ∈ g.skipped then (.passThrough, s)
  else
    match g.bearerToken service hs with
    | .error decision => (decision, s)
    | .ok token =>
      match g.verifier.verifyWith resolve now token s with
      | (.error reason, s) => (.reject reason, s)
      | (.ok verified, s) =>
        if g.resources.permits g.policies service method verified.claims then (.allow verified, s)
        else (.reject .permissionDenied, s)

/-- Decides about a call at a time: `uptime` is the clock of the key cache, `now` is Unix time. -/
def authorize {σ : Type} (g : Guard) (f : Fetcher σ) (uptime : Uptime) (now : UInt64)
    (path : String) (hs : Headers) (s : Shared σ) : Decision × Shared σ :=
  g.authorizeWith (g.verifier.keys.resolve f uptime) now path hs s

end Guard

end RpcGuard
