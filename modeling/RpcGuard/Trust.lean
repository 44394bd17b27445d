import RpcGuard.Json.Value
import RpcGuard.Keys.Armor
import RpcGuard.Settings.Basic
import RpcGuard.Url.Parser

/-!
# Trust

Whom a guard trusts: an issuer, and the one source of its keys. Of several sources in the settings
only the first counts, in the order well-known document, endpoint, public key; the others are not
even read.
-/

namespace RpcGuard.Trust

/-- Where the keys come from. -/
inductive Source where
  /-- The well-known document of a domain. -/
  | wellKnown (url : Url)
  /-- A document at a given address. -/
  | endpoint (url : Url)
  /-- The text of a key document. -/
  | document (text : String)
  /-- The PEM text of an RSA public key. -/
  | pem (text : String)
  deriving DecidableEq, Repr

/-- A word for the kind of source. -/
def Source.kind : Source → String
  | wellKnown _ => "jwks-uri"
  | endpoint _ => "keycloak-jwks-uri"
  | document _ => "inline-jwks"
  | pem _ => "public-key-pem"

/-- An address that is no URL, or none that the well-known path can be resolved against. -/
structure Fault where
  address : String
  reason : Url.Fault
  deriving DecidableEq, Repr

/-- The fault in words. -/
def Fault.message (f : Fault) : String :=
  "invalid JWKS uri " ++ f.address ++ ": " ++ f.reason.message

/-- The path of the well-known document. -/
def wellKnownPath : Url.AbsolutePath where
  text := "/.well-known/jwks.json"
  rooted := by decide +kernel
  unhosted := by decide +kernel

/-- Reads an address. -/
def readUrl (address : String) : Except Fault Url :=
  match Url.parse address with
  | .ok url => .ok url
  | .error reason => .error ⟨address, reason⟩

/-- The address with a scheme; the default is `https`. -/
def withScheme (domain : String) : String :=
  if Pem.contains "://".toList domain.toList then domain else "https://" ++ domain

/-- The address of the well-known document of a domain. -/
def wellKnownUrl (domain : String) : Except Fault Url := do
  let base ← readUrl (withScheme domain)
  match base.join wellKnownPath with
  | .ok url => return url
  | .error reason => throw ⟨domain, reason⟩

/-- The text is a JSON object. -/
def isJsonObject (text : Bytes) : Bool :=
  match Json.parse? text with
  | some j => j.isObject
  | none => false

/-- The JSON object that a public key spells, in base64 or as it is. -/
def documentText? (key : String) : Option String :=
  let decoded : Option String := do
    let bytes ← Base64.decode? .standard key.toList
    let text ← Utf8.text? bytes
    if isJsonObject bytes then some text else none
  decoded <|> if isJsonObject (Utf8.bytes key) then some key else none

/-- The source that a public key is: a key document, or else a PEM text. -/
def ofPublicKey (key : String) : Source :=
  match documentText? key with
  | some text => .document text
  | none => .pem (String.ofList (Pem.armored key.toList))

/-- The source that the settings choose. -/
def select (s : Settings) : Except Fault (Option Source) :=
  match Text.nonBlank s.jwksDomain, Text.nonBlank s.jwksEndpoint, Text.nonBlank s.publicKey with
  | some domain, _, _ => do return some (.wellKnown (← wellKnownUrl domain))
  | none, some address, _ => do return some (.endpoint (← readUrl address))
  | none, none, some key => .ok (some (ofPublicKey key))
  | none, none, none => .ok none

end RpcGuard.Trust

namespace RpcGuard

/-- Whom a guard trusts. -/
structure Trust where
  issuer : Option String
  leeway : UInt64
  resourceName : Option String
  source : Option Trust.Source
  deriving DecidableEq, Repr

/-- The trust that the settings express. -/
def Trust.ofSettings (s : Settings) : Except Trust.Fault Trust := do
  return {
    source := ← Trust.select s
    issuer := s.trustedIssuer
    leeway := s.leeway
    resourceName := s.globalResource }

end RpcGuard
