import RpcGuard.Keys.Cache
import RpcGuard.Trust

/-!
# Sources of keys

The one source that a guard takes its keys from. Keys in the settings are read once, at startup;
those of an endpoint are fetched when they are needed.
-/

namespace RpcGuard

/-- A public key in the settings that cannot be used. -/
inductive PublicKeyFault where
  /-- The text is no key document. -/
  | document
  /-- A key document without a usable key. -/
  | noUsableKey
  | pem (fault : TrustedKey.PemFault)
  deriving DecidableEq, Repr

/-- The fault in words. -/
def PublicKeyFault.message (f : PublicKeyFault) : String :=
  "invalid public key: " ++
    match f with
    | document => Jwk.documentFault
    | noUsableKey => "no usable RSA key found in JWK/JWKS payload"
    | pem fault => fault.message

/-- A source of keys. -/
inductive KeySource where
  | remote (remote : Remote)
  /-- The keys of a key document. -/
  | inline (keys : List TrustedKey)
  /-- A single key for all tokens. -/
  | static (key : TrustedKey)
  /-- No source: there is never a key. -/
  | unconfigured
  deriving DecidableEq, Repr

/-- A way to find the key for a key id, which may change a state of type `τ`. -/
abbrev Resolver (τ : Type) := Option String → τ → Except Rejection TrustedKey × τ

namespace KeySource

/-- A word for the kind of source. -/
def kind : KeySource → String
  | remote _ => "remote-jwks"
  | inline _ => "inline-jwks"
  | static _ => "static-pem"
  | unconfigured => "unconfigured"

/-- The address that keys are fetched from. -/
def endpoint? : KeySource → Option Url
  | remote r => some r.endpoint
  | _ => none

/-- The keys of a key document, of which one must be usable. -/
def ofDocument (text : Bytes) : Except PublicKeyFault KeySource :=
  match Jwk.readDocument? text with
  | none => .error .document
  | some jwks =>
    match TrustedKey.usable jwks with
    | [] => .error .noUsableKey
    | keys => .ok (inline keys)

/-- The key of a PEM text. -/
def ofPem (text : String) : Except PublicKeyFault KeySource :=
  match TrustedKey.ofPem text with
  | .ok key => .ok (static key)
  | .error fault => .error (.pem fault)

/-- The source of keys that a guard trusts. -/
def ofTrust (source : Option Trust.Source) (options : CacheOptions) :
    Except PublicKeyFault KeySource :=
  match source with
  | some (.wellKnown url) | some (.endpoint url) => .ok (remote ⟨url, options⟩)
  | some (.document text) => ofDocument (Utf8.bytes text)
  | some (.pem text) => ofPem text
  | none => .ok unconfigured

/-- The key for a key id. Only a remote source has use for the fetcher and the shared state. -/
def resolve {σ : Type} (k : KeySource) (f : Fetcher σ) (now : Uptime) :
    Resolver (Shared σ) := fun kid s =>
  match k with
  | remote r => r.resolve f now kid s
  | inline keys =>
    match TrustedKey.find? keys kid with
    | some key => (.ok key, s)
    | none => (.error (.keyUnavailable (.unknownKid kid)), s)
  | static key => (.ok key, s)
  | unconfigured => (.error (.keyUnavailable .unconfigured), s)

end KeySource

end RpcGuard
