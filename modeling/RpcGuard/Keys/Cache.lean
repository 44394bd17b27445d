import RpcGuard.Keys.Clock
import RpcGuard.Keys.Fetch
import RpcGuard.Keys.TrustedKey
import RpcGuard.Settings.Basic
import RpcGuard.Url.Basic

/-!
# The key cache

Keys fetched from an endpoint are used for a while. The cache is asked in up to three sections,
each of which runs alone: `peek` looks for keys that are still current; `renew` looks again and
fetches if there are none; `refresh` fetches because a key is unknown, unless the last fetch was
just made. When a fetch fails, keys that are not too old stay in use.
-/

namespace RpcGuard

/-- How fetched keys are used. Durations are in seconds. -/
structure CacheOptions where
  /-- Keys are current for this long. -/
  ttl : UInt64
  /-- After a fetch, an unknown key is no reason for another one for this long. -/
  cooldown : UInt64
  /-- A fetch may take this long. -/
  timeout : UInt64
  /-- Keys may be used for this long after they were fetched, while fetching fails. -/
  maxStaleness : UInt64
  deriving DecidableEq, Repr

/-- The options that the settings express. -/
def CacheOptions.ofSettings (s : Settings) : CacheOptions :=
  ⟨s.cacheTtl, s.refreshCooldown, s.fetchTimeout, s.maxStaleness⟩

/-- Keys in the cache, and the times, in seconds, when they were fetched and cease to be
current. -/
structure Cached where
  keys : List TrustedKey
  fetchedAt : Nat
  expiresAt : Nat
  deriving DecidableEq, Repr

/-- An endpoint and how its keys are used. -/
structure Remote where
  endpoint : Url
  options : CacheOptions
  deriving DecidableEq, Repr

/-- What calls share: the cache, and the state of the fetcher. -/
structure Shared (σ : Type) where
  cache : Option Cached := none
  fetcher : σ
  deriving Repr

namespace Remote

variable {σ : Type}

/-- The cached keys, if they are current. -/
def peek (now : Uptime) (cache : Option Cached) : Option (List TrustedKey) :=
  (cache.filter fun c => now.seconds < c.expiresAt).map Cached.keys

/-- Fetches keys and puts the usable ones into the cache. A failure leaves the cache alone. -/
def fetch (r : Remote) (f : Fetcher σ) (now : Uptime) (s : Shared σ) :
    Except Rejection (List TrustedKey) × Shared σ :=
  match f r.endpoint.toString s.fetcher with
  | (.ok jwks, next) =>
    let keys := TrustedKey.usable jwks
    (.ok keys, ⟨some ⟨keys, now.seconds, now.deadline r.options.ttl⟩, next⟩)
  | (.error e, next) => (.error e, { s with fetcher := next })

/-- The current keys, fetched if there are none. If that fails, keys that are not too old are
current again until the cooldown has passed. -/
def renew (r : Remote) (f : Fetcher σ) (now : Uptime) (s : Shared σ) :
    Except Rejection (List TrustedKey) × Shared σ :=
  match peek now s.cache with
  | some keys => (.ok keys, s)
  | none =>
    match r.fetch f now s with
    | (.ok keys, s) => (.ok keys, s)
    | (.error e, s) =>
      match s.cache with
      | some c =>
        if now.seconds - c.fetchedAt < r.options.maxStaleness.toNat then
          (.ok c.keys,
            { s with cache := some { c with expiresAt := now.deadline r.options.cooldown } })
        else (.error e, s)
      | none => (.error e, s)

/-- The keys after a fetch for the sake of an unknown key; without one if the last was just made. -/
def refresh (r : Remote) (f : Fetcher σ) (now : Uptime) (s : Shared σ) :
    Except Rejection (List TrustedKey) × Shared σ :=
  match s.cache.filter fun c => now.seconds - c.fetchedAt < r.options.cooldown.toNat with
  | some c => (.ok c.keys, s)
  | none => r.fetch f now s

/-- The keys to look in first. -/
def currentKeys (r : Remote) (f : Fetcher σ) (now : Uptime) (s : Shared σ) :
    Except Rejection (List TrustedKey) × Shared σ :=
  match peek now s.cache with
  | some keys => (.ok keys, s)
  | none => r.renew f now s

/-- The key with a given id, looked for again in fresh keys if the current ones have none. -/
def resolve (r : Remote) (f : Fetcher σ) (now : Uptime) (kid : Option String) (s : Shared σ) :
    Except Rejection TrustedKey × Shared σ :=
  match r.currentKeys f now s with
  | (.error e, s) => (.error e, s)
  | (.ok keys, s) =>
    match TrustedKey.find? keys kid with
    | some key => (.ok key, s)
    | none =>
      match r.refresh f now s with
      | (.error e, s) => (.error e, s)
      | (.ok keys, s) =>
        match TrustedKey.find? keys kid with
        | some key => (.ok key, s)
        | none => (.error (.keyUnavailable (.unknownKid kid)), s)

end Remote

/-- Empties the cache. -/
def Shared.invalidate {σ : Type} (s : Shared σ) : Shared σ := { s with cache := none }

end RpcGuard
