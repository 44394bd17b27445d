import RpcGuard.Proofs.Session

/-!
# Recording fetches

A fetcher that keeps a record shows which fetches a call makes, without a change to the calls:
`Fetcher.recorded` answers as the fetcher that it records, and a session with it gives the answers
and leaves the cache of the session without it (`KeySource.service_recorded`).
-/

namespace RpcGuard

/-- What a fetch brings. -/
abbrev FetchOutcome := Except Rejection (List Jwk)

variable {σ : Type}

/-- The fetcher with a record of all that it fetches. -/
def Fetcher.recorded (f : Fetcher σ) : Fetcher (σ × List FetchOutcome) := fun url s =>
  let (outcome, next) := f url s.1
  (outcome, (next, s.2 ++ [outcome]))

namespace Shared

/-- The state with an empty record. -/
def recorded (s : Shared σ) : Shared (σ × List FetchOutcome) := ⟨s.cache, (s.fetcher, [])⟩

/-- The state without its record. -/
def unrecorded (s : Shared (σ × List FetchOutcome)) : Shared σ := ⟨s.cache, s.fetcher.1⟩

@[simp] theorem unrecorded_recorded (s : Shared σ) : s.recorded.unrecorded = s := rfl

@[simp] theorem unrecorded_cache (s : Shared (σ × List FetchOutcome)) :
    s.unrecorded.cache = s.cache := rfl

end Shared

/-! ## A record changes nothing -/

namespace Remote

variable (r : Remote) (f : Fetcher σ) (now : Uptime) (s : Shared (σ × List FetchOutcome))

theorem fetch_recorded : r.fetch f now s.unrecorded =
    ((r.fetch f.recorded now s).1, (r.fetch f.recorded now s).2.unrecorded) := by
  unfold fetch Fetcher.recorded Shared.unrecorded
  dsimp only
  rcases f r.endpoint.toString s.fetcher.1 with ⟨reason | jwks, next⟩
  · rfl
  · rfl

theorem renew_recorded : r.renew f now s.unrecorded =
    ((r.renew f.recorded now s).1, (r.renew f.recorded now s).2.unrecorded) := by
  unfold renew
  rw [Shared.unrecorded_cache, fetch_recorded]
  cases peek now s.cache with
  | some keys => rfl
  | none =>
    dsimp only
    rcases r.fetch f.recorded now s with ⟨reason | keys, next⟩
    · dsimp only [Shared.unrecorded_cache]
      cases next.cache with
      | none => rfl
      | some c =>
        dsimp only
        split
        · rfl
        · rfl
    · rfl

theorem refresh_recorded : r.refresh f now s.unrecorded =
    ((r.refresh f.recorded now s).1, (r.refresh f.recorded now s).2.unrecorded) := by
  unfold refresh
  rw [Shared.unrecorded_cache, fetch_recorded]
  cases s.cache.filter fun c => now - c.fetchedAt < r.options.cooldown.toNat with
  | some c => rfl
  | none => rfl

theorem currentKeys_recorded : r.currentKeys f now s.unrecorded =
    ((r.currentKeys f.recorded now s).1, (r.currentKeys f.recorded now s).2.unrecorded) := by
  unfold currentKeys
  rw [Shared.unrecorded_cache]
  cases peek now s.cache with
  | some keys => rfl
  | none => exact r.renew_recorded f now s

theorem resolve_recorded (kid : Option String) : r.resolve f now kid s.unrecorded =
    ((r.resolve f.recorded now kid s).1, (r.resolve f.recorded now kid s).2.unrecorded) := by
  unfold resolve
  rw [currentKeys_recorded]
  rcases r.currentKeys f.recorded now s with ⟨reason | keys, next⟩
  · rfl
  · dsimp only
    cases TrustedKey.find? keys kid with
    | some key => rfl
    | none =>
      dsimp only
      rw [refresh_recorded]
      rcases r.refresh f.recorded now next with ⟨reason | keys, last⟩
      · rfl
      · dsimp only
        cases TrustedKey.find? keys kid with
        | some key => rfl
        | none => rfl

end Remote

/-- With or without a record, a source of keys answers alike. -/
theorem KeySource.service_recorded (k : KeySource) (f : Fetcher σ) :
    (k.service f.recorded).Simulates (fun s t => s.unrecorded = t) (k.service f) := by
  have hresolve : ∀ s uptime kid, k.resolve f uptime kid (Shared.unrecorded s) =
      ((k.resolve f.recorded uptime kid s).1,
        (k.resolve f.recorded uptime kid s).2.unrecorded) := by
    intro s uptime kid
    cases k with
    | remote r => exact r.resolve_recorded f uptime s kid
    | inline keys =>
      unfold resolve
      dsimp only
      cases TrustedKey.find? keys kid with
      | some key => rfl
      | none => rfl
    | static key => rfl
    | unconfigured => rfl
  exact {
    answer := by
      rintro s _ rfl uptime kid
      exact (congrArg Prod.fst (hresolve s uptime kid)).symm
    resolve := by
      rintro s _ rfl uptime kid
      exact (congrArg Prod.snd (hresolve s uptime kid)).symm
    invalidate := by
      rintro s _ rfl
      rfl }

end RpcGuard
