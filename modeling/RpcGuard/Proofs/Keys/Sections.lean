import RpcGuard.Proofs.Keys.Transparency

/-!
# What a section can do

A search for a key asks the cache in sections. Here is said once what each of them can do, together
with the fetches that it makes on the way: a renewal (`Renewal`), a refresh (`Refreshment`), and the
search that consists of both (`Resolution`); and from these, what a call of a session can do
(`Effect`). What holds of all searches or calls is then shown case by case.
-/

namespace RpcGuard

variable {σ : Type}

/-- A duration that is not zero is positive. -/
theorem toNat_pos {n : UInt64} (h : n ≠ 0) : 0 < n.toNat :=
  Nat.pos_of_ne_zero fun hzero => h (UInt64.toNat_inj.mp hzero)

/-- A duration is over at once only if it is zero, even if the clock cannot show its end. -/
theorem Uptime.lt_deadline_iff {now : Uptime} {duration : UInt64} :
    now < now.deadline duration ↔ duration ≠ 0 := by
  have hbounded := now.bounded
  have hfar : 0 < Clock.farFuture := by decide
  unfold deadline
  rw [if_pos hbounded]
  constructor
  · rintro hlt rfl
    have hnow : now.seconds + UInt64.toNat 0 ≤ Clock.latest := Nat.le_of_add_right_le hbounded
    rw [if_pos hnow] at hlt
    exact Nat.lt_irrefl _ hlt
  · intro hne
    have hpos := toNat_pos hne
    split
    · omega
    · omega

namespace Remote

/-- What the cache holds after a fetch that brought a document. -/
def stored (r : Remote) (now : Uptime) (jwks : List Jwk) : Cached :=
  ⟨TrustedKey.usable jwks, now, now.deadline r.options.ttl⟩

/-- Keys in the cache are current until they expire. -/
theorem peek_some_eq_some_iff {now : Uptime} {c : Cached} {keys : List TrustedKey} :
    peek now (some c) = some keys ↔ now < c.expiresAt ∧ c.keys = keys := by
  unfold peek
  rw [Option.map_eq_some_iff]
  constructor
  · rintro ⟨c', hc', rfl⟩
    obtain ⟨hc, hcurrent⟩ := Option.filter_eq_some_iff.mp hc'
    obtain rfl := Option.some.inj hc
    exact ⟨of_decide_eq_true hcurrent, rfl⟩
  · rintro ⟨hcurrent, rfl⟩
    exact ⟨c, Option.filter_eq_some_iff.mpr ⟨rfl, decide_eq_true hcurrent⟩, rfl⟩

theorem peek_some_eq_none_iff {now : Uptime} {c : Cached} :
    peek now (some c) = none ↔ c.expiresAt ≤ now := by
  unfold peek
  rw [Option.map_eq_none_iff, Option.filter_eq_none_iff]
  constructor
  · intro h
    exact Nat.le_of_not_lt fun hcurrent => h c rfl (decide_eq_true hcurrent)
  · intro hexpired c' hc' hcurrent
    obtain rfl := Option.some.inj hc'
    exact Nat.not_lt.mpr hexpired (of_decide_eq_true hcurrent)

/-! ## The ways of a section -/

/-- The ways in which a renewal goes, with the fetches that it makes. -/
inductive Renewal (r : Remote) (f : Fetcher σ) (now : Uptime) (s : Shared σ) :
    List FetchOutcome → Except Rejection (List TrustedKey) × Shared σ → Prop where
  /-- The keys in the cache are current. -/
  | current {keys : List TrustedKey} :
      peek now s.cache = some keys → Renewal r f now s [] (.ok keys, s)
  | fetched {jwks : List Jwk} {next : σ} :
      peek now s.cache = none → f r.endpoint.toString s.fetcher = (.ok jwks, next) →
      Renewal r f now s [.ok jwks] (.ok (TrustedKey.usable jwks), ⟨some (r.stored now jwks), next⟩)
  /-- The fetch fails, and the keys in the cache are not too old. -/
  | stale {c : Cached} {e : Rejection} {next : σ} :
      peek now s.cache = none → f r.endpoint.toString s.fetcher = (.error e, next) →
      s.cache = some c → now - c.fetchedAt < r.options.maxStaleness.toNat →
      Renewal r f now s [.error e]
        (.ok c.keys, ⟨some { c with expiresAt := now.deadline r.options.cooldown }, next⟩)
  /-- The fetch fails, and there are no keys in the cache that could be used. -/
  | failed {e : Rejection} {next : σ} :
      peek now s.cache = none → f r.endpoint.toString s.fetcher = (.error e, next) →
      (∀ c, s.cache = some c → r.options.maxStaleness.toNat ≤ now - c.fetchedAt) →
      Renewal r f now s [.error e] (.error e, ⟨s.cache, next⟩)

/-- The ways in which a refresh goes, with the fetches that it makes. -/
inductive Refreshment (r : Remote) (f : Fetcher σ) (now : Uptime) (s : Shared σ) :
    List FetchOutcome → Except Rejection (List TrustedKey) × Shared σ → Prop where
  /-- The last fetch was just made. -/
  | recent {c : Cached} :
      s.cache = some c → now - c.fetchedAt < r.options.cooldown.toNat →
      Refreshment r f now s [] (.ok c.keys, s)
  | fetched {jwks : List Jwk} {next : σ} :
      (∀ c, s.cache = some c → r.options.cooldown.toNat ≤ now - c.fetchedAt) →
      f r.endpoint.toString s.fetcher = (.ok jwks, next) →
      Refreshment r f now s [.ok jwks]
        (.ok (TrustedKey.usable jwks), ⟨some (r.stored now jwks), next⟩)
  | failed {e : Rejection} {next : σ} :
      (∀ c, s.cache = some c → r.options.cooldown.toNat ≤ now - c.fetchedAt) →
      f r.endpoint.toString s.fetcher = (.error e, next) →
      Refreshment r f now s [.error e] (.error e, ⟨s.cache, next⟩)

/-- The ways in which a search for a key goes, with the fetches that it makes. -/
inductive Resolution (r : Remote) (f : Fetcher σ) (now : Uptime) (kid : Option String)
    (s : Shared σ) : List FetchOutcome → Except Rejection TrustedKey × Shared σ → Prop where
  | unavailable {made : List FetchOutcome} {reason : Rejection} {t : Shared σ} :
      Renewal r f now s made (.error reason, t) → Resolution r f now kid s made (.error reason, t)
  | found {made : List FetchOutcome} {keys : List TrustedKey} {key : TrustedKey} {t : Shared σ} :
      Renewal r f now s made (.ok keys, t) → TrustedKey.find? keys kid = some key →
      Resolution r f now kid s made (.ok key, t)
  /-- The key is unknown, and the refresh fails. -/
  | refused {made made' : List FetchOutcome} {keys : List TrustedKey} {reason : Rejection}
      {t u : Shared σ} :
      Renewal r f now s made (.ok keys, t) → TrustedKey.find? keys kid = none →
      Refreshment r f now t made' (.error reason, u) →
      Resolution r f now kid s (made ++ made') (.error reason, u)
  /-- The key is unknown, and is looked for again after the refresh. -/
  | sought {made made' : List FetchOutcome} {keys keys' : List TrustedKey} {t u : Shared σ} :
      Renewal r f now s made (.ok keys, t) → TrustedKey.find? keys kid = none →
      Refreshment r f now t made' (.ok keys', u) →
      Resolution r f now kid s (made ++ made') (TrustedKey.lookUp keys' kid, u)

/-! ## There are no other ways -/

theorem fetch_of_ok {r : Remote} {f : Fetcher σ} {s : Shared σ} {jwks : List Jwk} {next : σ}
    (now : Uptime) (h : f r.endpoint.toString s.fetcher = (.ok jwks, next)) :
    r.fetch f now s = (.ok (TrustedKey.usable jwks), ⟨some (r.stored now jwks), next⟩) := by
  unfold fetch
  rw [h]
  rfl

theorem fetch_of_error {r : Remote} {f : Fetcher σ} {s : Shared σ} {e : Rejection} {next : σ}
    (now : Uptime) (h : f r.endpoint.toString s.fetcher = (.error e, next)) :
    r.fetch f now s = (.error e, { s with fetcher := next }) := by
  unfold fetch
  rw [h]

section Ways

variable (r : Remote) (f : Fetcher σ) (now : Uptime) (s : Shared (σ × List FetchOutcome))

/-- A recording fetcher adds to the record what it fetches. -/
theorem fetch_of_recorded {outcome : FetchOutcome} {next : σ}
    (h : f r.endpoint.toString s.fetcher.1 = (outcome, next)) :
    f.recorded r.endpoint.toString s.fetcher = (outcome, (next, s.fetcher.2 ++ [outcome])) := by
  unfold Fetcher.recorded
  rw [h]

theorem renewal : ∃ made, (r.renew f.recorded now s).2.fetcher.2 = s.fetcher.2 ++ made ∧
    Renewal r f now s.unrecorded made (r.renew f now s.unrecorded) := by
  rw [renew_recorded]
  unfold renew
  cases hpeek : peek now s.cache with
  | some keys => exact ⟨[], (List.append_nil _).symm, .current hpeek⟩
  | none =>
    dsimp only
    obtain ⟨outcome, next, hf⟩ : ∃ outcome next,
        f r.endpoint.toString s.fetcher.1 = (outcome, next) := ⟨_, _, rfl⟩
    have hrecorded := r.fetch_of_recorded f s hf
    cases outcome with
    | ok jwks =>
      rw [fetch_of_ok now hrecorded]
      exact ⟨[.ok jwks], rfl, .fetched hpeek hf⟩
    | error e =>
      rw [fetch_of_error now hrecorded]
      dsimp only
      split
      · next c hcache =>
        split
        · next hage => exact ⟨[.error e], rfl, .stale hpeek hf hcache hage⟩
        · next hage =>
          refine ⟨[.error e], rfl, .failed hpeek hf fun c' hc' => ?_⟩
          obtain rfl := Option.some.inj (hcache.symm.trans hc')
          exact Nat.le_of_not_lt hage
      · next hcache =>
        refine ⟨[.error e], rfl, .failed hpeek hf fun c hc => ?_⟩
        cases hcache.symm.trans hc

theorem refreshment : ∃ made, (r.refresh f.recorded now s).2.fetcher.2 = s.fetcher.2 ++ made ∧
    Refreshment r f now s.unrecorded made (r.refresh f now s.unrecorded) := by
  rw [refresh_recorded]
  unfold refresh
  cases hrecent : s.cache.filter fun c => now - c.fetchedAt < r.options.cooldown.toNat with
  | some c =>
    obtain ⟨hcache, hage⟩ := Option.filter_eq_some_iff.mp hrecent
    exact ⟨[], (List.append_nil _).symm, .recent hcache (of_decide_eq_true hage)⟩
  | none =>
    dsimp only
    have hold : ∀ c, s.cache = some c → r.options.cooldown.toNat ≤ now - c.fetchedAt := by
      intro c hcache
      refine Nat.le_of_not_lt fun hage => ?_
      exact Option.filter_eq_none_iff.mp hrecent c hcache (decide_eq_true hage)
    obtain ⟨outcome, next, hf⟩ : ∃ outcome next,
        f r.endpoint.toString s.fetcher.1 = (outcome, next) := ⟨_, _, rfl⟩
    have hrecorded := r.fetch_of_recorded f s hf
    cases outcome with
    | ok jwks =>
      rw [fetch_of_ok now hrecorded]
      exact ⟨[.ok jwks], rfl, .fetched hold hf⟩
    | error e =>
      rw [fetch_of_error now hrecorded]
      exact ⟨[.error e], rfl, .failed hold hf⟩

end Ways

/-- Looking first for current keys saves nothing but time: a renewal looks for them as well. -/
theorem currentKeys_eq_renew (r : Remote) (f : Fetcher σ) (now : Uptime) (s : Shared σ) :
    r.currentKeys f now s = r.renew f now s := by
  unfold currentKeys
  cases hpeek : peek now s.cache with
  | none => rfl
  | some keys =>
    unfold renew
    rw [hpeek]

theorem resolution (r : Remote) (f : Fetcher σ) (now : Uptime) (kid : Option String)
    (s : Shared (σ × List FetchOutcome)) :
    ∃ made, (r.resolve f.recorded now kid s).2.fetcher.2 = s.fetcher.2 ++ made ∧
      Resolution r f now kid s.unrecorded made (r.resolve f now kid s.unrecorded) := by
  obtain ⟨made, hrecord, hrenewal⟩ := r.renewal f now s
  rw [resolve_recorded]
  rw [renew_recorded] at hrenewal
  unfold resolve
  rw [currentKeys_eq_renew]
  generalize r.renew f.recorded now s = out at hrecord hrenewal ⊢
  obtain ⟨reason | keys, t⟩ := out
  · exact ⟨made, hrecord, .unavailable hrenewal⟩
  · dsimp only
    cases hfind : TrustedKey.find? keys kid with
    | some key => exact ⟨made, hrecord, .found hrenewal hfind⟩
    | none =>
      dsimp only
      obtain ⟨made', hrecord', hrefreshment⟩ := r.refreshment f now t
      rw [refresh_recorded] at hrefreshment
      generalize r.refresh f.recorded now t = out' at hrecord' hrefreshment ⊢
      have hrecords : out'.2.fetcher.2 = s.fetcher.2 ++ (made ++ made') := by
        rw [hrecord', hrecord, List.append_assoc]
      obtain ⟨reason | keys', u⟩ := out'
      · exact ⟨_, hrecords, .refused hrenewal hfind hrefreshment⟩
      · have hsought := Resolution.sought hrenewal hfind hrefreshment
        unfold TrustedKey.lookUp at hsought
        dsimp only
        cases hfind' : TrustedKey.find? keys' kid with
        | some key =>
          rw [hfind'] at hsought
          exact ⟨_, hrecords, hsought⟩
        | none =>
          rw [hfind'] at hsought
          exact ⟨_, hrecords, hsought⟩

end Remote

/-! ## Calls -/

/-- What a call of a session can do, with the events that it adds to the history. -/
inductive Effect (r : Remote) (f : Fetcher σ) (uptime : Uptime) (s : Shared σ) :
    List Event → Shared σ → Prop where
  | nothing : Effect r f uptime s [] s
  | resolved {kid : Option String} {made : List FetchOutcome}
      {result : Except Rejection TrustedKey} {t : Shared σ} :
      Remote.Resolution r f uptime kid s made (result, t) →
      Effect r f uptime s (made.map .fetched) t
  | invalidated : Effect r f uptime s [.invalidated] s.invalidate

namespace Guard

theorem effect (g : Guard) (r : Remote) (f : Fetcher σ) (uptime : Uptime) (c : Call)
    (s : Shared σ) :
    Effect r f uptime s ((g.withKeys (.remote r)).events f uptime c s)
      ((g.withKeys (.remote r)).step f uptime c s).2 := by
  by_cases hc : c = .invalidate
  · subst hc
    exact .invalidated
  · rw [events_of_ne_invalidate _ f uptime hc s,
      ((g.withKeys (.remote r)).step_recorded f uptime c s).2]
    unfold fetches
    rw [step_withKeys]
    rcases g.stepWith_snd ((KeySource.remote r).service f.recorded) uptime c s.recorded with
      h | ⟨kid, h⟩ | ⟨h, -⟩
    · rw [h]
      exact .nothing
    · obtain ⟨made, hrecord, hresolution⟩ := r.resolution f uptime kid s.recorded
      have hfetches : (r.resolve f.recorded uptime kid s.recorded).2.fetcher.2 = made := hrecord
      rw [r.resolve_recorded f uptime s.recorded kid] at hresolution
      rw [h]
      show Effect r f uptime s
        ((r.resolve f.recorded uptime kid s.recorded).2.fetcher.2.map .fetched)
        (r.resolve f.recorded uptime kid s.recorded).2.unrecorded
      rw [hfetches]
      exact .resolved hresolution
    · exact absurd h hc

/-- A call to resolve a key id is a search for it, and the events are its fetches. -/
theorem resolution (g : Guard) (r : Remote) (f : Fetcher σ) (uptime : Uptime) (kid : Option String)
    (s : Shared σ) :
    ∃ made, (g.withKeys (.remote r)).events f uptime (.resolve kid) s = made.map .fetched ∧
      Remote.Resolution r f uptime kid s made (r.resolve f uptime kid s) := by
  obtain ⟨made, hrecord, hresolution⟩ := r.resolution f uptime kid s.recorded
  have hfetches : (g.withKeys (.remote r)).fetches f uptime (.resolve kid) s = made := hrecord
  exact ⟨made, congrArg (List.map Event.fetched) hfetches, hresolution⟩

end Guard

end RpcGuard
