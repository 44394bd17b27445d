import RpcGuard.Proofs.Keys.Sections

/-!
# Failed fetches do no harm

A fetch that fails does not change the keys in the cache. What it means for the searches is shown
for sessions in which no time passes (`Guard.failures_are_harmless`): if keys may be used at all
while fetching fails, a key that was fetched is found until another fetch succeeds or the cache is
emptied; and if they may not, a failure is reported and leaves nothing behind.

The sections are taken apart with the cases of `Renewal` and `Refreshment`. A session keeps what
each of its calls keeps (`Guard.run_preserves`), so that both invariants are shown call by call:
that the keys in the cache were fetched just now (`Timely`), and that the cache stays as it is.
-/

namespace RpcGuard

variable {σ : Type}

/-! ## Sessions in which no time passes -/

/-- The calls of a session in which no time passes. -/
def Call.allAt (now : Uptime) (calls : List Call) : List (Uptime × Call) :=
  calls.map fun c => (now, c)

/-- What each call keeps, a session keeps. It is enough to look at calls with events of one kind, if
the session has no others. -/
theorem Guard.run_preserves (g : Guard) (r : Remote) (f : Fetcher σ) (now : Uptime)
    {E : Event → Prop} {P : Shared σ → Prop}
    (heffect : ∀ s events t, Effect r f now s events t → (∀ ev ∈ events, E ev) → P s → P t)
    (calls : List Call) {s : Shared σ} (hs : P s)
    (hhistory : ∀ ev ∈ (g.withKeys (.remote r)).history f (Call.allAt now calls) s, E ev) :
    P ((g.withKeys (.remote r)).run f (Call.allAt now calls) s).2 := by
  induction calls generalizing s with
  | nil => exact hs
  | cons c calls ih =>
    obtain ⟨hfirst, hrest⟩ := List.forall_mem_append.mp hhistory
    exact ih (heffect _ _ _ (g.effect r f now c s) hfirst hs) hrest

/-- The keys in the cache were fetched just now. -/
def Timely (now : Uptime) (s : Shared σ) : Prop := ∀ c, s.cache = some c → c.fetchedAt = now

/-- Keys of just now are younger than any duration that is not zero. -/
theorem Timely.age_lt {now : Uptime} {s : Shared σ} (hs : Timely now s) {c : Cached}
    (hcache : s.cache = some c) {duration : UInt64} (h : duration ≠ 0) :
    now - c.fetchedAt < duration.toNat := by
  rw [hs c hcache, Nat.sub_self]
  exact toNat_pos h

/-- A fetch that failed. -/
def Event.IsFailure (ev : Event) : Prop := ∃ e, ev = .fetched (.error e)

theorem Event.applyAll_of_failures {events : List Event} (h : ∀ ev ∈ events, ev.IsFailure)
    (document : Option (List Jwk)) : applyAll document events = document := by
  induction events with
  | nil => rfl
  | cons ev events ih =>
    obtain ⟨⟨e, rfl⟩, hrest⟩ := List.forall_mem_cons.mp h
    exact ih hrest

/-- A fetch that brought a document is no failure. -/
theorem Event.not_failures_of_ok {jwks : List Jwk} :
    ¬∀ ev ∈ [Except.ok jwks].map Event.fetched, ev.IsFailure := by
  intro h
  obtain ⟨e, he⟩ := h _ (List.mem_singleton_self _)
  cases he

/-! ## Sections that fail -/

namespace Remote

variable {r : Remote} {f : Fetcher σ} {now : Uptime} {s t : Shared σ} {made : List FetchOutcome}
  {kid : Option String}

section Renewals

variable {outcome : Except Rejection (List TrustedKey)}

theorem Renewal.timely (hs : Timely now s) (h : Renewal r f now s made (outcome, t)) :
    Timely now t := by
  cases h with
  | current hpeek => exact hs
  | fetched hpeek hfetch =>
    intro c hc
    obtain rfl := Option.some.inj hc
    rfl
  | @stale c _ _ hpeek hfetch hcache hage =>
    intro c' hc'
    obtain rfl := Option.some.inj hc'
    exact hs c hcache
  | failed hpeek hfetch hage => exact hs

/-- A renewal with a fetch that fails does not change the keys. -/
theorem Renewal.keys_of_failure {e : Rejection}
    (he : (f r.endpoint.toString s.fetcher).1 = .error e)
    (h : Renewal r f now s made (outcome, t)) : t.keys = s.keys := by
  cases h with
  | current hpeek => rfl
  | fetched hpeek hfetch =>
    rw [hfetch] at he
    cases he
  | stale hpeek hfetch hcache hage =>
    unfold Shared.keys
    rw [hcache]
    rfl
  | failed hpeek hfetch hage => rfl

/-- Keys that are there without a successful fetch were there before. -/
theorem Renewal.keys_of_failures (hmade : ∀ ev ∈ made.map Event.fetched, ev.IsFailure)
    {keys : List TrustedKey} (h : Renewal r f now s made (.ok keys, t)) : s.keys = some keys := by
  cases h with
  | current hpeek => exact Shared.keys_of_peek hpeek
  | fetched hpeek hfetch => exact absurd hmade Event.not_failures_of_ok
  | stale hpeek hfetch hcache hage =>
    unfold Shared.keys
    rw [hcache]
    rfl

/-- If keys must not be used while fetching fails, a failure does not touch the cache. -/
theorem Renewal.cache_of_failures (hstaleness : r.options.maxStaleness = 0)
    (hmade : ∀ ev ∈ made.map Event.fetched, ev.IsFailure)
    (h : Renewal r f now s made (outcome, t)) : t.cache = s.cache := by
  cases h with
  | current hpeek => rfl
  | fetched hpeek hfetch => exact absurd hmade Event.not_failures_of_ok
  | stale hpeek hfetch hcache hage =>
    rw [hstaleness] at hage
    exact absurd hage (Nat.not_lt_zero _)
  | failed hpeek hfetch hage => rfl

/-- If keys must not be used while fetching fails, and those in the cache have expired, a failure is
reported. -/
theorem Renewal.of_expired (hstaleness : r.options.maxStaleness = 0) {c : Cached}
    (hcache : s.cache = some c) (hexpired : c.expiresAt ≤ now) {e : Rejection} {next : σ}
    (he : f r.endpoint.toString s.fetcher = (.error e, next))
    (h : Renewal r f now s made (outcome, t)) :
    outcome = .error e ∧ t = ⟨s.cache, next⟩ := by
  cases h with
  | current hpeek =>
    rw [hcache, peek_some_eq_none_iff.mpr hexpired] at hpeek
    cases hpeek
  | fetched hpeek hfetch => cases hfetch.symm.trans he
  | stale hpeek hfetch hcache' hage =>
    rw [hstaleness] at hage
    exact absurd hage (Nat.not_lt_zero _)
  | failed hpeek hfetch hage =>
    cases hfetch.symm.trans he
    exact ⟨rfl, rfl⟩

/-- If the cache has no current keys and the fetch succeeds, the keys are those that it brings. -/
theorem Renewal.of_success (hpeek : peek now s.cache = none) {jwks : List Jwk}
    (hf : (f r.endpoint.toString s.fetcher).1 = .ok jwks)
    (h : Renewal r f now s made (outcome, t)) : outcome = .ok (TrustedKey.usable jwks) := by
  cases h with
  | current hpeek' => cases hpeek.symm.trans hpeek'
  | fetched hpeek' hfetch =>
    rw [hfetch] at hf
    obtain rfl := Except.ok.inj hf
    rfl
  | stale hpeek' hfetch hcache hage =>
    rw [hfetch] at hf
    cases hf
  | failed hpeek' hfetch hage =>
    rw [hfetch] at hf
    cases hf

theorem Refreshment.timely (hs : Timely now s) (h : Refreshment r f now s made (outcome, t)) :
    Timely now t := by
  cases h with
  | recent hcache hage => exact hs
  | fetched hold hfetch =>
    intro c hc
    obtain rfl := Option.some.inj hc
    rfl
  | failed hold hfetch => exact hs

/-- A refresh with a fetch that fails does not change the keys. -/
theorem Refreshment.keys_of_failure {e : Rejection}
    (he : (f r.endpoint.toString s.fetcher).1 = .error e)
    (h : Refreshment r f now s made (outcome, t)) : t.keys = s.keys := by
  cases h with
  | recent hcache hage => rfl
  | fetched hold hfetch =>
    rw [hfetch] at he
    cases he
  | failed hold hfetch => rfl

theorem Refreshment.cache_of_failures (hmade : ∀ ev ∈ made.map Event.fetched, ev.IsFailure)
    (h : Refreshment r f now s made (outcome, t)) : t.cache = s.cache := by
  cases h with
  | recent hcache hage => rfl
  | fetched hold hfetch => exact absurd hmade Event.not_failures_of_ok
  | failed hold hfetch => rfl

end Renewals

/-! ## Searches that fail -/

section Resolutions

variable {result : Except Rejection TrustedKey}

theorem Resolution.timely (hs : Timely now s) (h : Resolution r f now kid s made (result, t)) :
    Timely now t := by
  cases h with
  | unavailable hrenewal => exact hrenewal.timely hs
  | found hrenewal hfind => exact hrenewal.timely hs
  | refused hrenewal hfind hrefreshment => exact hrefreshment.timely (hrenewal.timely hs)
  | sought hrenewal hfind hrefreshment => exact hrefreshment.timely (hrenewal.timely hs)

theorem Resolution.cache_of_failures (hstaleness : r.options.maxStaleness = 0)
    (hmade : ∀ ev ∈ made.map Event.fetched, ev.IsFailure)
    (h : Resolution r f now kid s made (result, t)) : t.cache = s.cache := by
  cases h with
  | unavailable hrenewal => exact hrenewal.cache_of_failures hstaleness hmade
  | found hrenewal hfind => exact hrenewal.cache_of_failures hstaleness hmade
  | refused hrenewal hfind hrefreshment =>
    rw [List.map_append] at hmade
    obtain ⟨hfirst, hsecond⟩ := List.forall_mem_append.mp hmade
    exact (hrefreshment.cache_of_failures hsecond).trans
      (hrenewal.cache_of_failures hstaleness hfirst)
  | sought hrenewal hfind hrefreshment =>
    rw [List.map_append] at hmade
    obtain ⟨hfirst, hsecond⟩ := List.forall_mem_append.mp hmade
    exact (hrefreshment.cache_of_failures hsecond).trans
      (hrenewal.cache_of_failures hstaleness hfirst)

/-- A search begins with a renewal. It reports what the renewal reports, or goes on with its keys,
and is over if these have the key. -/
theorem Resolution.begins (h : Resolution r f now kid s made (result, t)) :
    (∃ reason, result = .error reason ∧ Renewal r f now s made (.error reason, t)) ∨
      ∃ first rest keys u, made = first ++ rest ∧ Renewal r f now s first (.ok keys, u) ∧
        ∀ key, TrustedKey.find? keys kid = some key → result = .ok key := by
  cases h with
  | unavailable hrenewal => exact .inl ⟨_, rfl, hrenewal⟩
  | found hrenewal hfind =>
    refine .inr ⟨made, [], _, _, (List.append_nil made).symm, hrenewal, fun key hkey => ?_⟩
    obtain rfl := Option.some.inj (hfind.symm.trans hkey)
    rfl
  | refused hrenewal hnone hrefreshment =>
    refine .inr ⟨_, _, _, _, rfl, hrenewal, fun key hkey => ?_⟩
    cases hnone.symm.trans hkey
  | sought hrenewal hnone hrefreshment =>
    refine .inr ⟨_, _, _, _, rfl, hrenewal, fun key hkey => ?_⟩
    cases hnone.symm.trans hkey

/-- If keys may be used while fetching fails, a key in the cache is found. -/
theorem Resolution.finds (hstaleness : r.options.maxStaleness ≠ 0) (hs : Timely now s)
    {keys : List TrustedKey} (hkeys : s.keys = some keys) {key : TrustedKey}
    (hfind : TrustedKey.find? keys kid = some key)
    (hmade : ∀ ev ∈ made.map Event.fetched, ev.IsFailure)
    (h : Resolution r f now kid s made (result, t)) : result = .ok key := by
  rcases h.begins with ⟨reason, -, hrenewal⟩ | ⟨first, rest, keys', u, rfl, hrenewal, hfound⟩
  · cases hrenewal with
    | failed hpeek hfetch hage =>
      obtain ⟨c, hcache, -⟩ := Option.map_eq_some_iff.mp hkeys
      exact absurd (hage c hcache) (Nat.not_le.mpr (hs.age_lt hcache hstaleness))
  · -- the search goes on with the keys that were in the cache
    rw [List.map_append] at hmade
    have hkeys' := hrenewal.keys_of_failures (List.forall_mem_append.mp hmade).1
    obtain rfl := Option.some.inj (hkeys.symm.trans hkeys')
    exact hfound key hfind

theorem Resolution.of_expired (hstaleness : r.options.maxStaleness = 0) {c : Cached}
    (hcache : s.cache = some c) (hexpired : c.expiresAt ≤ now) {e : Rejection} {next : σ}
    (he : f r.endpoint.toString s.fetcher = (.error e, next))
    (h : Resolution r f now kid s made (result, t)) :
    result = .error e ∧ t = ⟨s.cache, next⟩ := by
  rcases h.begins with ⟨reason, rfl, hrenewal⟩ | ⟨first, rest, keys, u, -, hrenewal, -⟩
  · obtain ⟨houtcome, ht⟩ := hrenewal.of_expired hstaleness hcache hexpired he
    exact ⟨congrArg Except.error (Except.error.inj houtcome), ht⟩
  · obtain ⟨houtcome, -⟩ := hrenewal.of_expired hstaleness hcache hexpired he
    cases houtcome

/-- A key is found that comes with the first fetch. -/
theorem Resolution.finds_fetched (hpeek : peek now s.cache = none) {jwks : List Jwk}
    (hf : (f r.endpoint.toString s.fetcher).1 = .ok jwks) {key : TrustedKey}
    (hfind : TrustedKey.find? (TrustedKey.usable jwks) kid = some key)
    (h : Resolution r f now kid s made (result, t)) : result = .ok key := by
  rcases h.begins with ⟨reason, -, hrenewal⟩ | ⟨first, rest, keys, u, -, hrenewal, hfound⟩
  · cases hrenewal.of_success hpeek hf
  · obtain rfl := Except.ok.inj (hrenewal.of_success hpeek hf)
    exact hfound key hfind

end Resolutions

end Remote

/-! ## Calls that fail -/

section Effects

variable {r : Remote} {f : Fetcher σ} {now : Uptime} {s t : Shared σ} {events : List Event}

theorem Effect.timely (hs : Timely now s) (h : Effect r f now s events t) : Timely now t := by
  cases h with
  | nothing => exact hs
  | resolved hresolution => exact hresolution.timely hs
  | invalidated =>
    intro c hc
    cases hc

theorem Effect.cache_of_failures (hstaleness : r.options.maxStaleness = 0)
    (hevents : ∀ ev ∈ events, ev.IsFailure) (h : Effect r f now s events t) :
    t.cache = s.cache := by
  cases h with
  | nothing => rfl
  | resolved hresolution => exact hresolution.cache_of_failures hstaleness hevents
  | invalidated =>
    obtain ⟨e, he⟩ := hevents _ (List.mem_singleton_self _)
    cases he

end Effects

namespace Guard

variable (g : Guard) (r : Remote) (f : Fetcher σ) (now : Uptime) (calls : List Call) {s : Shared σ}

theorem timely_run (hs : Timely now s) :
    Timely now ((g.withKeys (.remote r)).run f (Call.allAt now calls) s).2 := by
  refine g.run_preserves r f now (E := fun _ => True) ?_ calls hs fun _ _ => trivial
  intro s events t heffect _ hs
  exact heffect.timely hs

/-- If keys must not be used while fetching fails, failures do not touch the cache. -/
theorem cache_run_of_failures (hstaleness : r.options.maxStaleness = 0)
    (hhistory : ∀ ev ∈ (g.withKeys (.remote r)).history f (Call.allAt now calls) s, ev.IsFailure) :
    ((g.withKeys (.remote r)).run f (Call.allAt now calls) s).2.cache = s.cache := by
  refine g.run_preserves r f now (P := fun t => t.cache = s.cache) ?_ calls rfl hhistory
  intro t events u heffect hevents ht
  exact (heffect.cache_of_failures hstaleness hevents).trans ht

end Guard

/-! ## The whole of it -/

/-- **Failed fetches do no harm**: let no time pass. In each section a fetch that fails leaves the
keys in the cache alone. If keys may be used at all while fetching fails: once a fetch has brought
a key, and for as long as no other fetch succeeds and nothing is invalidated, whatever is called and
however many fetches fail, a search for the id of the key finds the key. If keys must not be used
while fetching fails: a search that finds the keys expired, and whose fetch fails, reports just this
failure and changes nothing; and after any number of failures, the search whose fetch succeeds does
what it would have done before the first of them, and finds the key if it was fetched. -/
theorem Guard.failures_are_harmless (g : Guard) (r : Remote) (f : Fetcher σ) (now : Uptime) :
    let g := g.withKeys (.remote r)
    let fetch := f r.endpoint.toString
    (∀ (s : Shared σ) (e : Rejection), (fetch s.fetcher).1 = .error e →
      (r.currentKeys f now s).2.keys = s.keys ∧ (r.refresh f now s).2.keys = s.keys) ∧
    (r.options.maxStaleness ≠ 0 → ∀ (earlier : List Call) (fetcher : σ),
      let start : Shared σ := ⟨none, fetcher⟩
      let s := (g.run f (Call.allAt now earlier) start).2
      ∀ jwks kid key, Event.latest (g.history f (Call.allAt now earlier) start) = some jwks →
        TrustedKey.find? (TrustedKey.usable jwks) kid = some key →
        ∀ failing, (∀ ev ∈ g.history f (Call.allAt now failing) s, ev.IsFailure) →
          let s' := (g.run f (Call.allAt now failing) s).2
          (∀ ev ∈ g.events f now (.resolve kid) s', ev.IsFailure) →
            (g.step f now (.resolve kid) s').1 = .key (.ok key)) ∧
    (r.options.maxStaleness = 0 → ∀ (s : Shared σ) (c : Cached), s.cache = some c →
      c.expiresAt ≤ now →
      (∀ kid e, (fetch s.fetcher).1 = .error e → g.step f now (.resolve kid) s =
        (.key (.error e), { s with fetcher := (fetch s.fetcher).2 })) ∧
      ∀ failing, (∀ ev ∈ g.history f (Call.allAt now failing) s, ev.IsFailure) →
        let s' := (g.run f (Call.allAt now failing) s).2
        ∀ kid jwks, (fetch s'.fetcher).1 = .ok jwks →
          g.step f now (.resolve kid) s' =
            g.step f now (.resolve kid) { s with fetcher := s'.fetcher } ∧
          ∀ key, TrustedKey.find? (TrustedKey.usable jwks) kid = some key →
            (g.step f now (.resolve kid) s').1 = .key (.ok key)) := by
  intro g' fetch
  refine ⟨fun s e he => ⟨?_, ?_⟩, fun hstaleness earlier fetcher => ?_,
    fun hstaleness s c hcache hexpired => ⟨?_, ?_⟩⟩
  · obtain ⟨made, -, hrenewal⟩ := r.renewal f now s.recorded
    rw [Shared.unrecorded_recorded] at hrenewal
    rw [Remote.currentKeys_eq_renew]
    exact hrenewal.keys_of_failure he
  · obtain ⟨made, -, hrefreshment⟩ := r.refreshment f now s.recorded
    rw [Shared.unrecorded_recorded] at hrefreshment
    exact hrefreshment.keys_of_failure he
  · intro start s jwks kid key hlatest hfind failing hfailing s' hresolve
    have hs : s.keys = Option.map TrustedKey.usable (some jwks) := by
      have hempty : start.keys = Option.map TrustedKey.usable none := rfl
      have hkeys := g.keys_run r f (Call.allAt now earlier) hempty
      exact hkeys.trans (congrArg (Option.map TrustedKey.usable) hlatest)
    have hs' : s'.keys = some (TrustedKey.usable jwks) := by
      have hkeys := g.keys_run r f (Call.allAt now failing) hs
      rw [Event.applyAll_of_failures hfailing] at hkeys
      exact hkeys
    have hstart : Timely now start := fun c hc => nomatch hc
    have htimely : Timely now s' :=
      g.timely_run r f now failing (g.timely_run r f now earlier hstart)
    obtain ⟨made, hevents, hresolution⟩ := g.resolution r f now kid s'
    rw [hevents] at hresolve
    have hresult : (r.resolve f now kid s').1 = .ok key :=
      hresolution.finds hstaleness htimely hs' hfind hresolve
    exact congrArg Answer.key hresult
  · intro kid e he
    obtain ⟨made, -, hresolution⟩ := g.resolution r f now kid s
    have hfetch : fetch s.fetcher = (.error e, (fetch s.fetcher).2) :=
      Prod.ext he rfl
    obtain ⟨hresult, hstate⟩ := hresolution.of_expired hstaleness hcache hexpired hfetch
    exact Prod.ext (congrArg Answer.key hresult) hstate
  · intro failing hfailing s' kid jwks hf
    have hs' : s'.cache = s.cache := g.cache_run_of_failures r f now failing hstaleness hfailing
    refine ⟨?_, fun key hfind => ?_⟩
    · rw [← hs']
    · obtain ⟨made, -, hresolution⟩ := g.resolution r f now kid s'
      have hpeek : Remote.peek now s'.cache = none := by
        rw [hs', hcache]
        exact Remote.peek_some_eq_none_iff.mpr hexpired
      have hresult : (r.resolve f now kid s').1 = .ok key :=
        hresolution.finds_fetched hpeek hf hfind
      exact congrArg Answer.key hresult

/-- Keys that expire at once, and an endpoint that answers only once. If they may be used while
fetching fails, the key that was fetched is still found after a search for another; and if they may
not, a search reports the failure. -/
theorem Guard.failures_are_harmless_after_first_fetch :
    let remote := fun staleness : UInt64 =>
      (⟨{ scheme := "keys", path := .segments [] }, ⟨0, 0, 5, staleness⟩⟩ : Remote)
    let g := fun staleness => (⟨⟨some "issuer", 0, .remote (remote staleness)⟩, ⟨none, []⟩, ⟨[]⟩,
      .reject, []⟩ : Guard)
    let down : Rejection := .keyUnavailable (.fetch .unreachable)
    let f : Fetcher Bool := fun _ up =>
      (if up then .ok [⟨some "a", "RSA", none, some "AQAB", some "AQAB"⟩] else .error down, false)
    let known := fun staleness => ((g staleness).step f 0 (.resolve (some "a")) ⟨none, true⟩).2
    let other := fun staleness => ((g staleness).step f 0 (.resolve (some "b")) (known staleness)).2
    ((g 1).step f 0 (.resolve (some "a")) (other 1)).1 =
        .key (.ok ⟨some "a", .components ⟨[1, 0, 1], [1, 0, 1]⟩⟩) ∧
      (g 0).step f 0 (.resolve (some "a")) (known 0) = (.key (.error down), known 0) := by
  intro remote g down f known other
  refine ⟨?_, ?_⟩
  · have hfound := (failures_are_harmless (g 1) (remote 1) f 0).2.1 (by decide)
      [.resolve (some "a")] true
    refine hfound _ (some "a") _ rfl (by decide +kernel) [.resolve (some "b")] ?_ ?_
    · show ∀ ev ∈ [Event.fetched (.error down), .fetched (.error down)], ev.IsFailure
      simp [Event.IsFailure]
    · show ∀ ev ∈ [Event.fetched (.error down)], ev.IsFailure
      simp [Event.IsFailure]
  · have hexpired : (0 : Uptime).deadline 0 ≤ (0 : Uptime) := by decide
    exact ((failures_are_harmless (g 0) (remote 0) f 0).2.2 rfl (known 0) _ rfl hexpired).1
      (some "a") down rfl

end RpcGuard
