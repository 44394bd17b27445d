import RpcGuard.Proofs.Keys.Recording

/-!
# The cache is current

What happens to the cache in a session is a list of events: fetches, of which each brings a document
or fails, and invalidations. However these follow one another, the cache holds the usable keys of
the last document that was fetched since the last invalidation, and nothing if there is none
(`Guard.cache_is_current`). The times of the calls and the durations in the options decide when
keys are fetched, but nothing else.

The argument is on the recording fetcher: each operation on the cache adds some fetches to the
record and `Advances` the cache by just these.
-/

namespace RpcGuard

/-! ## Events -/

/-- Something that matters to the cache. -/
inductive Event where
  | fetched (outcome : FetchOutcome)
  | invalidated

namespace Event

/-- The document to have in the cache after an event. -/
def apply (document : Option (List Jwk)) : Event → Option (List Jwk)
  | fetched (.ok jwks) => some jwks
  | fetched (.error _) => document
  | invalidated => none

/-- The document to have in the cache after some events. -/
def applyAll (document : Option (List Jwk)) (events : List Event) : Option (List Jwk) :=
  events.foldl apply document

theorem applyAll_append (document : Option (List Jwk)) (events events' : List Event) :
    applyAll document (events ++ events') = applyAll (applyAll document events) events' :=
  List.foldl_append

/-- The document of the last fetch that succeeded, if there was one since the last invalidation. -/
def latest (events : List Event) : Option (List Jwk) := applyAll none events

theorem latest_append (events events' : List Event) :
    latest (events ++ events') = applyAll (latest events) events' :=
  applyAll_append none events events'

end Event

namespace Guard

variable {σ : Type}

/-- The fetches that a call makes. -/
def fetches (g : Guard) (f : Fetcher σ) (uptime : Uptime) (c : Call) (s : Shared σ) :
    List FetchOutcome :=
  (g.step f.recorded uptime c s.recorded).2.fetcher.2

/-- What a call does that matters to the cache. -/
def events (g : Guard) (f : Fetcher σ) (uptime : Uptime) (c : Call) (s : Shared σ) : List Event :=
  match c with
  | .invalidate => [.invalidated]
  | c => (g.fetches f uptime c s).map .fetched

/-- The events of a session. -/
def history (g : Guard) (f : Fetcher σ) : List (Uptime × Call) → Shared σ → List Event
  | [], _ => []
  | (uptime, c) :: calls, s =>
    g.events f uptime c s ++ g.history f calls (g.step f uptime c s).2

end Guard

/-! ## Operations on the cache -/

/-- The keys in the cache. -/
def Shared.keys {τ : Type} (s : Shared τ) : Option (List TrustedKey) := s.cache.map Cached.keys

/-- Keys that are current are in the cache. -/
theorem Shared.keys_of_peek {τ : Type} {now : Uptime} {s : Shared τ} {keys : List TrustedKey}
    (h : Remote.peek now s.cache = some keys) : s.keys = some keys := by
  unfold Remote.peek at h
  unfold Shared.keys
  cases hcache : s.cache with
  | none =>
    rw [hcache] at h
    cases h
  | some c =>
    rw [hcache, Option.filter_some] at h
    split at h
    · exact h
    · cases h

/-- The record has grown by these fetches of the endpoint, and the cache is what they make of it. -/
structure Advances {σ : Type} (r : Remote) (f : Fetcher σ)
    (s next : Shared (σ × List FetchOutcome)) (made : List FetchOutcome) : Prop where
  record : next.fetcher.2 = s.fetcher.2 ++ made
  answered : ∀ outcome ∈ made, ∃ t, (f r.endpoint.toString t).1 = outcome
  keys : ∀ document, s.keys = document.map TrustedKey.usable →
    next.keys = (Event.applyAll document (made.map .fetched)).map TrustedKey.usable

namespace Advances

variable {σ : Type} {r : Remote} {f : Fetcher σ} {s next last : Shared (σ × List FetchOutcome)}

theorem refl (s : Shared (σ × List FetchOutcome)) : Advances r f s s [] where
  record := (List.append_nil _).symm
  answered _ h := absurd h List.not_mem_nil
  keys _ h := h

theorem trans {made made' : List FetchOutcome} (h : Advances r f s next made)
    (h' : Advances r f next last made') : Advances r f s last (made ++ made') where
  record := by rw [h'.record, h.record, List.append_assoc]
  answered outcome hmem := by
    rcases List.mem_append.mp hmem with hmem | hmem
    · exact h.answered outcome hmem
    · exact h'.answered outcome hmem
  keys document hkeys := by
    rw [List.map_append, Event.applyAll_append]
    exact h'.keys _ (h.keys document hkeys)

/-- Nothing but the keys in the cache counts, not their dates. -/
theorem of_keys_eq {made : List FetchOutcome} (h : Advances r f s next made)
    (hrecord : last.fetcher.2 = next.fetcher.2) (hkeys : last.keys = next.keys) :
    Advances r f s last made where
  record := hrecord.trans h.record
  answered := h.answered
  keys document hs := hkeys.trans (h.keys document hs)

end Advances

namespace Remote

variable {σ : Type} (r : Remote) (f : Fetcher σ) (now : Uptime)
  (s : Shared (σ × List FetchOutcome))

/-- A fetch is on record, and its keys are in the cache if it succeeds. -/
theorem fetch_spec : ∃ outcome, Advances r f s (r.fetch f.recorded now s).2 [outcome] ∧
    match (r.fetch f.recorded now s).1 with
    | .ok keys => (r.fetch f.recorded now s).2.keys = some keys
    | .error e => outcome = .error e ∧ (r.fetch f.recorded now s).2.cache = s.cache := by
  have hanswered : ∀ outcome ∈ [(f r.endpoint.toString s.fetcher.1).1],
      ∃ t, (f r.endpoint.toString t).1 = outcome := by
    intro outcome hmem
    exact ⟨s.fetcher.1, (List.mem_singleton.mp hmem).symm⟩
  unfold fetch Fetcher.recorded
  dsimp only
  generalize f r.endpoint.toString s.fetcher.1 = out at hanswered ⊢
  obtain ⟨reason | jwks, next⟩ := out
  · exact ⟨.error reason, ⟨rfl, hanswered, fun _ h => h⟩, rfl, rfl⟩
  · exact ⟨.ok jwks, ⟨rfl, hanswered, fun _ _ => rfl⟩, rfl⟩

/-- What an operation that looks for keys gives: the keys in the cache, or the failure of one of the
fetches that it made. -/
def Serves (out : Except Rejection (List TrustedKey) × Shared (σ × List FetchOutcome))
    (made : List FetchOutcome) : Prop :=
  match out.1 with
  | .ok keys => out.2.keys = some keys
  | .error e => .error e ∈ made

theorem renew_spec : ∃ made, Advances r f s (r.renew f.recorded now s).2 made ∧
    Serves (r.renew f.recorded now s) made := by
  unfold renew
  cases hpeek : peek now s.cache with
  | some keys => exact ⟨[], .refl s, Shared.keys_of_peek hpeek⟩
  | none =>
    dsimp only
    obtain ⟨outcome, hadvances, hserves⟩ := r.fetch_spec f now s
    generalize r.fetch f.recorded now s = out at hadvances hserves ⊢
    obtain ⟨reason | keys, next⟩ := out
    · obtain ⟨rfl, hcache⟩ := hserves
      dsimp only
      cases hnext : next.cache with
      | none => exact ⟨_, hadvances, List.mem_singleton_self _⟩
      | some c =>
        dsimp only
        split
        · -- keys that are served although they are old stay what they are
          have hkeys : next.keys = some c.keys := by
            unfold Shared.keys
            rw [hnext]
            rfl
          exact ⟨_, hadvances.of_keys_eq rfl hkeys.symm, rfl⟩
        · exact ⟨_, hadvances, List.mem_singleton_self _⟩
    · exact ⟨_, hadvances, hserves⟩

theorem refresh_spec : ∃ made, Advances r f s (r.refresh f.recorded now s).2 made ∧
    Serves (r.refresh f.recorded now s) made := by
  unfold refresh
  split
  · next c hfilter =>
    obtain ⟨hcache, -⟩ := Option.filter_eq_some_iff.mp hfilter
    refine ⟨[], .refl s, ?_⟩
    show s.keys = some c.keys
    unfold Shared.keys
    rw [hcache]
    rfl
  · obtain ⟨outcome, hadvances, hserves⟩ := r.fetch_spec f now s
    generalize r.fetch f.recorded now s = out at hadvances hserves ⊢
    obtain ⟨reason | keys, next⟩ := out
    · obtain ⟨rfl, -⟩ := hserves
      exact ⟨_, hadvances, List.mem_singleton_self _⟩
    · exact ⟨_, hadvances, hserves⟩

theorem currentKeys_spec : ∃ made, Advances r f s (r.currentKeys f.recorded now s).2 made ∧
    Serves (r.currentKeys f.recorded now s) made := by
  unfold currentKeys
  cases hpeek : peek now s.cache with
  | some keys => exact ⟨[], .refl s, Shared.keys_of_peek hpeek⟩
  | none => exact r.renew_spec f now s

/-- What a search for a key gives: the first key with the id among those in the cache, the failure
of one of the fetches that it made, or the report that no key in the cache has the id. -/
def Finds (kid : Option String)
    (out : Except Rejection TrustedKey × Shared (σ × List FetchOutcome))
    (made : List FetchOutcome) : Prop :=
  match out.1 with
  | .ok key => ∃ keys, out.2.keys = some keys ∧ TrustedKey.find? keys kid = some key
  | .error e => .error e ∈ made ∨
      e = .keyUnavailable (.unknownKid kid) ∧
        ∃ keys, out.2.keys = some keys ∧ TrustedKey.find? keys kid = none

theorem resolve_spec (kid : Option String) :
    ∃ made, Advances r f s (r.resolve f.recorded now kid s).2 made ∧
      Finds kid (r.resolve f.recorded now kid s) made := by
  unfold resolve
  obtain ⟨made, hadvances, hserves⟩ := r.currentKeys_spec f now s
  generalize r.currentKeys f.recorded now s = out at hadvances hserves ⊢
  obtain ⟨reason | keys, next⟩ := out
  · exact ⟨made, hadvances, .inl hserves⟩
  · dsimp only
    cases hfind : TrustedKey.find? keys kid with
    | some key => exact ⟨made, hadvances, keys, hserves, hfind⟩
    | none =>
      dsimp only
      obtain ⟨made', hadvances', hserves'⟩ := r.refresh_spec f now next
      generalize r.refresh f.recorded now next = out' at hadvances' hserves' ⊢
      obtain ⟨reason' | keys', last⟩ := out'
      · exact ⟨_, hadvances.trans hadvances', .inl (List.mem_append_right _ hserves')⟩
      · dsimp only
        cases hfind' : TrustedKey.find? keys' kid with
        | some key => exact ⟨_, hadvances.trans hadvances', keys', hserves', hfind'⟩
        | none => exact ⟨_, hadvances.trans hadvances', .inr ⟨rfl, keys', hserves', hfind'⟩⟩

end Remote

/-! ## Sessions -/

namespace Guard

variable {σ : Type} (g : Guard) (r : Remote) (f : Fetcher σ)

theorem step_recorded (uptime : Uptime) (c : Call) (s : Shared σ) :
    (g.step f uptime c s).1 = (g.step f.recorded uptime c s.recorded).1 ∧
      (g.step f uptime c s).2 = (g.step f.recorded uptime c s.recorded).2.unrecorded := by
  rw [step_eq_stepWith, step_eq_stepWith]
  obtain ⟨hanswer, hstate⟩ :=
    g.stepWith_of_simulates (g.verifier.keys.service_recorded f) s.unrecorded_recorded uptime c
  exact ⟨hanswer.symm, hstate.symm⟩

/-- A call advances the cache by the fetches that it makes, if it does not empty it. -/
theorem advances_step (uptime : Uptime) {c : Call} (hc : c ≠ .invalidate) (s : Shared σ) :
    Advances r f s.recorded ((g.withKeys (.remote r)).step f.recorded uptime c s.recorded).2
      ((g.withKeys (.remote r)).fetches f uptime c s) := by
  have hmade : ∃ made, Advances r f s.recorded
      ((g.withKeys (.remote r)).step f.recorded uptime c s.recorded).2 made := by
    rw [step_withKeys]
    rcases g.stepWith_snd ((KeySource.remote r).service f.recorded) uptime c s.recorded with
      h | ⟨kid, h⟩ | ⟨h, -⟩
    · exact ⟨[], h.symm ▸ .refl s.recorded⟩
    · obtain ⟨made, hadvances, -⟩ := r.resolve_spec f uptime s.recorded kid
      exact ⟨made, h.symm ▸ hadvances⟩
    · exact absurd h hc
  obtain ⟨made, hadvances⟩ := hmade
  -- the record was empty before, so all that is in it now was made by the call
  have hfetches : (g.withKeys (.remote r)).fetches f uptime c s = made := hadvances.record
  rw [hfetches]
  exact hadvances

/-- A call that does not empty the cache does nothing to it but fetch. -/
theorem events_of_ne_invalidate (uptime : Uptime) {c : Call} (hc : c ≠ .invalidate) (s : Shared σ) :
    g.events f uptime c s = (g.fetches f uptime c s).map .fetched := by
  cases c with
  | invalidate => exact absurd rfl hc
  | resolve kid => rfl
  | verify now token => rfl
  | authorize now path hs => rfl

/-- A call makes of the cache what its events say. -/
theorem keys_step (uptime : Uptime) (c : Call) {s : Shared σ} {document : Option (List Jwk)}
    (hs : s.keys = document.map TrustedKey.usable) :
    ((g.withKeys (.remote r)).step f uptime c s).2.keys =
      (Event.applyAll document ((g.withKeys (.remote r)).events f uptime c s)).map
        TrustedKey.usable := by
  by_cases hc : c = .invalidate
  · subst hc
    rfl
  · rw [((g.withKeys (.remote r)).step_recorded f uptime c s).2,
      events_of_ne_invalidate _ f uptime hc s]
    exact (g.advances_step r f uptime hc s).keys document hs

/-- A session makes of the cache what its history says. -/
theorem keys_run (calls : List (Uptime × Call)) {s : Shared σ} {document : Option (List Jwk)}
    (hs : s.keys = document.map TrustedKey.usable) :
    ((g.withKeys (.remote r)).run f calls s).2.keys =
      (Event.applyAll document ((g.withKeys (.remote r)).history f calls s)).map
        TrustedKey.usable := by
  induction calls generalizing s document with
  | nil => exact hs
  | cons call calls ih =>
    obtain ⟨uptime, c⟩ := call
    have hstep := g.keys_step r f uptime c hs
    show ((g.withKeys (.remote r)).run f calls
      ((g.withKeys (.remote r)).step f uptime c s).2).2.keys = _
    rw [ih hstep, history, Event.applyAll_append]

/-- A search for a key, in terms of the events that it adds to the history. -/
theorem resolve_finds (uptime : Uptime) (kid : Option String) {s : Shared σ}
    {document document' : Option (List Jwk)} (hs : s.keys = document.map TrustedKey.usable)
    (hdocument' : document' = Event.applyAll document
      ((g.withKeys (.remote r)).events f uptime (.resolve kid) s)) :
    match (r.resolve f uptime kid s).1 with
    | .ok key => ∃ jwks, document' = some jwks ∧
        TrustedKey.find? (TrustedKey.usable jwks) kid = some key
    | .error e =>
      .error e ∈ (g.withKeys (.remote r)).fetches f uptime (.resolve kid) s ∨
      e = .keyUnavailable (.unknownKid kid) ∧ ∃ jwks, document' = some jwks ∧
        TrustedKey.find? (TrustedKey.usable jwks) kid = none := by
  obtain ⟨made, hadvances, hfinds⟩ := r.resolve_spec f uptime s.recorded kid
  have hfetches : (g.withKeys (.remote r)).fetches f uptime (.resolve kid) s = made :=
    hadvances.record
  have hevents : (g.withKeys (.remote r)).events f uptime (.resolve kid) s = made.map .fetched :=
    congrArg (List.map Event.fetched) hfetches
  have hkeys : (r.resolve f.recorded uptime kid s.recorded).2.keys =
      document'.map TrustedKey.usable := by
    rw [hdocument', hevents]
    exact hadvances.keys document hs
  have hanswer : (r.resolve f uptime kid s).1 =
      (r.resolve f.recorded uptime kid s.recorded).1 :=
    congrArg Prod.fst (r.resolve_recorded f uptime s.recorded kid)
  rw [hanswer, hfetches]
  unfold Remote.Finds at hfinds
  split
  · next key hkey =>
    rw [hkey] at hfinds
    obtain ⟨keys, hcached, hfind⟩ := hfinds
    obtain ⟨jwks, hjwks, rfl⟩ := Option.map_eq_some_iff.mp (hkeys.symm.trans hcached)
    exact ⟨jwks, hjwks, hfind⟩
  · next reason hreason =>
    rw [hreason] at hfinds
    rcases hfinds with hfetch | ⟨hunknown, keys, hcached, hfind⟩
    · exact .inl hfetch
    · obtain ⟨jwks, hjwks, rfl⟩ := Option.map_eq_some_iff.mp (hkeys.symm.trans hcached)
      exact .inr ⟨hunknown, jwks, hjwks, hfind⟩

/-- **Currency of the cache**: after every session that began with an empty cache, whatever the
fetcher did, the cache holds the usable keys of the document that was fetched last since the last
invalidation. A search for a key at any time then finds the first of them with the key id; or it
reports a fetch that it made itself, or that none of them has the key id. -/
theorem cache_is_current (calls : List (Uptime × Call)) (fetcher : σ) :
    let g := g.withKeys (.remote r)
    let start : Shared σ := ⟨none, fetcher⟩
    let s := (g.run f calls start).2
    s.keys = (Event.latest (g.history f calls start)).map TrustedKey.usable ∧
      ∀ uptime kid,
        let document :=
          Event.latest (g.history f calls start ++ g.events f uptime (.resolve kid) s)
        (∀ key, (g.step f uptime (.resolve kid) s).1 = .key (.ok key) →
          ∃ jwks before after, document = some jwks ∧
            TrustedKey.usable jwks = before ++ key :: after ∧ key.kid = kid ∧
            ∀ k ∈ before, k.kid ≠ kid) ∧
        ∀ e, (g.step f uptime (.resolve kid) s).1 = .key (.error e) →
          .error e ∈ g.fetches f uptime (.resolve kid) s ∨
            e = .keyUnavailable (.unknownKid kid) ∧
              ∃ jwks, document = some jwks ∧ ∀ k ∈ TrustedKey.usable jwks, k.kid ≠ kid := by
  intro g' start s
  have hs : s.keys = (Event.latest (g'.history f calls start)).map TrustedKey.usable :=
    keys_run g r f calls rfl
  refine ⟨hs, fun uptime kid => ?_⟩
  intro document
  have hfinds := g.resolve_finds r f uptime kid hs (Event.latest_append _ _)
  constructor
  · intro key hanswer
    have hresolve : (r.resolve f uptime kid s).1 = .ok key := Answer.key.inj hanswer
    rw [hresolve] at hfinds
    obtain ⟨jwks, hdocument, hfind⟩ := hfinds
    obtain ⟨hkid, before, after, hsplit, hbefore⟩ := List.find?_eq_some_iff_append.mp hfind
    refine ⟨jwks, before, after, hdocument, hsplit, of_decide_eq_true hkid, fun k hk => ?_⟩
    exact of_decide_eq_false (Bool.not_eq_true' _ ▸ hbefore k hk)
  · intro reason hanswer
    have hresolve : (r.resolve f uptime kid s).1 = .error reason := Answer.key.inj hanswer
    rw [hresolve] at hfinds
    rcases hfinds with hfetch | ⟨rfl, jwks, hdocument, hfind⟩
    · exact .inl hfetch
    · refine .inr ⟨rfl, jwks, hdocument, fun k hk hkid => ?_⟩
      exact List.find?_eq_none.mp hfind k hk (decide_eq_true hkid)

end Guard

end RpcGuard
