import RpcGuard.Proofs.Credentials
import RpcGuard.Proofs.Keys.Failure
import RpcGuard.Proofs.Lookup

/-!
# What calls cost

Every fetch is a burden on the endpoint that publishes the keys, so it matters how many of them a
call can make. `Guard.fetches_within_budget` says so for sessions in which no time passes. A search
makes two fetches at most, and if there is a cooldown, only one: then the keys that a renewal finds
are so recent that no refresh follows, and a search is nothing but its renewal
(`Resolution.renewal_of_timely`). With a cooldown, a failed fetch for which the old keys had to
serve is also the last one until the cache is emptied: it leaves the cache `Settled`, and a call
that finds it so does nothing to it.

A call that `EndsEarly` does not come to a search at all. This needs no assumption about time.
-/

namespace RpcGuard

open Jwt (Anatomy Malformed Token)

variable {σ : Type}

/-! ## Searches -/

/-- The keys in the cache were fetched just now, and are current. -/
def Settled (now : Uptime) (s : Shared σ) : Prop :=
  ∃ c, s.cache = some c ∧ c.fetchedAt = now ∧ now < c.expiresAt

namespace Remote

/-- The keys in the cache have expired, the fetch for others fails, and they are used all the
same. -/
def ServesStale (r : Remote) (f : Fetcher σ) (now : Uptime) (s : Shared σ) : Prop :=
  ∃ c e next, s.cache = some c ∧ c.expiresAt ≤ now ∧
    f r.endpoint.toString s.fetcher = (.error e, next) ∧
    (r.currentKeys f now s).1 = .ok c.keys

variable {r : Remote} {f : Fetcher σ} {now : Uptime} {s t : Shared σ} {made : List FetchOutcome}
  {kid : Option String}

section Renewals

variable {outcome : Except Rejection (List TrustedKey)}

theorem Renewal.length_le (h : Renewal r f now s made (outcome, t)) : made.length ≤ 1 := by
  cases h with
  | current hpeek => exact Nat.zero_le 1
  | fetched hpeek hfetch => exact Nat.le_refl 1
  | stale hpeek hfetch hcache hage => exact Nat.le_refl 1
  | failed hpeek hfetch hage => exact Nat.le_refl 1

theorem Refreshment.length_le (h : Refreshment r f now s made (outcome, t)) :
    made.length ≤ 1 := by
  cases h with
  | recent hcache hage => exact Nat.zero_le 1
  | fetched hold hfetch => exact Nat.le_refl 1
  | failed hold hfetch => exact Nat.le_refl 1

/-- A renewal that finds keys leaves keys in the cache. -/
theorem Renewal.cache_ne_none {keys : List TrustedKey}
    (h : Renewal r f now s made (.ok keys, t)) : t.cache ≠ none := by
  intro hnone
  cases h with
  | current hpeek =>
    rw [hnone] at hpeek
    cases hpeek
  | fetched hpeek hfetch => cases hnone
  | stale hpeek hfetch hcache hage => cases hnone

/-- A renewal does nothing if the keys in the cache are current. -/
theorem Renewal.of_current {c : Cached} (hcache : s.cache = some c) (hcurrent : now < c.expiresAt)
    (h : Renewal r f now s made (outcome, t)) : outcome = .ok c.keys ∧ made = [] ∧ t = s := by
  have hpeek : peek now s.cache = some c.keys := by
    rw [hcache]
    exact peek_some_eq_some_iff.mpr ⟨hcurrent, rfl⟩
  cases h with
  | current hpeek' =>
    obtain rfl := Option.some.inj (hpeek.symm.trans hpeek')
    exact ⟨rfl, rfl, rfl⟩
  | fetched hnone hfetch => cases hpeek.symm.trans hnone
  | stale hnone hfetch hcache hage => cases hpeek.symm.trans hnone
  | failed hnone hfetch hage => cases hpeek.symm.trans hnone

/-- If there is a cooldown, a refresh does nothing to keys of just now. -/
theorem Refreshment.of_timely (hcooldown : r.options.cooldown ≠ 0) (hs : Timely now s)
    (hcache : s.cache ≠ none) (h : Refreshment r f now s made (outcome, t)) :
    made = [] ∧ t = s := by
  obtain ⟨c, hc⟩ := Option.ne_none_iff_exists'.mp hcache
  -- a refresh that fetches found the keys at least as old as the cooldown is long
  have hrecent : ¬∀ c, s.cache = some c → r.options.cooldown.toNat ≤ now - c.fetchedAt := by
    intro hold
    exact Nat.not_le.mpr (hs.age_lt hc hcooldown) (hold c hc)
  cases h with
  | recent hcache hage => exact ⟨rfl, rfl⟩
  | fetched hold hfetch => exact absurd hold hrecent
  | failed hold hfetch => exact absurd hold hrecent

/-- A renewal that fails to fetch makes the keys in the cache do, if there are any and they may be
used for some time. If there is a cooldown, they are current again. -/
theorem Renewal.of_failure (hcooldown : r.options.cooldown ≠ 0)
    (hstaleness : r.options.maxStaleness ≠ 0) (hs : Timely now s) (hcache : s.cache ≠ none)
    (hmade : ∃ e, .error e ∈ made) (h : Renewal r f now s made (outcome, t)) :
    ServesStale r f now s ∧ Settled now t := by
  obtain ⟨e, he⟩ := hmade
  cases h with
  | current hpeek => exact absurd he List.not_mem_nil
  | fetched hpeek hfetch => cases List.mem_singleton.mp he
  | @stale c e' next hpeek hfetch hc hage =>
    have hkeys : (r.currentKeys f now s).1 = .ok c.keys := by
      rw [currentKeys_eq_renew]
      unfold renew
      rw [hpeek, fetch_of_error now hfetch]
      simp only [hc, if_pos hage]
    have hexpired : c.expiresAt ≤ now := by
      rw [hc] at hpeek
      exact peek_some_eq_none_iff.mp hpeek
    have hcurrent : now < now.deadline r.options.cooldown := Uptime.lt_deadline_iff.mpr hcooldown
    exact ⟨⟨c, e', next, hc, hexpired, hfetch, hkeys⟩, _, rfl, hs c hc, hcurrent⟩
  | failed hpeek hfetch hold =>
    obtain ⟨c, hc⟩ := Option.ne_none_iff_exists'.mp hcache
    exact absurd (hold c hc) (Nat.not_le.mpr (hs.age_lt hc hstaleness))

end Renewals

section Resolutions

variable {result : Except Rejection TrustedKey}

theorem Resolution.length_le (h : Resolution r f now kid s made (result, t)) :
    made.length ≤ 2 := by
  cases h with
  | unavailable hrenewal => exact Nat.le_succ_of_le hrenewal.length_le
  | found hrenewal hfind => exact Nat.le_succ_of_le hrenewal.length_le
  | refused hrenewal hfind hrefreshment =>
    rw [List.length_append]
    exact Nat.add_le_add hrenewal.length_le hrefreshment.length_le
  | sought hrenewal hfind hrefreshment =>
    rw [List.length_append]
    exact Nat.add_le_add hrenewal.length_le hrefreshment.length_le

/-- If there is a cooldown and no time passes, a search does what its renewal does. -/
theorem Resolution.renewal_of_timely (hcooldown : r.options.cooldown ≠ 0) (hs : Timely now s)
    (h : Resolution r f now kid s made (result, t)) :
    ∃ outcome, Renewal r f now s made (outcome, t) := by
  cases h with
  | unavailable hrenewal => exact ⟨_, hrenewal⟩
  | found hrenewal hfind => exact ⟨_, hrenewal⟩
  | refused hrenewal hfind hrefreshment =>
    obtain ⟨rfl, rfl⟩ :=
      hrefreshment.of_timely hcooldown (hrenewal.timely hs) hrenewal.cache_ne_none
    rw [List.append_nil]
    exact ⟨_, hrenewal⟩
  | sought hrenewal hfind hrefreshment =>
    obtain ⟨rfl, rfl⟩ :=
      hrefreshment.of_timely hcooldown (hrenewal.timely hs) hrenewal.cache_ne_none
    rw [List.append_nil]
    exact ⟨_, hrenewal⟩

/-- A key that is in the cache, and current, costs no fetch. -/
theorem Resolution.made_eq_nil {c : Cached} (hcache : s.cache = some c)
    (hcurrent : now < c.expiresAt) {key : TrustedKey}
    (hfind : TrustedKey.find? c.keys kid = some key)
    (h : Resolution r f now kid s made (result, t)) : made = [] := by
  cases h with
  | unavailable hrenewal => exact (hrenewal.of_current hcache hcurrent).2.1
  | found hrenewal hfound => exact (hrenewal.of_current hcache hcurrent).2.1
  | refused hrenewal hnone hrefreshment =>
    obtain ⟨houtcome, -⟩ := hrenewal.of_current hcache hcurrent
    obtain rfl := Except.ok.inj houtcome
    cases hnone.symm.trans hfind
  | sought hrenewal hnone hrefreshment =>
    obtain ⟨houtcome, -⟩ := hrenewal.of_current hcache hcurrent
    obtain rfl := Except.ok.inj houtcome
    cases hnone.symm.trans hfind

end Resolutions

end Remote

/-! ## Calls that search -/

theorem Settled.timely {now : Uptime} {s : Shared σ} (h : Settled now s) : Timely now s := by
  obtain ⟨c, hcache, hfetched, -⟩ := h
  intro c' hc'
  obtain rfl := Option.some.inj (hcache.symm.trans hc')
  exact hfetched

namespace Guard

variable (g : Guard) {r : Remote} (f : Fetcher σ) {now : Uptime} {s : Shared σ}

/-- A call is idle or does what a search does, if it does not empty the cache. -/
theorem idle_or_search (r : Remote) (now : Uptime) {c : Call} (hc : c ≠ .invalidate)
    (s : Shared σ) :
    let made := (g.withKeys (.remote r)).fetches f now c s
    let t := ((g.withKeys (.remote r)).step f now c s).2
    (made = [] ∧ t = s) ∨
      ∃ kid result, Remote.Resolution r f now kid s made (result, t) := by
  intro made t
  have heffect : Effect r f now s (made.map .fetched) t := by
    rw [← events_of_ne_invalidate _ f now hc s]
    exact g.effect r f now c s
  -- an effect is taken apart by its events, of which only an invalidation is no fetch
  generalize hevents : made.map Event.fetched = events at heffect
  clear_value t
  cases heffect with
  | nothing => exact .inl ⟨List.map_eq_nil_iff.mp hevents, rfl⟩
  | @resolved kid made' result _ hresolution =>
    have hinj : Function.Injective Event.fetched := fun _ _ h => Event.fetched.inj h
    obtain rfl : made = made' := hinj.list_map hevents
    exact .inr ⟨kid, result, hresolution⟩
  | invalidated =>
    have hmem : Event.invalidated ∈ made.map Event.fetched := by
      rw [hevents]
      exact List.mem_singleton_self _
    obtain ⟨outcome, -, houtcome⟩ := List.mem_map.mp hmem
    cases houtcome

/-- What holds of no fetches and of those of every search, holds of those of every call. -/
theorem fetches_induction {P : List FetchOutcome → Prop} (hnil : P [])
    (hsearch : ∀ kid made result t, Remote.Resolution r f now kid s made (result, t) → P made)
    (c : Call) : P ((g.withKeys (.remote r)).fetches f now c s) := by
  by_cases hc : c = .invalidate
  · subst hc
    exact hnil
  · rcases g.idle_or_search f r now hc s with ⟨hidle, -⟩ | ⟨kid, result, hresolution⟩
    · rw [hidle]
      exact hnil
    · exact hsearch kid _ result _ hresolution

/-- A call of a guard whose cache is settled does nothing, unless it empties the cache. -/
theorem idle_of_settled (hcooldown : r.options.cooldown ≠ 0) (hs : Settled now s) {c : Call}
    (hc : c ≠ .invalidate) :
    (g.withKeys (.remote r)).fetches f now c s = [] ∧
      ((g.withKeys (.remote r)).step f now c s).2 = s := by
  rcases g.idle_or_search f r now hc s with hidle | ⟨kid, result, hresolution⟩
  · exact hidle
  · obtain ⟨outcome, hrenewal⟩ := hresolution.renewal_of_timely hcooldown hs.timely
    obtain ⟨c, hcache, -, hcurrent⟩ := hs
    exact (hrenewal.of_current hcache hcurrent).2

/-- Nothing happens to a settled cache until it is emptied. -/
theorem history_of_settled (hcooldown : r.options.cooldown ≠ 0) (hs : Settled now s)
    {calls : List Call} (hcalls : .invalidate ∉ calls) :
    (g.withKeys (.remote r)).history f (Call.allAt now calls) s = [] := by
  induction calls with
  | nil => rfl
  | cons c calls ih =>
    obtain ⟨hc, hrest⟩ := List.ne_and_not_mem_of_not_mem_cons hcalls
    obtain ⟨hfetches, hstate⟩ := g.idle_of_settled f hcooldown hs hc.symm
    -- the rest of the session starts where the call did
    show (g.withKeys (.remote r)).events f now c s ++
      (g.withKeys (.remote r)).history f (Call.allAt now calls)
        ((g.withKeys (.remote r)).step f now c s).2 = []
    rw [events_of_ne_invalidate _ f now hc.symm s, hfetches, hstate, ih hrest]
    rfl

/-- A call whose fetch fails while keys are in the cache has used these, and leaves them settled. -/
theorem settled_of_failure (hcooldown : r.options.cooldown ≠ 0)
    (hstaleness : r.options.maxStaleness ≠ 0) (hs : Timely now s) (hcache : s.cache ≠ none)
    {c : Call} (hfailed : ∃ e, .error e ∈ (g.withKeys (.remote r)).fetches f now c s) :
    r.ServesStale f now s ∧ Settled now ((g.withKeys (.remote r)).step f now c s).2 := by
  have hc : c ≠ .invalidate := by
    rintro rfl
    obtain ⟨e, he⟩ := hfailed
    exact absurd he List.not_mem_nil
  rcases g.idle_or_search f r now hc s with ⟨hidle, -⟩ | ⟨kid, result, hresolution⟩
  · rw [hidle] at hfailed
    obtain ⟨e, he⟩ := hfailed
    exact absurd he List.not_mem_nil
  · obtain ⟨outcome, hrenewal⟩ := hresolution.renewal_of_timely hcooldown hs
    exact hrenewal.of_failure hcooldown hstaleness hs hcache hfailed

end Guard

/-! ## Calls that end early -/

namespace Guard

/-- The reasons to decide about a call without a search for a key. -/
inductive EndsEarly (g : Guard) (path : String) (hs : Headers) : Prop where
  | skipped : (serviceAndMethod path).1 ∈ g.skipped → EndsEarly g path hs
  | noHeader : (∀ h ∈ hs, h.1 ≠ "authorization") → EndsEarly g path hs
  | unreadable {value : Bytes} : hs.FirstIs "authorization" value →
      (∃ b ∈ value, ¬IsVisible b) → EndsEarly g path hs
  | blank {value : Bytes} : hs.FirstIs "authorization" value →
      Text.Blank (headerText value) → EndsEarly g path hs
  | otherScheme {scheme token : List Char} : Presents hs scheme token →
      isBearer scheme = false → EndsEarly g path hs
  | noToken {scheme : List Char} : Presents hs scheme [] → EndsEarly g path hs
  /-- The token has not three segments, or its header or its payload cannot be read. -/
  | malformed {scheme : List Char} {token : String} {fault : TokenFault} :
      Presents hs scheme token.toList → Malformed token fault → EndsEarly g path hs

variable {g : Guard} {path : String} {hs : Headers}

/-- Without credentials a call ends early. -/
theorem endsEarly_of_credentials {reason : Rejection} (h : credentials hs = .error reason) :
    EndsEarly g path hs := by
  cases hfirst : hs.first? "authorization" with
  | none =>
    refine .noHeader fun header hmem hname => ?_
    have hother := List.lookup_eq_none_iff.mp hfirst header hmem
    rw [hname] at hother
    cases hother
  | some value =>
    have hvalue := Headers.first?_eq_some_iff.mp hfirst
    by_cases hodd : ∃ b ∈ value, ¬IsVisible b
    · exact .unreadable hvalue hodd
    · refine .blank hvalue ?_
      by_contra hsolid
      have hvisible : ∀ b ∈ value, IsVisible b :=
        fun b hb => by_contra fun hnot => hodd ⟨b, hb, hnot⟩
      have hne := mt Text.trimChars_eq_nil_iff.mp hsolid
      have hread := credentials_eq_ok_iff.mpr ⟨value, hvalue, hvisible, rfl, hne⟩
      cases h.symm.trans hread

/-- No bearer token is read if the scheme is another, or if nothing follows it. -/
theorem exists_bearerToken_eq_error {service : String} {scheme token : List Char}
    (h : Presents hs scheme token) (hnone : isBearer scheme = false ∨ token = []) :
    ∃ decision, g.bearerToken service hs = .error decision := by
  rw [bearerToken_of_presents h]
  by_cases hscheme : isBearer scheme = true
  · have hnil : token = [] := hnone.resolve_left (ne_false_of_eq_true hscheme)
    rw [if_pos hscheme, if_pos hnil]
    exact ⟨_, rfl⟩
  · rw [if_neg hscheme]
    split
    · exact ⟨_, rfl⟩
    · exact ⟨_, rfl⟩

/-- A call that ends early is skipped, or no bearer token is read, or one that is malformed. -/
theorem endsEarly_iff :
    EndsEarly g path hs ↔
      (serviceAndMethod path).1 ∈ g.skipped ∨
        (∃ decision, g.bearerToken (serviceAndMethod path).1 hs = .error decision) ∨
        ∃ token fault, g.bearerToken (serviceAndMethod path).1 hs = .ok token ∧
          Malformed token fault := by
  generalize hservice : (serviceAndMethod path).1 = service
  constructor
  · intro h
    -- a header that presents nothing is no better than none
    have hnothing : (∀ scheme token, ¬Presents hs scheme token) →
        ∃ decision, g.bearerToken service hs = .error decision := by
      intro hnone
      obtain ⟨reason, hread⟩ := bearerToken_of_not_presents g service hnone
      exact ⟨_, hread⟩
    cases h with
    | skipped hskip => exact .inl (hservice ▸ hskip)
    | noHeader hnone =>
      refine .inr (.inl (hnothing ?_))
      rintro scheme token ⟨value, ⟨before, after, rfl, -⟩, -⟩
      exact hnone _ (List.mem_append_right _ List.mem_cons_self) rfl
    | unreadable hfirst hodd =>
      refine .inr (.inl (hnothing ?_))
      rintro scheme token ⟨value, hvalue, hvisible, -⟩
      obtain ⟨b, hb, hnot⟩ := hodd
      exact hnot (hvisible b (hfirst.unique hvalue ▸ hb))
    | blank hfirst hblank =>
      refine .inr (.inl (hnothing ?_))
      rintro scheme token ⟨value, hvalue, -, hspells⟩
      refine (spells_iff.mp hspells).1 (Text.trimChars_eq_nil_iff.mpr ?_)
      exact hfirst.unique hvalue ▸ hblank
    | otherScheme hpresents hscheme =>
      exact .inr (.inl (exists_bearerToken_eq_error hpresents (.inl hscheme)))
    | noToken hpresents =>
      exact .inr (.inl (exists_bearerToken_eq_error hpresents (.inr rfl)))
    | @malformed scheme token fault hpresents hmalformed =>
      by_cases hnone : isBearer scheme = false ∨ token.toList = []
      · exact .inr (.inl (exists_bearerToken_eq_error hpresents hnone))
      · obtain ⟨hscheme, hne⟩ := not_or.mp hnone
        have hread : g.bearerToken service hs = .ok token :=
          bearerToken_eq_ok_iff.mpr ⟨scheme, hpresents, eq_true_of_ne_false hscheme, hne⟩
        exact .inr (.inr ⟨token, fault, hread, hmalformed⟩)
  · rintro (hskip | ⟨decision, hread⟩ | ⟨token, fault, hread, hmalformed⟩)
    · exact .skipped (hservice ▸ hskip)
    · cases hcred : credentials hs with
      | error reason => exact endsEarly_of_credentials hcred
      | ok text =>
        have hpresents : Presents hs (schemeAndToken text).1 (schemeAndToken text).2 :=
          presents_iff.mpr ⟨text, hcred, rfl⟩
        rw [bearerToken_of_presents hpresents] at hread
        split at hread
        · split at hread
          · next hnil => exact .noToken (hnil ▸ hpresents)
          · cases hread
        · next hscheme => exact .otherScheme hpresents (Bool.eq_false_iff.mpr hscheme)
    · obtain ⟨scheme, hpresents, -⟩ := bearerToken_eq_ok_iff.mp hread
      exact .malformed hpresents hmalformed

/-- A call that ends early leaves the state alone. -/
theorem authorizeWith_snd_of_endsEarly (h : EndsEarly g path hs) {τ : Type} (resolve : Resolver τ)
    (now : UInt64) (s : τ) : (g.authorizeWith resolve now path hs s).2 = s := by
  by_cases hskip : (serviceAndMethod path).1 ∈ g.skipped
  · unfold authorizeWith
    dsimp only
    rw [if_pos hskip]
  · rcases endsEarly_iff.mp h with hskip' | ⟨decision, hread⟩ | ⟨token, fault, hread, hmalformed⟩
    · exact absurd hskip' hskip
    · unfold authorizeWith
      dsimp only
      rw [if_neg hskip, hread]
    · rw [authorizeWith_of_bearerToken hskip hread,
        Verifier.verifyWith_eq_of_malformed hmalformed]

/-- Every other call searches for one key. -/
theorem authorizeWith_snd_of_not_endsEarly (h : ¬EndsEarly g path hs) :
    ∃ kid, ∀ {τ : Type} (resolve : Resolver τ) (now : UInt64) (s : τ),
      (g.authorizeWith resolve now path hs s).2 = (resolve kid s).2 := by
  rw [endsEarly_iff, not_or, not_or] at h
  obtain ⟨hskip, hsome, hform⟩ := h
  cases hread : g.bearerToken (serviceAndMethod path).1 hs with
  | error decision => exact absurd ⟨decision, hread⟩ hsome
  | ok token =>
    obtain ⟨⟨a⟩⟩ | ⟨fault, hmalformed⟩ := Token.anatomy_or_malformed token
    · refine ⟨a.header.kid, fun resolve now s => ?_⟩
      rw [authorizeWith_of_bearerToken hskip hread]
      unfold Verifier.verifyWith
      rw [Token.read_of_anatomy a]
      dsimp only [Anatomy.toToken]
      rcases resolve a.header.kid s with ⟨reason | key, after⟩
      · rfl
      · rfl
    · exact absurd ⟨token, fault, hread, hmalformed⟩ hform

/-- A call that ends early is idle, and every other call of the guard fetches what a search does. -/
theorem fetches_authorize (g : Guard) (f : Fetcher σ) (uptime : Uptime) (path : String)
    (hs : Headers) :
    (EndsEarly g path hs → ∀ now s, g.fetches f uptime (.authorize now path hs) s = [] ∧
      (g.step f uptime (.authorize now path hs) s).2 = s) ∧
    (¬EndsEarly g path hs → ∃ kid, ∀ now s,
      g.fetches f uptime (.authorize now path hs) s = g.fetches f uptime (.resolve kid) s) := by
  constructor
  · intro h now s
    have hidle : ∀ {σ : Type} (f : Fetcher σ) (s : Shared σ),
        (g.step f uptime (.authorize now path hs) s).2 = s :=
      fun f s => authorizeWith_snd_of_endsEarly h (g.verifier.keys.resolve f uptime) now s
    refine ⟨?_, hidle f s⟩
    unfold fetches
    rw [hidle]
    rfl
  · intro h
    obtain ⟨kid, hsearch⟩ := authorizeWith_snd_of_not_endsEarly h
    refine ⟨kid, fun now s => ?_⟩
    have hstate : (g.step f.recorded uptime (.authorize now path hs) s.recorded).2 =
        (g.step f.recorded uptime (.resolve kid) s.recorded).2 :=
      hsearch (g.verifier.keys.resolve f.recorded uptime) now s.recorded
    unfold fetches
    rw [hstate]

end Guard

/-! ## The whole of it -/

/-- **The budget of fetches**: let no time pass. After any calls, a call makes two fetches at most,
and one at most if there is a cooldown; a search for a key that is in the cache, and current, makes
none. If there is a cooldown and keys may be used while fetching fails: a call whose fetch fails
while keys are in the cache uses these though they have expired, and from then on no call makes a
fetch until the cache is emptied. A call that ends early makes no fetch and changes nothing,
whatever is in the cache and whatever the time is; any other call of the guard makes the fetches
of a search. -/
theorem Guard.fetches_within_budget (g : Guard) (r : Remote) (f : Fetcher σ) (now : Uptime)
    (earlier : List Call) (fetcher : σ) :
    let g := g.withKeys (.remote r)
    let s := (g.run f (Call.allAt now earlier) ⟨none, fetcher⟩).2
    (∀ c, (g.fetches f now c s).length ≤ 2 ∧
      (r.options.cooldown ≠ 0 → (g.fetches f now c s).length ≤ 1)) ∧
    (∀ c kid key, s.cache = some c → now < c.expiresAt →
      TrustedKey.find? c.keys kid = some key → g.fetches f now (.resolve kid) s = []) ∧
    (r.options.cooldown ≠ 0 → r.options.maxStaleness ≠ 0 → s.cache ≠ none →
      ∀ first, (∃ e, .error e ∈ g.fetches f now first s) →
        r.ServesStale f now s ∧
        ∀ later, .invalidate ∉ later →
          g.history f (Call.allAt now later) (g.step f now first s).2 = []) ∧
    ∀ uptime path hs,
      (g.EndsEarly path hs → ∀ unix s, g.fetches f uptime (.authorize unix path hs) s = [] ∧
        (g.step f uptime (.authorize unix path hs) s).2 = s) ∧
      (¬g.EndsEarly path hs → ∃ kid, ∀ unix s,
        g.fetches f uptime (.authorize unix path hs) s = g.fetches f uptime (.resolve kid) s) := by
  intro g' s
  have hempty : Timely now (⟨none, fetcher⟩ : Shared σ) := fun c hc => nomatch hc
  have hs : Timely now s := g.timely_run r f now earlier hempty
  refine ⟨fun c => ⟨?_, fun hcooldown => ?_⟩, fun c kid key hcache hcurrent hfind => ?_,
    fun hcooldown hstaleness hcache first hfailed => ?_, fun uptime path hs => ?_⟩
  · refine g.fetches_induction f (P := fun made => made.length ≤ 2) (Nat.zero_le 2) ?_ c
    intro kid made result t hresolution
    exact hresolution.length_le
  · refine g.fetches_induction f (P := fun made => made.length ≤ 1) (Nat.zero_le 1) ?_ c
    intro kid made result t hresolution
    obtain ⟨outcome, hrenewal⟩ := hresolution.renewal_of_timely hcooldown hs
    exact hrenewal.length_le
  · obtain ⟨made, hrecord, hresolution⟩ := r.resolution f now kid s.recorded
    have hmade : made = [] := hresolution.made_eq_nil hcache hcurrent hfind
    exact hrecord.trans hmade
  · obtain ⟨hstale, hsettled⟩ := g.settled_of_failure f hcooldown hstaleness hs hcache hfailed
    refine ⟨hstale, fun later hlater => ?_⟩
    exact g.history_of_settled f hcooldown hsettled hlater
  · exact g'.fetches_authorize f uptime path hs

/-- Both assumptions about one fetch are needed. Without a cooldown, an unknown key is looked for
twice; and with one, so it is if the keys that have to serve were fetched some time before. -/
example :
    let remote (cooldown : UInt64) : Remote :=
      ⟨{ scheme := "keys", path := .segments [] }, ⟨0, cooldown, 5, 3600⟩⟩
    let g (cooldown : UInt64) : Guard :=
      ⟨⟨some "issuer", 0, .remote (remote cooldown)⟩, ⟨none, []⟩, ⟨[]⟩, .reject, []⟩
    let fetches cooldown now cache :=
      (g cooldown).fetches Fetch.unreachable now (.resolve (some "a")) ⟨some cache, ()⟩
    (fetches 0 60 ⟨[], 60, 60⟩).length = 2 ∧ (fetches 30 60 ⟨[], 0, 60⟩).length = 2 ∧
      (fetches 30 60 ⟨[], 60, 60⟩).length = 1 := by decide +kernel

end RpcGuard
