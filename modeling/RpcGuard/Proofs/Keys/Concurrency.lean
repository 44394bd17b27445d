import Mathlib.Algebra.BigOperators.Group.List.Basic
import Mathlib.Algebra.Order.Ring.Nat
import RpcGuard.Proofs.Keys.Interleaving

/-!
# Concurrent searches

Searches that run at the same time and begin with an empty cache, together with any number of
invalidations, in any order of their turns (`Remote.concurrent_searches`).

While the endpoint publishes one document, nobody can tell that there are other searches: each gives
the answer that it would give alone, and together they make as many fetches as one after another.
The invariant is that the cache is `Stocked`, and the fetches are counted with a potential: what a
search may still cost (`Search.due`), and what the empty cache may (`Remote.owed`).

Whatever the endpoint does, there is no fetch while there is something in the cache, if keys are
used for any time at all. The invariant is that what is in the cache was just fetched (`Fresh`).
-/

namespace RpcGuard

variable {σ : Type}

/-! ## One document -/

/-- The cache is empty, or has the keys of the document, fetched just now. -/
def Stocked (r : Remote) (now : Uptime) (jwks : List Jwk) (s : Shared σ) : Prop :=
  s.cache = none ∨ s.cache = some (r.stored now jwks)

namespace Remote

/-- The fetches that a renewal makes while the cache is not empty. -/
def renewalCost (r : Remote) : Nat := if r.options.ttl = 0 then 1 else 0

/-- The fetches that a refresh makes while the cache is not empty. -/
def refreshCost (r : Remote) : Nat := if r.options.cooldown = 0 then 1 else 0

/-- The fetches that a search makes after it has current keys, while the cache is not empty. -/
def searchCost (r : Remote) (keys : List TrustedKey) (kid : Option String) : Nat :=
  match TrustedKey.find? keys kid with
  | some _ => 0
  | none => r.refreshCost

/-- The fetches that a renewal makes only because the cache is empty. -/
def owed (r : Remote) (s : Shared σ) : Nat :=
  match s.cache with
  | some _ => 0
  | none => 1 - r.renewalCost

theorem owed_of_cache_eq_some {r : Remote} {s : Shared σ} {c : Cached} (h : s.cache = some c) :
    r.owed s = 0 := by
  unfold owed
  rw [h]

section Published

variable {r : Remote} {f : Fetcher σ} {jwks : List Jwk} {now : Uptime} {s t : Shared σ}
  {made : List FetchOutcome} {kid : Option String}
  (hf : ∀ s, (f r.endpoint.toString s).1 = .ok jwks)

include hf

theorem outcome_of_published {x next : σ}
    {outcome : FetchOutcome} (h : f r.endpoint.toString x = (outcome, next)) :
    outcome = .ok jwks := by
  have hanswer := hf x
  rw [h] at hanswer
  exact hanswer

theorem Renewal.of_published (hs : Stocked r now jwks s)
    {outcome : Except Rejection (List TrustedKey)} (h : Renewal r f now s made (outcome, t)) :
    outcome = .ok (TrustedKey.usable jwks) ∧ t.cache = some (r.stored now jwks) ∧
      made.length = r.renewalCost + r.owed s := by
  cases h with
  | current hpeek =>
    rcases hs with hnone | hsome
    · rw [hnone] at hpeek
      cases hpeek
    · rw [hsome] at hpeek
      obtain ⟨hcurrent, rfl⟩ := peek_some_eq_some_iff.mp hpeek
      -- keys that were fetched just now are current only if they are kept for some time
      have httl : r.options.ttl ≠ 0 := Uptime.lt_deadline_iff.mp hcurrent
      have hcost : r.renewalCost = 0 := if_neg httl
      rw [hcost, owed_of_cache_eq_some hsome]
      exact ⟨rfl, hsome, rfl⟩
  | fetched hpeek hfetch =>
    obtain rfl := Except.ok.inj (outcome_of_published hf hfetch)
    refine ⟨rfl, rfl, ?_⟩
    rcases hs with hnone | hsome
    · have hcost : r.renewalCost ≤ 1 := by
        unfold renewalCost
        split
        · exact Nat.le_refl 1
        · exact Nat.zero_le 1
      unfold owed
      rw [hnone]
      exact (Nat.add_sub_cancel' hcost).symm
    · rw [hsome] at hpeek
      have hexpired : now.deadline r.options.ttl ≤ now := peek_some_eq_none_iff.mp hpeek
      have httl : r.options.ttl = 0 := by
        by_contra hne
        exact Nat.not_lt.mpr hexpired (Uptime.lt_deadline_iff.mpr hne)
      have hcost : r.renewalCost = 1 := if_pos httl
      rw [hcost, owed_of_cache_eq_some hsome]
      rfl
  | stale hpeek hfetch hcache hage => cases outcome_of_published hf hfetch
  | failed hpeek hfetch hage => cases outcome_of_published hf hfetch

theorem Refreshment.of_published (hs : Stocked r now jwks s)
    {outcome : Except Rejection (List TrustedKey)} (h : Refreshment r f now s made (outcome, t)) :
    outcome = .ok (TrustedKey.usable jwks) ∧ t.cache = some (r.stored now jwks) ∧
      (s.cache ≠ none → made.length = r.refreshCost) := by
  cases h with
  | @recent c hcache hage =>
    obtain rfl : r.stored now jwks = c := by
      rcases hs with hnone | hsome
      · cases hnone.symm.trans hcache
      · exact Option.some.inj (hsome.symm.trans hcache)
    have hcooldown : r.options.cooldown ≠ 0 := by
      intro hzero
      rw [hzero] at hage
      exact Nat.not_lt_zero _ hage
    have hcost : r.refreshCost = 0 := if_neg hcooldown
    rw [hcost]
    exact ⟨rfl, hcache, fun _ => rfl⟩
  | fetched hold hfetch =>
    obtain rfl := Except.ok.inj (outcome_of_published hf hfetch)
    refine ⟨rfl, rfl, fun hfull => ?_⟩
    have hsome := hs.resolve_left hfull
    have hage : r.options.cooldown.toNat ≤ now.seconds - now := hold _ hsome
    have hcooldown : r.options.cooldown = 0 := UInt64.toNat_inj.mp (by simp; omega)
    have hcost : r.refreshCost = 1 := if_pos hcooldown
    rw [hcost]
    rfl
  | failed hold hfetch => cases outcome_of_published hf hfetch

/-- What a search costs that is not interrupted. -/
theorem Resolution.of_published (hs : Stocked r now jwks s) {result : Except Rejection TrustedKey}
    (h : Resolution r f now kid s made (result, t)) :
    t.cache = some (r.stored now jwks) ∧
      made.length = r.renewalCost + r.searchCost (TrustedKey.usable jwks) kid + r.owed s := by
  unfold searchCost
  cases h with
  | unavailable hrenewal => cases (hrenewal.of_published hf hs).1
  | found hrenewal hfind =>
    obtain ⟨houtcome, hcache, hlength⟩ := hrenewal.of_published hf hs
    obtain rfl := Except.ok.inj houtcome
    rw [hfind]
    exact ⟨hcache, hlength⟩
  | refused hrenewal hfind hrefreshment =>
    obtain ⟨-, hcache, -⟩ := hrenewal.of_published hf hs
    obtain ⟨houtcome, -⟩ := hrefreshment.of_published hf (.inr hcache)
    cases houtcome
  | @sought made made' keys keys' t' u hrenewal hfind hrefreshment =>
    obtain ⟨houtcome, hcache, hlength⟩ := hrenewal.of_published hf hs
    obtain rfl := Except.ok.inj houtcome
    obtain ⟨-, hcache', hlength'⟩ := hrefreshment.of_published hf (.inr hcache)
    have hfull : t'.cache ≠ none := fun hnone => by cases hcache.symm.trans hnone
    rw [hfind, List.length_append, hlength, hlength' hfull]
    dsimp only
    exact ⟨hcache', by omega⟩

end Published

/-- The fetches that searches make one after another. -/
def serialFetches (r : Remote) (f : Fetcher σ) (now : Uptime) :
    List (Option String) → Shared σ → List FetchOutcome
  | [], _ => []
  | kid :: kids, s =>
    (r.resolve f.recorded now kid s.recorded).2.fetcher.2 ++
      r.serialFetches f now kids (r.resolve f now kid s).2

end Remote

namespace Search

/-- The fetches that a search still makes while the cache is not empty. -/
def due (r : Remote) (keys : List TrustedKey) : Search → Nat
  | peeking kid | renewing kid => r.renewalCost + r.searchCost keys kid
  | refreshing _ => r.refreshCost
  | done _ => 0

/-- The search is for the key id, and if it is over, it has the answer that the keys give. -/
def Agrees (keys : List TrustedKey) (kid : Option String) : Search → Prop
  | peeking kid' | renewing kid' | refreshing kid' => kid' = kid
  | done result => result = TrustedKey.lookUp keys kid

theorem due_within (r : Remote) (keys : List TrustedKey) (kid : Option String) :
    (within keys kid).due r keys = r.searchCost keys kid := by
  unfold within Remote.searchCost
  cases TrustedKey.find? keys kid with
  | some key => rfl
  | none => rfl

theorem agrees_within (keys : List TrustedKey) (kid : Option String) :
    (within keys kid).Agrees keys kid := by
  unfold within
  cases hfind : TrustedKey.find? keys kid with
  | some key =>
    show Except.ok key = TrustedKey.lookUp keys kid
    unfold TrustedKey.lookUp
    rw [hfind]
  | none => rfl

section Published

variable {r : Remote} {f : Fetcher σ} {jwks : List Jwk} {now : Uptime} {s t : Shared σ}
  {p p' : Search} {made : List FetchOutcome}
  (hf : ∀ s, (f r.endpoint.toString s).1 = .ok jwks) (hs : Stocked r now jwks s)

include hf hs

/-- After its section a search has the keys of the document in the cache, or it only looked. -/
theorem Step.stocks (h : Step r f now s p made (p', t)) :
    t.cache = some (r.stored now jwks) ∨ t = s ∧ (p'.left ≤ 1 → p.left ≤ 1) := by
  cases h with
  | peeked hpeek =>
    obtain ⟨-, hcache, -⟩ := (Remote.Renewal.current (f := f) hpeek).of_published hf hs
    exact .inl hcache
  | missed hpeek => exact .inr ⟨rfl, fun hleft => absurd hleft (Nat.not_succ_le_self 1)⟩
  | renewed hrenewal => exact .inl (hrenewal.of_published hf hs).2.1
  | unavailable hrenewal => cases (hrenewal.of_published hf hs).1
  | sought hrefreshment => exact .inl (hrefreshment.of_published hf hs).2.1
  | refused hrefreshment => cases (hrefreshment.of_published hf hs).1
  | ended => exact .inr ⟨rfl, id⟩

theorem Step.stocked (h : Step r f now s p made (p', t)) : Stocked r now jwks t := by
  rcases h.stocks hf hs with hcache | ⟨rfl, -⟩
  · exact .inr hcache
  · exact hs

theorem Step.agrees (h : Step r f now s p made (p', t)) {kid : Option String}
    (hp : p.Agrees (TrustedKey.usable jwks) kid) : p'.Agrees (TrustedKey.usable jwks) kid := by
  cases h with
  | peeked hpeek =>
    obtain rfl := hp
    obtain ⟨houtcome, -⟩ := (Remote.Renewal.current (f := f) hpeek).of_published hf hs
    obtain rfl := Except.ok.inj houtcome
    exact agrees_within _ _
  | missed hpeek => exact hp
  | renewed hrenewal =>
    obtain rfl := hp
    obtain ⟨houtcome, -⟩ := hrenewal.of_published hf hs
    obtain rfl := Except.ok.inj houtcome
    exact agrees_within _ _
  | unavailable hrenewal => cases (hrenewal.of_published hf hs).1
  | sought hrefreshment =>
    obtain rfl := hp
    obtain ⟨houtcome, -⟩ := hrefreshment.of_published hf hs
    obtain rfl := Except.ok.inj houtcome
    rfl
  | refused hrefreshment => cases (hrefreshment.of_published hf hs).1
  | ended => exact hp

/-- A section makes the fetches by which what is due becomes less. -/
theorem Step.due_add_owed (hfull : p.left ≤ 1 → s.cache ≠ none)
    (h : Step r f now s p made (p', t)) :
    made.length + p'.due r (TrustedKey.usable jwks) + r.owed t =
      p.due r (TrustedKey.usable jwks) + r.owed s := by
  cases h with
  | @peeked kid keys hpeek =>
    obtain ⟨houtcome, hcache, hlength⟩ :=
      (Remote.Renewal.current (f := f) hpeek).of_published hf hs
    obtain rfl := Except.ok.inj houtcome
    have hcost : 0 = r.renewalCost + r.owed s := hlength
    rw [due_within, due, List.length_nil]
    omega
  | missed hpeek => exact congrArg (· + r.owed s) (Nat.zero_add _)
  | @renewed kid made keys t hrenewal =>
    obtain ⟨houtcome, hcache, hlength⟩ := hrenewal.of_published hf hs
    obtain rfl := Except.ok.inj houtcome
    rw [due_within, due, hlength, Remote.owed_of_cache_eq_some hcache]
    omega
  | unavailable hrenewal => cases (hrenewal.of_published hf hs).1
  | sought hrefreshment =>
    have hcache := hfull (Nat.le_refl 1)
    obtain ⟨-, hcache', hlength⟩ := hrefreshment.of_published hf hs
    have howed : r.owed s = 0 := Remote.owed_of_cache_eq_some (hs.resolve_left hcache)
    rw [due, due, hlength hcache, howed, Remote.owed_of_cache_eq_some hcache']
  | refused hrefreshment => cases (hrefreshment.of_published hf hs).1
  | ended => exact congrArg (· + r.owed s) (Nat.zero_add _)

end Published

end Search

namespace Race

section Published

variable {r : Remote} {f : Fetcher σ} {jwks : List Jwk} {now : Uptime} {x y : Race σ} {t : Turn}
  {made : List FetchOutcome} {kids : List (Option String)}

/-! ### Answers -/

/-- Each search has the answer that it has alone, or none yet. -/
structure Agreeing (r : Remote) (now : Uptime) (jwks : List Jwk) (kids : List (Option String))
    (x : Race σ) : Prop where
  stocked : Stocked r now jwks x.shared
  agrees : ∀ (place : Nat) (kid : Option String) (p : Search), kids[place]? = some kid →
    x.searches[place]? = some p → p.Agrees (TrustedKey.usable jwks) kid

theorem agreeing_start (fetcher : σ) : Agreeing r now jwks kids (start kids fetcher) where
  stocked := .inl rfl
  agrees place kid p hkid hp := by
    have hp' : kids[place]?.map Search.peeking = some p := List.getElem?_map.symm.trans hp
    rw [hkid] at hp'
    obtain rfl := Option.some.inj hp'
    rfl

theorem Moves.agreeing (hf : ∀ s, (f r.endpoint.toString s).1 = .ok jwks)
    (h : Moves r f now x t made y) (hx : Agreeing r now jwks kids x) :
    Agreeing r now jwks kids y := by
  cases h with
  | @advanced place p p' _ s hp hstep =>
    refine ⟨hstep.stocked hf hx.stocked, fun place' kid q hkid hq => ?_⟩
    by_cases hplace : place = place'
    · subst hplace
      have hq' : some p' = some q :=
        (List.getElem?_set_self (List.getElem?_eq_some_iff.mp hp).1).symm.trans hq
      obtain rfl := Option.some.inj hq'
      exact hstep.agrees hf hx.stocked (hx.agrees place kid p hkid hp)
    · exact hx.agrees place' kid q hkid ((List.getElem?_set_ne hplace).symm.trans hq)
  | idle hp => exact hx
  | invalidated => exact ⟨.inl rfl, hx.agrees⟩

/-! ### The number of fetches -/

/-- The fetches that all searches still make while the cache is not empty. -/
def due (r : Remote) (keys : List TrustedKey) (x : Race σ) : Nat :=
  (x.searches.map (Search.due r keys)).sum

/-- A race without invalidations. Once a search has seen keys, the cache is not empty. -/
structure Undisturbed (r : Remote) (now : Uptime) (jwks : List Jwk) (x : Race σ) : Prop where
  stocked : Stocked r now jwks x.shared
  full : ∀ p ∈ x.searches, p.left ≤ 1 → x.shared.cache ≠ none
  empty : x.searches = [] → x.shared.cache = none

theorem undisturbed_start (fetcher : σ) : Undisturbed r now jwks (start kids fetcher) where
  stocked := .inl rfl
  full p hp hleft := by
    obtain ⟨kid, -, rfl⟩ := List.mem_map.mp hp
    have hearly : ¬3 ≤ 1 := by decide
    exact absurd hleft hearly
  empty _ := rfl

theorem Moves.undisturbed (hf : ∀ s, (f r.endpoint.toString s).1 = .ok jwks)
    (h : Moves r f now x t made y) (ht : t ≠ .invalidate) (hx : Undisturbed r now jwks x) :
    Undisturbed r now jwks y := by
  cases h with
  | @advanced place p p' _ s hp hstep =>
    have hmem : p ∈ x.searches := List.mem_of_getElem? hp
    -- a search that fetched has filled the cache for all; one that only looked has changed nothing
    refine ⟨hstep.stocked hf hx.stocked, fun q hq hleft => ?_, fun hnil => ?_⟩
    · rcases hstep.stocks hf hx.stocked with hcache | ⟨rfl, hstays⟩
      · intro hnone
        cases hcache.symm.trans hnone
      · rcases List.mem_or_eq_of_mem_set hq with hq | rfl
        · exact hx.full q hq hleft
        · exact hx.full p hmem (hstays hleft)
    · have hlength : x.searches.length = 0 :=
        List.length_set.symm.trans (congrArg List.length hnil)
      rw [List.length_eq_zero_iff.mp hlength] at hmem
      cases hmem
  | idle hp => exact hx
  | invalidated => exact absurd rfl ht

/-- A turn changes a sum over the searches by what it changes of one of them. -/
theorem sum_map_set (g : Search → Nat) (p' : Search) {l : List Search} {place : Nat} {p : Search}
    (hp : l[place]? = some p) :
    ((l.set place p').map g).sum + g p = (l.map g).sum + g p' := by
  induction l generalizing place with
  | nil => cases hp
  | cons q l ih =>
    cases place with
    | zero =>
      obtain rfl := Option.some.inj hp
      rw [List.set_cons_zero, List.map_cons, List.map_cons, List.sum_cons, List.sum_cons]
      omega
    | succ place =>
      have hrest := ih hp
      rw [List.set_cons_succ, List.map_cons, List.map_cons, List.sum_cons, List.sum_cons]
      omega

theorem Moves.due_add_owed (hf : ∀ s, (f r.endpoint.toString s).1 = .ok jwks)
    (h : Moves r f now x t made y) (ht : t ≠ .invalidate) (hx : Undisturbed r now jwks x) :
    made.length + y.due r (TrustedKey.usable jwks) + r.owed y.shared =
      x.due r (TrustedKey.usable jwks) + r.owed x.shared := by
  cases h with
  | @advanced place p p' _ s hp hstep =>
    have hfull := hx.full p (List.mem_of_getElem? hp)
    have hsection := hstep.due_add_owed hf hx.stocked hfull
    have hsum := sum_map_set (Search.due r (TrustedKey.usable jwks)) p' hp
    unfold due
    dsimp only
    omega
  | idle hp => exact congrArg (· + r.owed x.shared) (Nat.zero_add _)
  | invalidated => exact absurd rfl ht

/-- The fetches of a run are those by which what is due becomes less. -/
theorem length_allFetches (hf : ∀ s, (f r.endpoint.toString s).1 = .ok jwks) {turns : List Turn}
    (hturns : .invalidate ∉ turns) (hx : Undisturbed r now jwks x) :
    Undisturbed r now jwks (x.run r f now turns) ∧
      (x.allFetches r f now turns).length +
          (x.run r f now turns).due r (TrustedKey.usable jwks) +
          r.owed (x.run r f now turns).shared =
        x.due r (TrustedKey.usable jwks) + r.owed x.shared := by
  induction turns generalizing x with
  | nil => exact ⟨hx, congrArg (· + r.owed x.shared) (Nat.zero_add _)⟩
  | cons t turns ih =>
    obtain ⟨ht, hturns⟩ := not_or.mp (List.mem_cons.not.mp hturns)
    have hmoves := moves r f now x t
    obtain ⟨hlast, hrest⟩ := ih hturns (hmoves.undisturbed hf (Ne.symm ht) hx)
    have hfirst := hmoves.due_add_owed hf (Ne.symm ht) hx
    rw [run_cons, allFetches, List.length_append]
    exact ⟨hlast, by omega⟩

theorem due_eq_zero_of_finished {keys : List TrustedKey} (h : x.Finished) : x.due r keys = 0 := by
  refine List.sum_eq_zero fun n hn => ?_
  obtain ⟨p, hp, rfl⟩ := List.mem_map.mp hn
  obtain ⟨result, rfl⟩ := h p hp
  rfl

theorem due_start (fetcher : σ) {keys : List TrustedKey} : (start kids fetcher).due r keys =
    (kids.map fun kid => r.renewalCost + r.searchCost keys kid).sum := by
  unfold due start
  rw [List.map_map]
  rfl

end Published

end Race

/-- What searches cost one after another. -/
theorem Remote.length_serialFetches {r : Remote} {f : Fetcher σ} {jwks : List Jwk} {now : Uptime}
    (hf : ∀ s, (f r.endpoint.toString s).1 = .ok jwks) (kids : List (Option String))
    {s : Shared σ} (hs : Stocked r now jwks s) :
    (r.serialFetches f now kids s).length =
      (kids.map fun kid => r.renewalCost + r.searchCost (TrustedKey.usable jwks) kid).sum +
        if kids = [] then 0 else r.owed s := by
  induction kids generalizing s with
  | nil => rfl
  | cons kid kids ih =>
    obtain ⟨made, hrecord, hresolution⟩ := r.resolution f now kid s.recorded
    have hfetches : (r.resolve f.recorded now kid s.recorded).2.fetcher.2 = made := hrecord
    rw [Shared.unrecorded_recorded] at hresolution
    rw [serialFetches, hfetches]
    generalize r.resolve f now kid s = out at hresolution ⊢
    obtain ⟨result, t⟩ := out
    obtain ⟨hcache, hlength⟩ := hresolution.of_published hf hs
    have hrest := ih (.inr hcache)
    -- the first search leaves no empty cache behind
    rw [owed_of_cache_eq_some hcache, ite_self, Nat.add_zero] at hrest
    rw [List.length_append, hlength, hrest, if_neg (List.cons_ne_nil _ _), List.map_cons,
      List.sum_cons]
    omega

/-- While one document is published and nothing is invalidated, the searches of a race that is over
have made as many fetches as they make one after another, in any order. -/
theorem Race.length_allFetches_eq_serial {r : Remote} {f : Fetcher σ} {jwks : List Jwk}
    {now : Uptime} (hf : ∀ s, (f r.endpoint.toString s).1 = .ok jwks) {turns : List Turn}
    (hturns : .invalidate ∉ turns) {kids order : List (Option String)} (fetcher : σ)
    (hfinished : ((start kids fetcher).run r f now turns).Finished) (horder : order.Perm kids) :
    ((start kids fetcher).allFetches r f now turns).length =
      (r.serialFetches f now order ⟨none, fetcher⟩).length := by
  have hstart : Undisturbed r now jwks (start kids fetcher) := undisturbed_start fetcher
  obtain ⟨hlast, hlength⟩ := length_allFetches (f := f) hf hturns hstart
  have hsearches := (length_searches_run r f now (start kids fetcher) turns).trans
    (List.length_map Search.peeking)
  rw [due_eq_zero_of_finished hfinished, due_start] at hlength
  rw [Remote.length_serialFetches hf order (.inl rfl), (horder.map _).sum_nat]
  by_cases hkids : kids = []
  · subst hkids
    have howed : r.owed ((start [] fetcher).run r f now turns).shared =
        r.owed (start [] fetcher).shared := by
      unfold Remote.owed
      rw [hlast.empty (List.length_eq_zero_iff.mp hsearches)]
      rfl
    rw [if_pos horder.eq_nil]
    omega
  · obtain ⟨p, hp⟩ : ∃ p, p ∈ ((start kids fetcher).run r f now turns).searches := by
      refine List.exists_mem_of_length_pos ?_
      rw [hsearches]
      exact List.length_pos_iff.mpr hkids
    obtain ⟨result, rfl⟩ := hfinished p hp
    -- a search that is over has seen keys
    have hfull := hlast.full _ hp (Nat.zero_le 1)
    have howed : r.owed ((start kids fetcher).run r f now turns).shared = 0 :=
      Remote.owed_of_cache_eq_some (hlast.stocked.resolve_left hfull)
    have hempty : r.owed (start kids fetcher).shared = r.owed ⟨none, fetcher⟩ := rfl
    rw [if_neg fun horder' => hkids (horder' ▸ horder).nil_eq.symm]
    omega

/-! ## Any endpoint -/

/-- What is in the cache was just fetched, and is current. -/
def Fresh (now : Uptime) (s : Shared σ) : Prop :=
  ∀ c, s.cache = some c → c.fetchedAt = now ∧ now < c.expiresAt

/-- The number of documents in the cache. -/
def Shared.held (s : Shared σ) : Nat :=
  match s.cache with
  | some _ => 1
  | none => 0

theorem Shared.held_le_one (s : Shared σ) : s.held ≤ 1 := by
  unfold held
  cases s.cache with
  | some c => exact Nat.le_refl 1
  | none => exact Nat.zero_le 1

/-- A section that fetches at most once, and only if the cache is empty; each success fills it. -/
structure Sparing (now : Uptime) (s t : Shared σ) (made : List FetchOutcome) : Prop where
  fresh : Fresh now t
  fetches : made = [] ∨ s.cache = none ∧ ∃ outcome, made = [outcome]
  successes : made.countP Except.isOk + s.held = t.held

section Sparing

variable {r : Remote} {f : Fetcher σ} {now : Uptime} {s t : Shared σ} {made : List FetchOutcome}

theorem Sparing.refl (hs : Fresh now s) : Sparing now s s [] where
  fresh := hs
  fetches := .inl rfl
  successes := Nat.zero_add _

/-- A fetch for an empty cache. -/
theorem Sparing.of_success (httl : r.options.ttl ≠ 0) (hempty : s.cache = none) (jwks : List Jwk)
    (next : σ) : Sparing now s ⟨some (r.stored now jwks), next⟩ [.ok jwks] where
  fresh c hc := by
    obtain rfl := Option.some.inj hc
    exact ⟨rfl, Uptime.lt_deadline_iff.mpr httl⟩
  fetches := .inr ⟨hempty, _, rfl⟩
  successes := by
    unfold Shared.held
    rw [hempty]
    rfl

theorem Sparing.of_failure (hempty : s.cache = none) (e : Rejection) (next : σ) :
    Sparing now s ⟨s.cache, next⟩ [.error e] where
  fresh c hc := by cases hempty.symm.trans hc
  fetches := .inr ⟨hempty, _, rfl⟩
  successes := Nat.zero_add _

theorem Fresh.cache_eq_none_of_peek (hs : Fresh now s) (hpeek : Remote.peek now s.cache = none) :
    s.cache = none := by
  cases hcache : s.cache with
  | none => rfl
  | some c =>
    rw [hcache] at hpeek
    have hexpired := Remote.peek_some_eq_none_iff.mp hpeek
    exact absurd (hs c hcache).2 (Nat.not_lt.mpr hexpired)

theorem Remote.Renewal.sparing (httl : r.options.ttl ≠ 0) (hs : Fresh now s)
    {outcome : Except Rejection (List TrustedKey)} (h : Renewal r f now s made (outcome, t)) :
    Sparing now s t made := by
  cases h with
  | current hpeek => exact .refl hs
  | fetched hpeek hfetch => exact .of_success httl (hs.cache_eq_none_of_peek hpeek) _ _
  | stale hpeek hfetch hcache hage => cases (hs.cache_eq_none_of_peek hpeek).symm.trans hcache
  | failed hpeek hfetch hage => exact .of_failure (hs.cache_eq_none_of_peek hpeek) _ _

theorem Remote.Refreshment.sparing (httl : r.options.ttl ≠ 0) (hcooldown : r.options.cooldown ≠ 0)
    (hs : Fresh now s) {outcome : Except Rejection (List TrustedKey)}
    (h : Refreshment r f now s made (outcome, t)) : Sparing now s t made := by
  -- what is in the cache is not older than the cooldown
  have hempty : (∀ c, s.cache = some c → r.options.cooldown.toNat ≤ now - c.fetchedAt) →
      s.cache = none := by
    intro hold
    cases hcache : s.cache with
    | none => rfl
    | some c =>
      have hage := hold c hcache
      rw [(hs c hcache).1, Nat.sub_self] at hage
      exact absurd hage (Nat.not_le.mpr (toNat_pos hcooldown))
  cases h with
  | recent hcache hage => exact .refl hs
  | fetched hold hfetch => exact .of_success httl (hempty hold) _ _
  | failed hold hfetch => exact .of_failure (hempty hold) _ _

theorem Search.Step.sparing (httl : r.options.ttl ≠ 0) (hcooldown : r.options.cooldown ≠ 0)
    (hs : Fresh now s) {p p' : Search} (h : Step r f now s p made (p', t)) :
    Sparing now s t made := by
  cases h with
  | peeked hpeek => exact .refl hs
  | missed hpeek => exact .refl hs
  | renewed hrenewal => exact hrenewal.sparing httl hs
  | unavailable hrenewal => exact hrenewal.sparing httl hs
  | sought hrefreshment => exact hrefreshment.sparing httl hcooldown hs
  | refused hrefreshment => exact hrefreshment.sparing httl hcooldown hs
  | ended => exact .refl hs

namespace Race

variable {x y : Race σ}

/-- A turn fetches at most once, and only if the cache is empty; each success fills it, and only an
invalidation empties it. -/
theorem Moves.sparing (httl : r.options.ttl ≠ 0) (hcooldown : r.options.cooldown ≠ 0)
    (hx : Fresh now x.shared) {t : Turn} (h : Moves r f now x t made y) :
    Fresh now y.shared ∧ (made = [] ∨ x.shared.cache = none ∧ ∃ outcome, made = [outcome]) ∧
      made.countP Except.isOk + x.shared.held ≤ y.shared.held + [t].count .invalidate := by
  cases h with
  | advanced hp hstep =>
    have hsparing := hstep.sparing httl hcooldown hx
    exact ⟨hsparing.fresh, hsparing.fetches, Nat.le_of_eq hsparing.successes⟩
  | idle hp => exact ⟨hx, .inl rfl, Nat.le_of_eq (Nat.zero_add _)⟩
  | invalidated =>
    have hheld := x.shared.held_le_one
    refine ⟨fun c hc => ?_, .inl rfl, ?_⟩
    · cases hc
    · rw [List.count_singleton_self, List.countP_nil]
      omega

theorem countP_allFetches_le (httl : r.options.ttl ≠ 0) (hcooldown : r.options.cooldown ≠ 0)
    (hx : Fresh now x.shared) (turns : List Turn) :
    Fresh now (x.run r f now turns).shared ∧
      (x.allFetches r f now turns).countP Except.isOk + x.shared.held ≤
        (x.run r f now turns).shared.held + turns.count .invalidate := by
  induction turns generalizing x with
  | nil => exact ⟨hx, Nat.le_of_eq (Nat.zero_add _)⟩
  | cons t turns ih =>
    obtain ⟨hfresh, -, hfirst⟩ := (moves r f now x t).sparing httl hcooldown hx
    obtain ⟨hlast, hrest⟩ := ih hfresh
    have hcount : (t :: turns).count .invalidate =
        [t].count .invalidate + turns.count .invalidate := by
      rw [← List.singleton_append, List.count_append]
    rw [run_cons, allFetches, List.countP_append, hcount]
    exact ⟨hlast, by omega⟩

end Race

end Sparing

/-! ## The whole of it -/

/-- **Concurrent searches**: searches for any key ids race with any number of invalidations, from an
empty cache on and in any order of their turns. A search is over after three turns of its own. If
keys are used for any time at all, whatever the endpoint answers, at most one fetch more succeeds
than there are invalidations, and every turn, after whichever turns it comes, makes one fetch from
an empty cache or none. While the endpoint publishes one document, each search has the answer that
it has alone, for all durations; and if there is no invalidation, all searches together make as many
fetches as one after another, in whichever order. -/
theorem Remote.concurrent_searches (r : Remote) (f : Fetcher σ) (now : Uptime)
    (kids : List (Option String)) (fetcher : σ) (turns : List Turn) :
    let race := Race.start kids fetcher
    let last := race.run r f now turns
    let made := race.allFetches r f now turns
    (∀ (place : Nat) (kid : Option String), kids[place]? = some kid →
      3 ≤ turns.count (.search place) →
        ∃ result, last.searches[place]? = some (.done result)) ∧
    (r.options.ttl ≠ 0 → r.options.cooldown ≠ 0 →
      made.countP Except.isOk ≤ 1 + turns.count .invalidate ∧
      ∀ next, last.fetches r f now next = [] ∨
        last.shared.cache = none ∧ ∃ outcome, last.fetches r f now next = [outcome]) ∧
    ∀ jwks, (∀ s, (f r.endpoint.toString s).1 = .ok jwks) →
      (∀ (place : Nat) (kid : Option String) (result : Except Rejection TrustedKey),
        kids[place]? = some kid → last.searches[place]? = some (.done result) →
          result = (r.resolve f now kid race.shared).1) ∧
      (.invalidate ∉ turns → last.Finished → ∀ order, order.Perm kids →
        made.length = (r.serialFetches f now order race.shared).length) := by
  intro race last made
  refine ⟨fun place kid hkid hcount => ?_, fun httl hcooldown => ?_, fun jwks hf => ?_⟩
  · exact Race.exists_done r f now hkid fetcher hcount
  · have hfresh : Fresh now race.shared := fun c hc => nomatch hc
    obtain ⟨hlast, hcount⟩ := Race.countP_allFetches_le (f := f) httl hcooldown hfresh turns
    refine ⟨?_, fun next => ?_⟩
    · have hheld := last.shared.held_le_one
      have hempty : race.shared.held = 0 := rfl
      have hbound : made.countP Except.isOk + race.shared.held ≤
          last.shared.held + turns.count .invalidate := hcount
      omega
    · exact ((Race.moves r f now last next).sparing httl hcooldown hlast).2.1
  · constructor
    · intro place kid result hkid hresult
      have hstart : Race.Agreeing r now jwks kids race := Race.agreeing_start fetcher
      have hagreeing := Race.run_preserves r f now
        (fun x t made y h hx => Race.Moves.agreeing hf h hx) hstart turns
      have halone := (resolve_of_published hf (.inl rfl : Faithful jwks race.shared) now kid).1
      rw [halone]
      exact hagreeing.agrees place kid _ hkid hresult
    · intro hturns hfinished order horder
      exact Race.length_allFetches_eq_serial hf hturns fetcher hfinished horder

/-- Two searches that both find the cache empty: the second one renews keys that are current. -/
example :
    let remote : Remote := ⟨{ scheme := "keys", path := .segments [] }, ⟨600, 30, 5, 3600⟩⟩
    let race : Race Unit := .start [some "a", none] ()
    let turns : List Turn := [.search 0, .search 1, .search 0, .search 1, .search 0, .search 1]
    race.allFetches remote (fun _ s => (.ok [], s)) 0 turns = [.ok []] := by rfl

end RpcGuard
