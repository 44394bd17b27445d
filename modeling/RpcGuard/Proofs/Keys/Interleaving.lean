import RpcGuard.Proofs.Keys.Sections

/-!
# Interleaved searches

Searches for keys run at the same time and share a cache. A section of the cache runs alone, so a
search is a sequence of phases (`Search`), and what searches do together is a sequence of turns in
any order: a turn is the next section of one of the searches, or an invalidation of the cache
(`Race`). No time passes in a race.

A search that takes all its turns at once is `Remote.resolve` (`Search.advance_thrice`). Each turn
is described once, with the fetches that it makes (`Search.step`, `Race.moves`), and what every turn
preserves is preserved by every run (`Race.run_preserves`).
-/

namespace RpcGuard

variable {σ : Type}

/-! ## Phases -/

/-- How far a search for a key has come. -/
inductive Search where
  /-- It looks for current keys. -/
  | peeking (kid : Option String)
  /-- There were no current keys. -/
  | renewing (kid : Option String)
  /-- There were current keys, but not the one that is looked for. -/
  | refreshing (kid : Option String)
  | done (result : Except Rejection TrustedKey)

namespace Search

/-- The phase after current keys were found. -/
def within (keys : List TrustedKey) (kid : Option String) : Search :=
  match TrustedKey.find? keys kid with
  | some key => done (.ok key)
  | none => refreshing kid

/-- The next section of a search. -/
def advance (r : Remote) (f : Fetcher σ) (now : Uptime) : Search → Shared σ → Search × Shared σ
  | peeking kid, s =>
    match Remote.peek now s.cache with
    | some keys => (within keys kid, s)
    | none => (renewing kid, s)
  | renewing kid, s =>
    match r.renew f now s with
    | (.ok keys, s) => (within keys kid, s)
    | (.error fault, s) => (done (.error fault), s)
  | refreshing kid, s =>
    match r.refresh f now s with
    | (.ok keys, s) => (done (TrustedKey.lookUp keys kid), s)
    | (.error fault, s) => (done (.error fault), s)
  | done result, s => (done result, s)

/-- The fetches that the next section makes. -/
def fetches (r : Remote) (f : Fetcher σ) (now : Uptime) (p : Search) (s : Shared σ) :
    List FetchOutcome :=
  (p.advance r f.recorded now s.recorded).2.fetcher.2

/-- The number of sections that are left at most. -/
def left : Search → Nat
  | peeking _ => 3
  | renewing _ => 2
  | refreshing _ => 1
  | done _ => 0

/-! ### Searches that are not interrupted -/

section Uninterrupted

variable (r : Remote) (f : Fetcher σ) (now : Uptime) (kid : Option String)

/-- The end of a search, from current keys on. -/
def conclude (keys : List TrustedKey) (s : Shared σ) : Except Rejection TrustedKey × Shared σ :=
  match TrustedKey.find? keys kid with
  | some key => (.ok key, s)
  | none =>
    match r.refresh f now s with
    | (.ok keys, s) => (TrustedKey.lookUp keys kid, s)
    | (.error fault, s) => (.error fault, s)

theorem advance_within (keys : List TrustedKey) (s : Shared σ) :
    (within keys kid).advance r f now s =
      (done (conclude r f now kid keys s).1, (conclude r f now kid keys s).2) := by
  unfold within conclude
  cases TrustedKey.find? keys kid with
  | some key => rfl
  | none =>
    dsimp only
    rw [advance]
    rcases r.refresh f now s with ⟨fault | keys', t⟩
    · rfl
    · rfl

theorem resolve_of_renew_eq_ok {keys : List TrustedKey} {s t : Shared σ}
    (h : r.renew f now s = (.ok keys, t)) :
    r.resolve f now kid s = conclude r f now kid keys t := by
  unfold Remote.resolve conclude TrustedKey.lookUp
  rw [Remote.currentKeys_eq_renew, h]
  dsimp only
  cases TrustedKey.find? keys kid with
  | some key => rfl
  | none =>
    dsimp only
    rcases r.refresh f now t with ⟨fault | keys', u⟩
    · rfl
    · dsimp only
      cases TrustedKey.find? keys' kid with
      | some key => rfl
      | none => rfl

/-- A search that is not interrupted resolves its key id. -/
theorem advance_thrice (s : Shared σ) :
    let turn := fun x : Search × Shared σ => x.1.advance r f now x.2
    turn (turn (turn (peeking kid, s))) =
      (done (r.resolve f now kid s).1, (r.resolve f now kid s).2) := by
  intro turn
  have hwithin : ∀ keys (t : Shared σ), turn (within keys kid, t) =
      (done (conclude r f now kid keys t).1, (conclude r f now kid keys t).2) :=
    fun keys t => advance_within r f now kid keys t
  cases hpeek : Remote.peek now s.cache with
  | some keys =>
    have hfirst : turn (peeking kid, s) = (within keys kid, s) := by
      show (peeking kid).advance r f now s = _
      rw [advance, hpeek]
    have hrenew : r.renew f now s = (.ok keys, s) := by
      unfold Remote.renew
      rw [hpeek]
    rw [hfirst, hwithin, resolve_of_renew_eq_ok r f now kid hrenew]
    rfl
  | none =>
    have hfirst : turn (peeking kid, s) = (renewing kid, s) := by
      show (peeking kid).advance r f now s = _
      rw [advance, hpeek]
    rw [hfirst]
    cases hrenew : r.renew f now s with
    | mk outcome t =>
      cases outcome with
      | ok keys =>
        have hsecond : turn (renewing kid, s) = (within keys kid, t) := by
          show (renewing kid).advance r f now s = _
          rw [advance, hrenew]
        rw [hsecond, hwithin, resolve_of_renew_eq_ok r f now kid hrenew]
      | error fault =>
        have hsecond : turn (renewing kid, s) = (done (.error fault), t) := by
          show (renewing kid).advance r f now s = _
          rw [advance, hrenew]
        have hresolve : r.resolve f now kid s = (.error fault, t) := by
          unfold Remote.resolve
          rw [Remote.currentKeys_eq_renew, hrenew]
        rw [hsecond, hresolve]
        rfl

end Uninterrupted

/-! ### What a section of a search does -/

/-- The ways in which a section goes, with the fetches that it makes. -/
inductive Step (r : Remote) (f : Fetcher σ) (now : Uptime) (s : Shared σ) :
    Search → List FetchOutcome → Search × Shared σ → Prop where
  | peeked {kid : Option String} {keys : List TrustedKey} :
      Remote.peek now s.cache = some keys → Step r f now s (peeking kid) [] (within keys kid, s)
  | missed {kid : Option String} :
      Remote.peek now s.cache = none → Step r f now s (peeking kid) [] (renewing kid, s)
  | renewed {kid : Option String} {made : List FetchOutcome} {keys : List TrustedKey}
      {t : Shared σ} :
      Remote.Renewal r f now s made (.ok keys, t) →
      Step r f now s (renewing kid) made (within keys kid, t)
  | unavailable {kid : Option String} {made : List FetchOutcome} {fault : Rejection}
      {t : Shared σ} :
      Remote.Renewal r f now s made (.error fault, t) →
      Step r f now s (renewing kid) made (done (.error fault), t)
  | sought {kid : Option String} {made : List FetchOutcome} {keys : List TrustedKey}
      {t : Shared σ} :
      Remote.Refreshment r f now s made (.ok keys, t) →
      Step r f now s (refreshing kid) made (done (TrustedKey.lookUp keys kid), t)
  | refused {kid : Option String} {made : List FetchOutcome} {fault : Rejection} {t : Shared σ} :
      Remote.Refreshment r f now s made (.error fault, t) →
      Step r f now s (refreshing kid) made (done (.error fault), t)
  | ended {result : Except Rejection TrustedKey} :
      Step r f now s (done result) [] (done result, s)

theorem step (r : Remote) (f : Fetcher σ) (now : Uptime) (p : Search) (s : Shared σ) :
    Step r f now s p (p.fetches r f now s) (p.advance r f now s) := by
  cases p with
  | peeking kid =>
    cases hpeek : Remote.peek now s.cache with
    | some keys =>
      have hadvance : (peeking kid).advance r f now s = (within keys kid, s) := by
        rw [advance, hpeek]
      have hfetches : (peeking kid).fetches r f now s = [] := by
        rw [fetches, advance, show s.recorded.cache = s.cache from rfl, hpeek]
        rfl
      rw [hadvance, hfetches]
      exact .peeked hpeek
    | none =>
      have hadvance : (peeking kid).advance r f now s = (renewing kid, s) := by
        rw [advance, hpeek]
      have hfetches : (peeking kid).fetches r f now s = [] := by
        rw [fetches, advance, show s.recorded.cache = s.cache from rfl, hpeek]
        rfl
      rw [hadvance, hfetches]
      exact .missed hpeek
  | renewing kid =>
    obtain ⟨made, hrecord, hrenewal⟩ := r.renewal f now s.recorded
    have hrecorded := r.renew_recorded f now s.recorded
    rw [Shared.unrecorded_recorded] at hrenewal hrecorded
    rw [hrecorded] at hrenewal
    rw [fetches, advance, advance, hrecorded]
    -- the record was empty before, so what is in it now was fetched by the section
    generalize r.renew f.recorded now s.recorded = out at hrecord hrenewal ⊢
    obtain ⟨fault | keys, t⟩ := out
    · obtain rfl : t.fetcher.2 = made := hrecord
      exact .unavailable hrenewal
    · obtain rfl : t.fetcher.2 = made := hrecord
      exact .renewed hrenewal
  | refreshing kid =>
    obtain ⟨made, hrecord, hrefreshment⟩ := r.refreshment f now s.recorded
    have hrecorded := r.refresh_recorded f now s.recorded
    rw [Shared.unrecorded_recorded] at hrefreshment hrecorded
    rw [hrecorded] at hrefreshment
    rw [fetches, advance, advance, hrecorded]
    generalize r.refresh f.recorded now s.recorded = out at hrecord hrefreshment ⊢
    obtain ⟨fault | keys, t⟩ := out
    · obtain rfl : t.fetcher.2 = made := hrecord
      exact .refused hrefreshment
    · obtain rfl : t.fetcher.2 = made := hrecord
      exact .sought hrefreshment
  | done result => exact .ended

theorem left_within_le (keys : List TrustedKey) (kid : Option String) :
    (within keys kid).left ≤ 1 := by
  unfold within
  cases TrustedKey.find? keys kid with
  | some key => exact Nat.zero_le 1
  | none => exact Nat.le_refl 1

/-- A section brings a search nearer to its end. -/
theorem Step.left_le {r : Remote} {f : Fetcher σ} {now : Uptime} {s t : Shared σ} {p p' : Search}
    {made : List FetchOutcome} (h : Step r f now s p made (p', t)) : p'.left ≤ p.left - 1 := by
  cases h with
  | peeked _ => exact Nat.le_trans (left_within_le _ _) (Nat.le_succ 1)
  | missed _ => exact Nat.le_refl 2
  | renewed _ => exact left_within_le _ _
  | unavailable _ => exact Nat.zero_le _
  | sought _ => exact Nat.zero_le _
  | refused _ => exact Nat.zero_le _
  | ended => exact Nat.zero_le _

theorem exists_done_of_left_eq_zero {p : Search} (h : p.left = 0) : ∃ result, p = done result := by
  cases p with
  | done result => exact ⟨result, rfl⟩
  | peeking kid => cases h
  | renewing kid => cases h
  | refreshing kid => cases h

end Search

/-! ## Races -/

/-- Searches that share a cache, each at its own place. -/
structure Race (σ : Type) where
  searches : List Search
  shared : Shared σ

/-- What happens next in a race. -/
inductive Turn where
  /-- The search at the place has its next section. -/
  | search (place : Nat)
  | invalidate
  deriving DecidableEq

namespace Race

/-- Nothing has happened yet, and the cache is empty. -/
def start (kids : List (Option String)) (fetcher : σ) : Race σ :=
  ⟨kids.map .peeking, ⟨none, fetcher⟩⟩

/-- One turn of a race. -/
def turn (r : Remote) (f : Fetcher σ) (now : Uptime) (x : Race σ) : Turn → Race σ
  | .search place =>
    match x.searches[place]? with
    | some p =>
      let (p, shared) := p.advance r f now x.shared
      ⟨x.searches.set place p, shared⟩
    | none => x
  | .invalidate => { x with shared := x.shared.invalidate }

/-- The fetches that a turn makes. -/
def fetches (r : Remote) (f : Fetcher σ) (now : Uptime) (x : Race σ) : Turn → List FetchOutcome
  | .search place =>
    match x.searches[place]? with
    | some p => p.fetches r f now x.shared
    | none => []
  | .invalidate => []

/-- A race with its turns in this order. -/
def run (r : Remote) (f : Fetcher σ) (now : Uptime) (x : Race σ) (turns : List Turn) : Race σ :=
  turns.foldl (turn r f now) x

/-- All fetches that a run makes. -/
def allFetches (r : Remote) (f : Fetcher σ) (now : Uptime) : Race σ → List Turn → List FetchOutcome
  | _, [] => []
  | x, t :: turns => x.fetches r f now t ++ (x.turn r f now t).allFetches r f now turns

/-- All searches have an answer. -/
def Finished (x : Race σ) : Prop := ∀ p ∈ x.searches, ∃ result, p = .done result

/-- The ways in which a turn goes, with the fetches that it makes. -/
inductive Moves (r : Remote) (f : Fetcher σ) (now : Uptime) (x : Race σ) :
    Turn → List FetchOutcome → Race σ → Prop where
  | advanced {place : Nat} {p p' : Search} {made : List FetchOutcome} {t : Shared σ} :
      x.searches[place]? = some p → Search.Step r f now x.shared p made (p', t) →
      Moves r f now x (.search place) made ⟨x.searches.set place p', t⟩
  | idle {place : Nat} : x.searches[place]? = none → Moves r f now x (.search place) [] x
  | invalidated : Moves r f now x .invalidate [] ⟨x.searches, x.shared.invalidate⟩

section Runs

variable (r : Remote) (f : Fetcher σ) (now : Uptime)

theorem moves (x : Race σ) (t : Turn) :
    Moves r f now x t (x.fetches r f now t) (x.turn r f now t) := by
  cases t with
  | invalidate => exact .invalidated
  | search place =>
    rw [fetches, turn]
    cases hp : x.searches[place]? with
    | none => exact .idle hp
    | some p => exact .advanced hp (p.step r f now x.shared)

theorem run_cons (x : Race σ) (t : Turn) (turns : List Turn) :
    x.run r f now (t :: turns) = (x.turn r f now t).run r f now turns := rfl

/-- What every turn preserves, a run preserves. -/
theorem run_preserves {P : Race σ → Prop}
    (hturn : ∀ x t made y, Moves r f now x t made y → P x → P y) {x : Race σ} (hx : P x)
    (turns : List Turn) : P (x.run r f now turns) := by
  induction turns generalizing x with
  | nil => exact hx
  | cons t turns ih =>
    rw [run_cons]
    exact ih (hturn _ _ _ _ (moves r f now x t) hx)

theorem length_searches_run (x : Race σ) (turns : List Turn) :
    (x.run r f now turns).searches.length = x.searches.length := by
  refine run_preserves r f now (P := fun y => y.searches.length = x.searches.length) ?_ rfl turns
  intro y t made z h hy
  cases h with
  | advanced hp hstep => exact List.length_set.trans hy
  | idle hp => exact hy
  | invalidated => exact hy

/-- A turn of a search brings it nearer to its end, and other turns leave it where it is. -/
theorem Moves.left_le {x y : Race σ} {t : Turn} {made : List FetchOutcome} {place : Nat}
    {p : Search} (h : Moves r f now x t made y) (hp : x.searches[place]? = some p) :
    ∃ p', y.searches[place]? = some p' ∧ p'.left ≤ p.left - [t].count (.search place) := by
  cases h with
  | invalidated => exact ⟨p, hp, Nat.le_refl _⟩
  | @idle place' hnone =>
    have hother : Turn.search place' ≠ .search place := by
      intro heq
      obtain rfl := Turn.search.inj heq
      cases hnone.symm.trans hp
    rw [List.count_singleton, beq_eq_false_iff_ne.mpr hother]
    exact ⟨p, hp, Nat.le_refl _⟩
  | @advanced place' q q' _ s hq hstep =>
    by_cases hplace : place' = place
    · subst hplace
      obtain rfl := Option.some.inj (hq.symm.trans hp)
      refine ⟨q', ?_, ?_⟩
      · rw [List.getElem?_set_self (List.getElem?_eq_some_iff.mp hq).1]
      · rw [List.count_singleton_self]
        exact hstep.left_le
    · have hother : Turn.search place' ≠ .search place := fun heq => hplace (Turn.search.inj heq)
      rw [List.count_singleton, beq_eq_false_iff_ne.mpr hother]
      exact ⟨p, (List.getElem?_set_ne hplace).trans hp, Nat.le_refl _⟩

/-- A search comes nearer to its end with each of its turns. -/
theorem left_run {x : Race σ} {place : Nat} {p : Search} (hp : x.searches[place]? = some p)
    (turns : List Turn) : ∃ p', (x.run r f now turns).searches[place]? = some p' ∧
      p'.left ≤ p.left - turns.count (.search place) := by
  induction turns generalizing x p with
  | nil => exact ⟨p, hp, Nat.le_refl _⟩
  | cons t turns ih =>
    obtain ⟨p', hp', hleft⟩ := (moves r f now x t).left_le r f now hp
    obtain ⟨p'', hp'', hleft'⟩ := ih hp'
    have hcount : (t :: turns).count (.search place) =
        [t].count (.search place) + turns.count (.search place) := by
      rw [← List.singleton_append, List.count_append]
    rw [hcount]
    exact ⟨p'', hp'', by omega⟩

/-- Three turns are enough for a search. -/
theorem exists_done {kids : List (Option String)} {place : Nat} {kid : Option String}
    (hkid : kids[place]? = some kid) (fetcher : σ) {turns : List Turn}
    (hturns : 3 ≤ turns.count (.search place)) :
    ∃ result, ((start kids fetcher).run r f now turns).searches[place]? = some (.done result) := by
  have hstart : (start kids fetcher).searches[place]? = some (.peeking kid) := by
    show (kids.map Search.peeking)[place]? = some (.peeking kid)
    rw [List.getElem?_map, hkid]
    rfl
  obtain ⟨p, hp, hleft⟩ := left_run r f now hstart turns
  have hthree : (Search.peeking kid).left = 3 := rfl
  have hnothing : p.left = 0 := by omega
  obtain ⟨result, rfl⟩ := Search.exists_done_of_left_eq_zero hnothing
  exact ⟨result, hp⟩

end Runs

end Race

end RpcGuard
