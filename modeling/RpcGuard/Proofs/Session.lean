import RpcGuard.Guard

/-!
# Sessions

A session is a run of calls that share a state: calls of the guard, of its verifier, of its source
of keys, and the invalidation of its cache. Each call comes with its own time on the clock of the
cache, so that nothing is assumed of how much time passes between them.

What a guard asks of its source of keys is a `KeyService`. Two services that answer alike give
sessions with the same answers (`Guard.runWith_of_simulates`), which is how sources are compared.
-/

namespace RpcGuard

/-! ## Services -/

/-- A source of keys with a state: how keys are found at a time, and what an invalidation does. -/
structure KeyService (τ : Type) where
  resolve : Uptime → Resolver τ
  invalidate : τ → τ

/-- A source of keys, as it is used with a fetcher. -/
def KeySource.service {σ : Type} (k : KeySource) (f : Fetcher σ) : KeyService (Shared σ) where
  resolve uptime := k.resolve f uptime
  invalidate := Shared.invalidate

/-- The states of two services correspond, and whatever they are asked, they answer alike and
their states still do. -/
structure KeyService.Simulates {τ τ' : Type} (R : τ → τ' → Prop) (k : KeyService τ)
    (k' : KeyService τ') : Prop where
  answer {s : τ} {t : τ'} (h : R s t) (uptime : Uptime) (kid : Option String) :
    (k.resolve uptime kid s).1 = (k'.resolve uptime kid t).1
  resolve {s : τ} {t : τ'} (h : R s t) (uptime : Uptime) (kid : Option String) :
    R (k.resolve uptime kid s).2 (k'.resolve uptime kid t).2
  invalidate {s : τ} {t : τ'} (h : R s t) : R (k.invalidate s) (k'.invalidate t)

/-! ## Calls -/

/-- Something to ask. Unix time matters only where a token is verified. -/
inductive Call where
  | resolve (kid : Option String)
  | verify (now : UInt64) (token : String)
  | authorize (now : UInt64) (path : String) (hs : Headers)
  | invalidate

/-- What comes back. -/
inductive Answer where
  | key (result : Except Rejection TrustedKey)
  | token (result : Except Rejection VerifiedToken)
  | decision (decision : Decision)
  | invalidated

/-- The calls of a session in order, each with its time. -/
def Call.runAll {τ : Type} (step : Uptime → Call → τ → Answer × τ) :
    List (Uptime × Call) → τ → List Answer × τ
  | [], s => ([], s)
  | (uptime, c) :: calls, s =>
    let (answer, s) := step uptime c s
    let (answers, s) := runAll step calls s
    (answer :: answers, s)

namespace Guard

variable {τ τ' σ : Type}

/-- One call, at a time on the clock of the cache. -/
def step (g : Guard) (f : Fetcher σ) (uptime : Uptime) (c : Call) (s : Shared σ) :
    Answer × Shared σ :=
  match c with
  | .resolve kid =>
    let (result, s) := g.verifier.keys.resolve f uptime kid s
    (.key result, s)
  | .verify now token =>
    let (result, s) := g.verifier.verify f uptime now token s
    (.token result, s)
  | .authorize now path hs =>
    let (decision, s) := g.authorize f uptime now path hs s
    (.decision decision, s)
  | .invalidate => (.invalidated, s.invalidate)

/-- A session with a guard, its verifier and its source of keys. -/
def run (g : Guard) (f : Fetcher σ) : List (Uptime × Call) → Shared σ → List Answer × Shared σ :=
  Call.runAll (g.step f)

/-- One call of a guard that has its keys from a service. -/
def stepWith (g : Guard) (k : KeyService τ) (uptime : Uptime) (c : Call) (s : τ) : Answer × τ :=
  match c with
  | .resolve kid =>
    let (result, s) := k.resolve uptime kid s
    (.key result, s)
  | .verify now token =>
    let (result, s) := g.verifier.verifyWith (k.resolve uptime) now token s
    (.token result, s)
  | .authorize now path hs =>
    let (decision, s) := g.authorizeWith (k.resolve uptime) now path hs s
    (.decision decision, s)
  | .invalidate => (.invalidated, k.invalidate s)

/-- A session with a guard that has its keys from a service. -/
def runWith (g : Guard) (k : KeyService τ) : List (Uptime × Call) → τ → List Answer × τ :=
  Call.runAll (g.stepWith k)

/-- A guard has its keys from its own source. -/
theorem step_eq_stepWith (g : Guard) (f : Fetcher σ) :
    g.step f = g.stepWith (g.verifier.keys.service f) := by
  funext uptime c s
  cases c with
  | resolve kid => rfl
  | verify now token => rfl
  | authorize now path hs => rfl
  | invalidate => rfl

/-- The same guard with another source of keys. -/
def withKeys (g : Guard) (keys : KeySource) : Guard :=
  { g with verifier := { g.verifier with keys } }

/-- With a service, a guard is not asked for its own source of keys. -/
theorem stepWith_withKeys (g : Guard) (keys : KeySource) (k : KeyService τ) :
    (g.withKeys keys).stepWith k = g.stepWith k := by
  funext uptime c s
  cases c with
  | resolve kid => rfl
  | verify now token => rfl
  | authorize now path hs => rfl
  | invalidate => rfl

theorem step_withKeys (g : Guard) (keys : KeySource) (f : Fetcher σ) :
    (g.withKeys keys).step f = g.stepWith (keys.service f) := by
  rw [step_eq_stepWith]
  exact g.stepWith_withKeys keys (keys.service f)

theorem run_withKeys (g : Guard) (keys : KeySource) (f : Fetcher σ) :
    (g.withKeys keys).run f = g.runWith (keys.service f) := by
  unfold run runWith
  rw [step_withKeys]

/-! ## What calls do to the state -/

end Guard

/-- A verification leaves the state alone or looks for one key. -/
theorem Verifier.verifyWith_snd {τ : Type} (v : Verifier) (resolve : Resolver τ) (now : UInt64)
    (token : String) (s : τ) :
    (v.verifyWith resolve now token s).2 = s ∨
      ∃ kid, (v.verifyWith resolve now token s).2 = (resolve kid s).2 := by
  unfold verifyWith
  cases Jwt.Token.read token with
  | error fault => exact .inl rfl
  | ok t =>
    refine .inr ⟨t.header.kid, ?_⟩
    dsimp only
    rcases resolve t.header.kid s with ⟨reason | key, after⟩ <;> rfl

/-- Two ways to find keys that answer alike verify a token alike. -/
theorem Verifier.verifyWith_of_simulates {τ τ' : Type} {R : τ → τ' → Prop} (v : Verifier)
    {resolve : Resolver τ} {resolve' : Resolver τ'} {s : τ} {t : τ'} (h : R s t)
    (hanswer : ∀ kid, (resolve kid s).1 = (resolve' kid t).1)
    (hresolve : ∀ kid, R (resolve kid s).2 (resolve' kid t).2) (now : UInt64) (token : String) :
    (v.verifyWith resolve now token s).1 = (v.verifyWith resolve' now token t).1 ∧
      R (v.verifyWith resolve now token s).2 (v.verifyWith resolve' now token t).2 := by
  unfold verifyWith
  cases Jwt.Token.read token with
  | error fault => exact ⟨rfl, h⟩
  | ok parts =>
    dsimp only
    have hanswer := hanswer parts.header.kid
    have hresolve := hresolve parts.header.kid
    generalize resolve parts.header.kid s = p at hanswer hresolve ⊢
    generalize resolve' parts.header.kid t = p' at hanswer hresolve ⊢
    obtain ⟨x, after⟩ := p
    obtain ⟨y, after'⟩ := p'
    obtain rfl : x = y := hanswer
    cases x with
    | error fault => exact ⟨rfl, hresolve⟩
    | ok key => exact ⟨rfl, hresolve⟩

namespace Guard

variable {τ τ' σ : Type}

theorem authorizeWith_snd (g : Guard) (resolve : Resolver τ) (now : UInt64) (path : String)
    (hs : Headers) (s : τ) :
    (g.authorizeWith resolve now path hs s).2 = s ∨
      ∃ kid, (g.authorizeWith resolve now path hs s).2 = (resolve kid s).2 := by
  unfold authorizeWith
  dsimp only
  split
  · exact .inl rfl
  · split
    · exact .inl rfl
    · next token _ =>
      have hverify := g.verifier.verifyWith_snd resolve now token s
      generalize g.verifier.verifyWith resolve now token s = p at hverify ⊢
      obtain ⟨reason | verified, after⟩ := p
      · exact hverify
      · dsimp only
        split
        · exact hverify
        · exact hverify

theorem authorizeWith_of_simulates {R : τ → τ' → Prop} (g : Guard) {resolve : Resolver τ}
    {resolve' : Resolver τ'} {s : τ} {t : τ'} (h : R s t)
    (hanswer : ∀ kid, (resolve kid s).1 = (resolve' kid t).1)
    (hresolve : ∀ kid, R (resolve kid s).2 (resolve' kid t).2) (now : UInt64) (path : String)
    (hs : Headers) :
    (g.authorizeWith resolve now path hs s).1 = (g.authorizeWith resolve' now path hs t).1 ∧
      R (g.authorizeWith resolve now path hs s).2 (g.authorizeWith resolve' now path hs t).2 := by
  unfold authorizeWith
  dsimp only
  split
  · exact ⟨rfl, h⟩
  · cases g.bearerToken (serviceAndMethod path).1 hs with
    | error decision => exact ⟨rfl, h⟩
    | ok token =>
      dsimp only
      have hverify := g.verifier.verifyWith_of_simulates h hanswer hresolve now token
      generalize g.verifier.verifyWith resolve now token s = p at hverify ⊢
      generalize g.verifier.verifyWith resolve' now token t = p' at hverify ⊢
      obtain ⟨x, after⟩ := p
      obtain ⟨y, after'⟩ := p'
      obtain ⟨hxy, hafter⟩ := hverify
      obtain rfl : x = y := hxy
      cases x with
      | error reason => exact ⟨rfl, hafter⟩
      | ok verified =>
        dsimp only
        split
        · exact ⟨rfl, hafter⟩
        · exact ⟨rfl, hafter⟩

/-- A call leaves the state alone, looks for one key, or is an invalidation. -/
theorem stepWith_snd (g : Guard) (k : KeyService τ) (uptime : Uptime) (c : Call) (s : τ) :
    (g.stepWith k uptime c s).2 = s ∨
      (∃ kid, (g.stepWith k uptime c s).2 = (k.resolve uptime kid s).2) ∨
        c = .invalidate ∧ (g.stepWith k uptime c s).2 = k.invalidate s := by
  cases c with
  | resolve kid => exact .inr (.inl ⟨kid, rfl⟩)
  | verify now token =>
    rcases g.verifier.verifyWith_snd (k.resolve uptime) now token s with h | h
    · exact .inl h
    · exact .inr (.inl h)
  | authorize now path hs =>
    rcases g.authorizeWith_snd (k.resolve uptime) now path hs s with h | h
    · exact .inl h
    · exact .inr (.inl h)
  | invalidate => exact .inr (.inr ⟨rfl, rfl⟩)

/-! ## Comparing sessions -/

section Simulation

variable {R : τ → τ' → Prop} {k : KeyService τ} {k' : KeyService τ'}

theorem stepWith_of_simulates (g : Guard) (hk : k.Simulates R k') {s : τ} {t : τ'} (h : R s t)
    (uptime : Uptime) (c : Call) :
    (g.stepWith k uptime c s).1 = (g.stepWith k' uptime c t).1 ∧
      R (g.stepWith k uptime c s).2 (g.stepWith k' uptime c t).2 := by
  have hanswer := hk.answer h uptime
  have hresolve := hk.resolve h uptime
  cases c with
  | resolve kid => exact ⟨congrArg Answer.key (hanswer kid), hresolve kid⟩
  | verify now token =>
    obtain ⟨hresult, hstate⟩ :=
      g.verifier.verifyWith_of_simulates h hanswer hresolve now token
    exact ⟨congrArg Answer.token hresult, hstate⟩
  | authorize now path hs =>
    obtain ⟨hdecision, hstate⟩ := g.authorizeWith_of_simulates h hanswer hresolve now path hs
    exact ⟨congrArg Answer.decision hdecision, hstate⟩
  | invalidate => exact ⟨rfl, hk.invalidate h⟩

/-- Services that answer alike give sessions that answer alike. -/
theorem runWith_of_simulates (g : Guard) (hk : k.Simulates R k') (calls : List (Uptime × Call))
    {s : τ} {t : τ'} (h : R s t) :
    (g.runWith k calls s).1 = (g.runWith k' calls t).1 ∧
      R (g.runWith k calls s).2 (g.runWith k' calls t).2 := by
  induction calls generalizing s t with
  | nil => exact ⟨rfl, h⟩
  | cons call calls ih =>
    obtain ⟨uptime, c⟩ := call
    obtain ⟨hanswer, hstate⟩ := g.stepWith_of_simulates hk h uptime c
    obtain ⟨hanswers, hend⟩ := ih hstate
    exact ⟨List.cons_eq_cons.mpr ⟨hanswer, hanswers⟩, hend⟩

end Simulation

end Guard

end RpcGuard
