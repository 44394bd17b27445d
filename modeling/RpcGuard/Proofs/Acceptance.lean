import RpcGuard.Proofs.Jwt.Anatomy
import RpcGuard.Verifier

/-!
# Acceptance of tokens

Which tokens a verifier accepts, and with which reason it refuses the others. After a token is
taken apart and its key is found, the checks go through `Verifier.stages` in order: a token for
which all of them hold is accepted (`Verifier.Accepts`), and for any other the first stage that
fails gives the reason (`Verifier.Refuses`). `Verifier.verify_decides` says that there is nothing
else to it.
-/

namespace RpcGuard

/-! ## Stages -/

/-- Something that must hold, and the reason for a refusal if it does not. -/
structure Stage where
  Holds : Prop
  reason : Rejection

/-- The first of the stages that does not hold has this reason. -/
def FailsFirst (stages : List Stage) (reason : Rejection) : Prop :=
  ∃ before stage after, stages = before ++ stage :: after ∧ (∀ s ∈ before, s.Holds) ∧
    ¬stage.Holds ∧ stage.reason = reason

theorem FailsFirst.not_all {stages : List Stage} {reason : Rejection}
    (h : FailsFirst stages reason) : ¬∀ s ∈ stages, s.Holds := by
  obtain ⟨before, stage, after, rfl, -, hstage, -⟩ := h
  intro hall
  exact hstage (hall stage (by simp))

theorem failsFirst_cons_of_not {stage : Stage} {stages : List Stage} {reason : Rejection}
    (h : ¬stage.Holds) : FailsFirst (stage :: stages) reason ↔ stage.reason = reason := by
  constructor
  · rintro ⟨before, stage', after, hsplit, hbefore, hstage', hreason⟩
    cases before with
    | nil =>
      obtain ⟨rfl, rfl⟩ := List.cons.inj hsplit
      exact hreason
    | cons s before =>
      obtain ⟨rfl, rfl⟩ := List.cons.inj hsplit
      exact absurd (hbefore stage List.mem_cons_self) h
  · rintro rfl
    exact ⟨[], stage, stages, rfl, fun s hs => absurd hs List.not_mem_nil, h, rfl⟩

theorem failsFirst_cons_of_holds {stage : Stage} {stages : List Stage} {reason : Rejection}
    (h : stage.Holds) : FailsFirst (stage :: stages) reason ↔ FailsFirst stages reason := by
  constructor
  · rintro ⟨before, stage', after, hsplit, hbefore, hstage', hreason⟩
    cases before with
    | nil =>
      obtain ⟨rfl, rfl⟩ := List.cons.inj hsplit
      exact absurd h hstage'
    | cons s before =>
      obtain ⟨rfl, rfl⟩ := List.cons.inj hsplit
      exact ⟨before, stage', after, rfl, fun s hs => hbefore s (List.mem_cons_of_mem _ hs),
        hstage', hreason⟩
  · rintro ⟨before, stage', after, rfl, hbefore, hstage', hreason⟩
    exact ⟨stage :: before, stage', after, rfl, List.forall_mem_cons.mpr ⟨h, hbefore⟩, hstage',
      hreason⟩

/-- The outcome of going through stages in order, with a result if all of them hold. -/
inductive Verdict {α : Type} (result : α) : List Stage → Except Rejection α → Prop where
  | passed : Verdict result [] (.ok result)
  | failed {stage : Stage} {stages : List Stage} (h : ¬stage.Holds) :
    Verdict result (stage :: stages) (.error stage.reason)
  | next {stage : Stage} {stages : List Stage} {x : Except Rejection α} (h : stage.Holds)
    (hx : Verdict result stages x) : Verdict result (stage :: stages) x

namespace Verdict

variable {α β : Type} {result : α} {stages : List Stage} {x : Except Rejection α}

theorem eq_ok_iff (h : Verdict result stages x) {a : α} :
    x = .ok a ↔ (∀ s ∈ stages, s.Holds) ∧ result = a := by
  induction h with
  | passed => simp
  | failed hstage =>
    refine iff_of_false (fun h => by cases h) ?_
    rintro ⟨hall, -⟩
    exact hstage (hall _ List.mem_cons_self)
  | next hstage _ ih =>
    rw [ih, List.forall_mem_cons, and_iff_right hstage]

theorem eq_error_iff (h : Verdict result stages x) {reason : Rejection} :
    x = .error reason ↔ FailsFirst stages reason := by
  induction h with
  | passed =>
    refine iff_of_false (fun h => by cases h) fun h => h.not_all ?_
    exact fun s hs => absurd hs List.not_mem_nil
  | failed hstage => rw [failsFirst_cons_of_not hstage, Except.error.injEq]
  | next hstage _ ih => rw [ih, failsFirst_cons_of_holds hstage]

/-- A stage that a program tests. -/
theorem ite {stage : Stage} {p : Prop} [Decidable p] (hp : p ↔ ¬stage.Holds)
    (hx : stage.Holds → Verdict result stages x) :
    Verdict result (stage :: stages) (if p then .error stage.reason else x) := by
  by_cases h : p
  · rw [if_pos h]
    exact .failed (hp.mp h)
  · have hstage : stage.Holds := Classical.not_not.mp (mt hp.mpr h)
    rw [if_neg h]
    exact .next hstage (hx hstage)

/-- The stages of one check after the other. -/
theorem bind {f : α → Except Rejection β} {result' : β} {stages' : List Stage}
    (h : Verdict result stages x) (hf : Verdict result' stages' (f result)) :
    Verdict result' (stages ++ stages') (x >>= f) := by
  induction h with
  | passed => exact hf
  | failed hstage => exact .failed hstage
  | next hstage _ ih => exact .next hstage ih

end Verdict

namespace Verifier

open Jwt (Anatomy Malformed Token)

variable {token : String}

/-! ## The stages of a token -/

/-- The algorithm, the signature, and a second look at what was signed. -/
def signatureStages (key : TrustedKey) (a : Anatomy token) : List Stage :=
  [{ Holds := a.header.algorithm = .rs256
     reason := .signatureInvalid (.algorithm a.header.algorithm) },
   { Holds := ∃ signature, a.third = Base64.encode .urlSafe signature
     reason := .malformedToken .base64 },
   { Holds := ∃ signature, a.third = Base64.encode .urlSafe signature ∧
       key.verifies a.signedPart signature = true
     reason := .signatureInvalid .mismatch },
   { Holds := a.NamesAudienceOnce
     reason := .malformedToken .json }]

def issuerStages (v : Verifier) (c : Claims) : List Stage :=
  [{ Holds := ∃ issuer, v.issuer = some issuer ∧ c.issuer = some issuer
     reason := .issuerMismatch v.issuer c.issuer }]

/-- The dates, as natural numbers: no sum of a date and the leeway is too large to count. -/
def dateStages (v : Verifier) (now : UInt64) (c : Claims) : List Stage :=
  [{ Holds := ∃ expiry, c.expiry = some expiry
     reason := .malformedToken .missingExpiry },
   { Holds := ∃ expiry, c.expiry = some expiry ∧ now.toNat ≤ expiry.toNat + v.leeway.toNat
     reason := .expiredToken },
   { Holds := ∀ start, c.notBefore = some start → start.toNat ≤ now.toNat + v.leeway.toNat
     reason := .tokenNotYetValid }]

/-- All that must hold of a token and its key, in the order in which it is checked. -/
def stages (v : Verifier) (now : UInt64) (key : TrustedKey) (a : Anatomy token) : List Stage :=
  signatureStages key a ++ (v.issuerStages a.claims ++ v.dateStages now a.claims)

theorem signatureStages_hold {key : TrustedKey} {a : Anatomy token} {signature : Bytes}
    (halgorithm : a.header.algorithm = .rs256)
    (hsignature : a.third = Base64.encode .urlSafe signature)
    (hverifies : key.verifies a.signedPart signature = true) (honce : a.NamesAudienceOnce) :
    ∀ s ∈ signatureStages key a, s.Holds := by
  simp only [signatureStages, List.forall_mem_cons]
  exact ⟨halgorithm, ⟨signature, hsignature⟩, ⟨signature, hsignature, hverifies⟩, honce, nofun⟩

theorem issuerStages_hold {v : Verifier} {c : Claims} {issuer : String}
    (hexpected : v.issuer = some issuer) (hissuer : c.issuer = some issuer) :
    ∀ s ∈ v.issuerStages c, s.Holds := by
  simp only [issuerStages, List.forall_mem_cons]
  exact ⟨⟨issuer, hexpected, hissuer⟩, nofun⟩

/-- A segment of base64 has one reading, so the signature in it is good or bad. -/
theorem verifies_iff {key : TrustedKey} {message signature : Bytes} {third : List Char}
    (h : Base64.decode? .urlSafe third = some signature) :
    key.verifies message signature = true ↔
      ∃ bs, third = Base64.encode .urlSafe bs ∧ key.verifies message bs = true := by
  constructor
  · intro hverifies
    exact ⟨signature, Base64.decode?_urlSafe_eq_some_iff.mp h, hverifies⟩
  · rintro ⟨bs, hbs, hverifies⟩
    have hreading := h.symm.trans (Base64.decode?_urlSafe_eq_some_iff.mpr hbs)
    exact Option.some.inj hreading ▸ hverifies

theorem verdict_checkSignature (key : TrustedKey) (a : Anatomy token) :
    Verdict () (signatureStages key a) (checkSignature key a.toToken) := by
  unfold checkSignature
  refine .ite Iff.rfl fun _ => ?_
  have hsignature : a.toToken.signature = a.third := rfl
  have hsigned : a.toToken.signedPart = a.signedPart := rfl
  rw [hsignature, hsigned]
  cases hthird : Base64.decode? .urlSafe a.third with
  | none =>
    refine .failed ?_
    rintro ⟨signature, hsignature⟩
    exact Base64.decode?_urlSafe_eq_none_iff.mp hthird signature hsignature
  | some signature =>
    refine .next ⟨signature, Base64.decode?_urlSafe_eq_some_iff.mp hthird⟩ ?_
    refine .ite ?_ fun _ => .ite ?_ fun _ => .passed
    · rw [← verifies_iff hthird, Bool.not_eq_true', Bool.not_eq_true]
    · rw [← Token.repeatsAudience_eq_false_iff, Bool.not_eq_false]

theorem verdict_checkIssuer (v : Verifier) (c : Claims) :
    Verdict () (v.issuerStages c) (v.checkIssuer c) := by
  unfold checkIssuer
  rw [← ite_not]
  refine .ite (not_congr ?_) fun _ => .passed
  constructor
  · rintro ⟨hsome, heq⟩
    obtain ⟨issuer, hissuer⟩ := Option.ne_none_iff_exists'.mp hsome
    exact ⟨issuer, hissuer, heq.trans hissuer⟩
  · rintro ⟨issuer, hissuer, hclaims⟩
    exact ⟨Option.ne_none_iff_exists'.mpr ⟨issuer, hissuer⟩, hclaims.trans hissuer.symm⟩

/-- A sum that is capped at the largest number is less than a number exactly if the whole sum is. -/
theorem saturatingAdd_lt_iff (a b c : UInt64) :
    saturatingAdd a b < c ↔ a.toNat + b.toNat < c.toNat := by
  have hc := c.toNat_lt
  rw [UInt64.lt_iff_toNat_lt]
  unfold saturatingAdd
  split
  · next hsum => rw [UInt64.toNat_add, Nat.mod_eq_of_lt hsum]
  · next hsum =>
    have hmax : (UInt64.ofNat (2 ^ 64 - 1)).toNat = 2 ^ 64 - 1 := rfl
    rw [hmax]
    omega

theorem verdict_checkDates (v : Verifier) (now : UInt64) (c : Claims) :
    Verdict () (v.dateStages now c) (v.checkDates now c) := by
  unfold checkDates dateStages
  cases hexpiry : c.expiry with
  | none =>
    refine .failed ?_
    rintro ⟨expiry, h⟩
    cases h
  | some expiry =>
    refine .next ⟨expiry, rfl⟩ (.ite ?_ fun _ => ?_)
    · rw [saturatingAdd_lt_iff]
      simp
    · cases hstart : c.notBefore with
      | none => exact .next (fun start h => by cases h) .passed
      | some start =>
        refine .ite ?_ fun _ => .passed
        rw [saturatingAdd_lt_iff]
        simp

/-- The checks go through the stages, and the result is what the first two segments encode. -/
theorem verdict_check (v : Verifier) (key : TrustedKey) (now : UInt64) (a : Anatomy token) :
    Verdict ⟨a.header, a.claims⟩ (v.stages now key a) (v.check key now a.toToken) := by
  have hdates : Verdict (VerifiedToken.mk a.header a.claims) (v.dateStages now a.claims ++ [])
      (v.checkDates now a.claims >>= fun _ => .ok (VerifiedToken.mk a.header a.claims)) :=
    (v.verdict_checkDates now a.claims).bind .passed
  rw [List.append_nil] at hdates
  exact (verdict_checkSignature key a).bind ((v.verdict_checkIssuer a.claims).bind hdates)

/-! ## The decision -/

/-- The token has an anatomy, its key is found, and all that must hold of both holds; it then
stands for what its first two segments encode. -/
def Accepts (v : Verifier) (resolved : Option String → Except Rejection TrustedKey) (now : UInt64)
    (token : String) (result : VerifiedToken) : Prop :=
  ∃ (a : Anatomy token) (key : TrustedKey), resolved a.header.kid = .ok key ∧
    (∀ s ∈ v.stages now key a, s.Holds) ∧ result = ⟨a.header, a.claims⟩

/-- The reasons to refuse a token: what is wrong with its form, why there is no key for it, or the
first stage that fails. -/
inductive Refuses (v : Verifier) (resolved : Option String → Except Rejection TrustedKey)
    (now : UInt64) (token : String) : Rejection → Prop where
  | malformed {fault : TokenFault} (h : Malformed token fault) :
    Refuses v resolved now token (.malformedToken fault)
  | noKey {reason : Rejection} (a : Anatomy token) (hkey : resolved a.header.kid = .error reason) :
    Refuses v resolved now token reason
  | failed {reason : Rejection} (a : Anatomy token) (key : TrustedKey)
    (hkey : resolved a.header.kid = .ok key) (h : FailsFirst (v.stages now key a) reason) :
    Refuses v resolved now token reason

section Decision

variable {τ : Type} {v : Verifier} {resolve : Resolver τ} {now : UInt64} {s : τ}
  {resolved : Option String → Except Rejection TrustedKey}

theorem verifyWith_of_malformed {fault : TokenFault} (h : Malformed token fault) :
    (v.verifyWith resolve now token s).1 = .error (.malformedToken fault) := by
  unfold verifyWith
  rw [Token.read_of_malformed h]

/-- A token with an anatomy is checked with the key that its header asks for. -/
theorem verifyWith_of_anatomy (a : Anatomy token) :
    (v.verifyWith resolve now token s).1 =
      match (resolve a.header.kid s).1 with
      | .error reason => .error reason
      | .ok key => v.check key now a.toToken := by
  have hread := Token.read_of_anatomy a
  unfold verifyWith
  rw [hread]
  dsimp only [Anatomy.toToken]
  rcases resolve a.header.kid s with ⟨reason | key, after⟩
  · rfl
  · rfl

theorem verifyWith_of_accepts (hresolved : ∀ kid, (resolve kid s).1 = resolved kid)
    {result : VerifiedToken} (h : v.Accepts resolved now token result) :
    (v.verifyWith resolve now token s).1 = .ok result := by
  obtain ⟨a, key, hkey, hall, rfl⟩ := h
  rw [verifyWith_of_anatomy a, hresolved, hkey]
  exact (v.verdict_check key now a).eq_ok_iff.mpr ⟨hall, rfl⟩

theorem verifyWith_of_refuses (hresolved : ∀ kid, (resolve kid s).1 = resolved kid)
    {reason : Rejection} (h : v.Refuses resolved now token reason) :
    (v.verifyWith resolve now token s).1 = .error reason := by
  cases h with
  | malformed hfault => exact verifyWith_of_malformed hfault
  | noKey a hkey => rw [verifyWith_of_anatomy a, hresolved, hkey]
  | failed a key hkey hfails =>
    rw [verifyWith_of_anatomy a, hresolved, hkey]
    exact (v.verdict_check key now a).eq_error_iff.mpr hfails

/-- A token is accepted or refused. -/
theorem accepts_or_refuses (v : Verifier) (resolved : Option String → Except Rejection TrustedKey)
    (now : UInt64) (token : String) :
    (∃ result, v.Accepts resolved now token result) ∨
      ∃ reason, v.Refuses resolved now token reason := by
  rcases Token.anatomy_or_malformed token with ⟨⟨a⟩⟩ | ⟨fault, hfault⟩
  · cases hkey : resolved a.header.kid with
    | error reason => exact .inr ⟨reason, .noKey a hkey⟩
    | ok key =>
      have hverdict := v.verdict_check key now a
      cases hcheck : v.check key now a.toToken with
      | error reason =>
        exact .inr ⟨reason, .failed a key hkey (hverdict.eq_error_iff.mp hcheck)⟩
      | ok result =>
        obtain ⟨hall, rfl⟩ := hverdict.eq_ok_iff.mp hcheck
        exact .inl ⟨_, a, key, hkey, hall, rfl⟩
  · exact .inr ⟨_, .malformed hfault⟩

end Decision

/-- **Exact acceptance**: for every token, clock, state and source of keys, the verifier accepts
what `Accepts` describes and with just that result, and it refuses everything else for the first
reason in the order of the checks. -/
theorem verify_decides {σ : Type} (v : Verifier) (f : Fetcher σ) (uptime : Uptime) (now : UInt64)
    (token : String) (s : Shared σ) :
    let resolved := fun kid => (v.keys.resolve f uptime kid s).1
    let answer := (v.verify f uptime now token s).1
    (∀ result, answer = .ok result ↔ v.Accepts resolved now token result) ∧
      ∀ reason, answer = .error reason ↔ v.Refuses resolved now token reason := by
  intro resolved answer
  have haccepts : ∀ result, v.Accepts resolved now token result → answer = .ok result :=
    fun result h => verifyWith_of_accepts (fun _ => rfl) h
  have hrefuses : ∀ reason, v.Refuses resolved now token reason → answer = .error reason :=
    fun reason h => verifyWith_of_refuses (fun _ => rfl) h
  -- a token is accepted or refused, and an answer of one kind leaves only that
  refine ⟨fun result => ⟨fun hok => ?_, haccepts result⟩,
    fun reason => ⟨fun herror => ?_, hrefuses reason⟩⟩
  · rcases v.accepts_or_refuses resolved now token with ⟨result', h⟩ | ⟨reason, h⟩
    · exact Except.ok.inj ((haccepts result' h).symm.trans hok) ▸ h
    · cases (hrefuses reason h).symm.trans hok
  · rcases v.accepts_or_refuses resolved now token with ⟨result, h⟩ | ⟨reason', h⟩
    · cases (haccepts result h).symm.trans herror
    · exact Except.error.inj ((hrefuses reason' h).symm.trans herror) ▸ h

end Verifier

end RpcGuard
