import RpcGuard.Proofs.Acceptance
import RpcGuard.Proofs.Keys.Currency

/-!
# Form before keys

A token should be refused for its form before a key is looked for, so that a token that is not
`Jwt.WellFormed` costs no fetch. This is so for the number of its segments and for what the first
two of them encode. It is not so for the third segment: that a signature is no base64 is found out
when the key is at hand, and the search for the key goes first, with the fetches that it makes and
the faults that it reports. `Guard.lookup_of_ill_formed` says so of every ill-formed token.
-/

namespace RpcGuard

open Jwt (Anatomy Header Malformed Token)

/-- The form that a token should have: there are three segments, of which the first encodes a
header and the second claims, and the third is base64 too. -/
def Jwt.WellFormed (token : String) : Prop :=
  ∃ (a : Anatomy token) (signature : Bytes), a.third = Base64.encode .urlSafe signature

/-- A token whose third segment cannot be decoded is ill-formed, whatever the other two are. -/
theorem Jwt.not_wellFormed_of_third {token : String} {first second third : List Char}
    (hsegments : Token.segments token = [first, second, third])
    (hthird : Base64.decode? .urlSafe third = none) : ¬WellFormed token := by
  rintro ⟨a, signature, hsignature⟩
  have hsplit : [first, second, third] = [a.first, a.second, a.third] :=
    hsegments.symm.trans (segments_eq_iff.mpr a.segmented)
  have heq : third = a.third := by
    simp only [List.cons.injEq, and_true] at hsplit
    exact hsplit.2.2
  rw [heq] at hthird
  exact Base64.decode?_urlSafe_eq_none_iff.mp hthird signature hsignature

namespace Verifier

variable {τ : Type} {v : Verifier} {resolve : Resolver τ} {now : UInt64} {token : String} {s : τ}

/-! ## What a verification does to the state -/

/-- A malformed token is refused in the state that it came in. -/
theorem verifyWith_eq_of_malformed {fault : TokenFault} (h : Malformed token fault) :
    v.verifyWith resolve now token s = (.error (.malformedToken fault), s) := by
  unfold verifyWith
  rw [Token.read_of_malformed h]

/-- The reason to refuse a token whose signature is no base64, after a search for its key. -/
def lateReason (header : Header) : Except Rejection TrustedKey → Rejection
  | .error reason => reason
  | .ok _ =>
    if header.algorithm = .rs256 then .malformedToken .base64
    else .signatureInvalid (.algorithm header.algorithm)

/-- With any key, a signature that is no base64 fails a check: that of the algorithm, which comes
first, or else its own. -/
theorem check_of_third (a : Anatomy token)
    (hthird : ∀ bs, a.third ≠ Base64.encode .urlSafe bs) (key : TrustedKey) :
    v.check key now a.toToken = .error (lateReason a.header (.ok key)) := by
  have hdecode : Base64.decode? .urlSafe a.toToken.signature = none :=
    Base64.decode?_urlSafe_eq_none_iff.mpr hthird
  have hheader : a.toToken.header = a.header := rfl
  have hsignature : checkSignature key a.toToken = .error (lateReason a.header (.ok key)) := by
    unfold checkSignature lateReason
    rw [hdecode, hheader]
    by_cases halg : a.header.algorithm = .rs256
    · rw [if_neg (not_not_intro halg), if_pos halg]
    · rw [if_pos halg, if_neg halg]
  unfold check
  rw [hsignature]
  rfl

/-- A token of which only the signature is ill-formed is refused in the state that the search for
its key leaves. -/
theorem verifyWith_eq_of_third (a : Anatomy token)
    (hthird : ∀ bs, a.third ≠ Base64.encode .urlSafe bs) :
    v.verifyWith resolve now token s =
      (.error (lateReason a.header (resolve a.header.kid s).1), (resolve a.header.kid s).2) := by
  have hheader : a.toToken.header = a.header := rfl
  unfold verifyWith
  rw [Token.read_of_anatomy a]
  dsimp only
  rw [hheader]
  obtain ⟨reason | key, after⟩ := resolve a.header.kid s
  · rfl
  · exact congrArg (fun x => (x, after)) (check_of_third a hthird key)

end Verifier

namespace Guard

variable {σ : Type}

/-- **Ill-formed tokens**: whatever the source of keys and the state of its cache, a token with a
fault in the number of its segments or in the first two of them is refused as malformed, and the
state stays as it is, without a fetch. A token with a fault in its third segment alone is refused
after the search for its key, in the state and with the fetches of this search: for the fault of
the search, or for an algorithm that is not allowed, and only then as malformed. -/
theorem lookup_of_ill_formed {token : String} (h : ¬Jwt.WellFormed token) (g : Guard)
    (f : Fetcher σ) (uptime : Uptime) (now : UInt64) (s : Shared σ) :
    (¬Nonempty (Anatomy token) → ∃ fault,
      g.verifier.verify f uptime now token s = (.error (.malformedToken fault), s) ∧
      g.fetches f uptime (.verify now token) s = []) ∧
    ∀ a : Anatomy token,
      let search := g.verifier.keys.resolve f uptime a.header.kid s
      g.verifier.verify f uptime now token s =
        (.error (Verifier.lateReason a.header search.1), search.2) ∧
      g.fetches f uptime (.verify now token) s = g.fetches f uptime (.resolve a.header.kid) s := by
  constructor
  · intro hnone
    -- what has no anatomy is malformed, and a fetcher that keeps a record is left alone as well
    obtain ⟨⟨a⟩⟩ | ⟨fault, hfault⟩ := Token.anatomy_or_malformed token
    · exact absurd ⟨a⟩ hnone
    · have hverify : ∀ (τ : Type) (f : Fetcher τ) (s : Shared τ),
          g.verifier.verify f uptime now token s = (.error (.malformedToken fault), s) :=
        fun τ f s => Verifier.verifyWith_eq_of_malformed hfault
      have hstep : g.step f.recorded uptime (.verify now token) s.recorded =
          (.token (.error (.malformedToken fault)), s.recorded) := by
        unfold step
        dsimp only
        rw [hverify]
      refine ⟨fault, hverify σ f s, ?_⟩
      unfold fetches
      rw [hstep]
      rfl
  · intro a search
    have hthird : ∀ bs, a.third ≠ Base64.encode .urlSafe bs :=
      fun bs hbs => h ⟨a, bs, hbs⟩
    have hverify : ∀ (τ : Type) (f : Fetcher τ) (s : Shared τ),
        g.verifier.verify f uptime now token s =
          (.error (Verifier.lateReason a.header (g.verifier.keys.resolve f uptime a.header.kid s).1),
            (g.verifier.keys.resolve f uptime a.header.kid s).2) :=
      fun τ f s => Verifier.verifyWith_eq_of_third a hthird
    have hstate : (g.step f.recorded uptime (.verify now token) s.recorded).2 =
        (g.step f.recorded uptime (.resolve a.header.kid) s.recorded).2 := by
      unfold step
      dsimp only
      rw [hverify]
    refine ⟨hverify σ f s, ?_⟩
    unfold fetches
    rw [hstate]

/-- A token of two segments: nothing is in the cache, and still nothing is fetched. -/
theorem lookup_of_ill_formed_short :
    let remote : Remote := ⟨{ scheme := "keys", path := .segments [] }, ⟨600, 30, 5, 3600⟩⟩
    let g : Guard := ⟨⟨some "issuer", 0, .remote remote⟩, ⟨none, []⟩, ⟨[]⟩, .reject, []⟩
    ¬Jwt.WellFormed "e30.e30" ∧ ∃ fault,
      g.verifier.verify Fetch.unreachable 0 0 "e30.e30" ⟨none, ()⟩ =
        (.error (.malformedToken fault), ⟨none, ()⟩) ∧
      g.fetches Fetch.unreachable 0 (.verify 0 "e30.e30") ⟨none, ()⟩ = [] := by
  intro remote g
  have hread : (Token.read "e30.e30").isOk = false := by decide +kernel
  have hnone : ¬Nonempty (Anatomy "e30.e30") := by
    rintro ⟨a⟩
    rw [Token.read_of_anatomy a] at hread
    cases hread
  have hform : ¬Jwt.WellFormed "e30.e30" := fun ⟨a, _⟩ => hnone ⟨a⟩
  exact ⟨hform, (lookup_of_ill_formed hform g Fetch.unreachable 0 0 ⟨none, ()⟩).1 hnone⟩

/-- A token with a signature that is no base64 is not refused for it: a fetch is made for its key,
and the reason is that this failed. -/
theorem lookup_before_third_segment :
    let remote : Remote := ⟨{ scheme := "keys", path := .segments [] }, ⟨600, 30, 5, 3600⟩⟩
    let g : Guard := ⟨⟨some "issuer", 0, .remote remote⟩, ⟨none, []⟩, ⟨[]⟩, .reject, []⟩
    let token := "eyJhbGciOiJSUzI1NiJ9.e30.!"
    ¬Jwt.WellFormed token ∧
      (g.verifier.verify Fetch.unreachable 0 0 token ⟨none, ()⟩).1 =
        .error (.keyUnavailable (.fetch .unreachable)) ∧
      (g.fetches Fetch.unreachable 0 (.verify 0 token) ⟨none, ()⟩).length = 1 := by
  intro remote g token
  have hsegments : Token.segments token =
      ["eyJhbGciOiJSUzI1NiJ9".toList, "e30".toList, "!".toList] := by decide +kernel
  have hthird : Base64.decode? .urlSafe "!".toList = none := by decide +kernel
  have hreason : (match (g.verifier.verify Fetch.unreachable 0 0 token ⟨none, ()⟩).1 with
      | .error reason => decide (reason = .keyUnavailable (.fetch .unreachable))
      | .ok _ => false) = true := by decide +kernel
  refine ⟨Jwt.not_wellFormed_of_third hsegments hthird, ?_, by decide +kernel⟩
  cases hverify : (g.verifier.verify Fetch.unreachable 0 0 token ⟨none, ()⟩).1 with
  | ok v =>
    rw [hverify] at hreason
    cases hreason
  | error reason =>
    rw [hverify] at hreason
    exact congrArg Except.error (of_decide_eq_true hreason)

end Guard

end RpcGuard
