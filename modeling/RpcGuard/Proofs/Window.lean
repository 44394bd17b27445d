import RpcGuard.Proofs.Acceptance

/-!
# The window of a token

The clock is asked twice about a token: whether it has expired, and whether it is valid yet. A token
that passes all other checks (`Verifier.PassesUntimed`) is accepted at the instants of a window, from
its first instant less the leeway to its last instant plus the leeway (`Verifier.InForce`), and
refused outside of it for the one reason or the other (`Verifier.accepted_in_window`).

The sums in the window are those of natural numbers. The verifier adds 64-bit numbers and stops at
the largest of them, which makes no difference: no clock is later than that.
-/

namespace RpcGuard.Verifier

open Jwt (Anatomy)

/-- The token passes all checks but those of its dates, and stands for the result: it has an
anatomy, its key is found, and the stages of the signature and the issuer hold. -/
def PassesUntimed (v : Verifier) (resolved : Option String → Except Rejection TrustedKey)
    (token : String) (result : VerifiedToken) : Prop :=
  ∃ (a : Anatomy token) (key : TrustedKey), resolved a.header.kid = .ok key ∧
    (∀ stage ∈ signatureStages key a, stage.Holds) ∧
    (∀ stage ∈ v.issuerStages a.claims, stage.Holds) ∧ result = ⟨a.header, a.claims⟩

/-! ## Dates and the clock -/

/-- The clock is not past the expiry, and not before the start if there is one, when it may be off
by the leeway. -/
def InForce (leeway expiry : UInt64) (start? : Option UInt64) (now : UInt64) : Prop :=
  now.toNat ≤ expiry.toNat + leeway.toNat ∧
    ∀ start, start? = some start → start.toNat ≤ now.toNat + leeway.toNat

/-- What the clock says of a token with these dates. A token that has expired is not asked for its
start. -/
inductive Timing (leeway expiry : UInt64) (start? : Option UInt64) (now : UInt64) :
    Except Rejection Unit → Prop where
  | expired (hlate : expiry.toNat + leeway.toNat < now.toNat) :
    Timing leeway expiry start? now (.error .expiredToken)
  | early (hlate : now.toNat ≤ expiry.toNat + leeway.toNat) {start : UInt64}
    (hstart : start? = some start) (hearly : now.toNat + leeway.toNat < start.toNat) :
    Timing leeway expiry start? now (.error .tokenNotYetValid)
  | inForce (h : InForce leeway expiry start? now) : Timing leeway expiry start? now (.ok ())

section Dates

variable {leeway leeway' expiry first now last : UInt64} {start? : Option UInt64}

/-- An instant between two instants of the window is in the window. -/
theorem InForce.between (hfirst : InForce leeway expiry start? first)
    (hlast : InForce leeway expiry start? last) (hle : first ≤ now) (hle' : now ≤ last) :
    InForce leeway expiry start? now := by
  rw [UInt64.le_iff_toNat_le] at hle hle'
  refine ⟨by have := hlast.1; omega, fun start hstart => ?_⟩
  have := hfirst.2 start hstart
  omega

/-- A larger leeway makes the window no smaller. -/
theorem InForce.mono (h : InForce leeway expiry start? now) (hle : leeway ≤ leeway') :
    InForce leeway' expiry start? now := by
  rw [UInt64.le_iff_toNat_le] at hle
  refine ⟨by have := h.1; omega, fun start hstart => ?_⟩
  have := h.2 start hstart
  omega

/-! Each of the three things that the clock can say excludes the other two. -/

theorem Timing.eq_ok_iff {verdict : Except Rejection Unit}
    (h : Timing leeway expiry start? now verdict) :
    verdict = .ok () ↔ InForce leeway expiry start? now := by
  cases h with
  | expired hlate =>
    simp [InForce]
    omega
  | early hlate hstart hearly =>
    simp [InForce, hstart]
    omega
  | inForce h => simp [h]

theorem Timing.eq_expired_iff {verdict : Except Rejection Unit}
    (h : Timing leeway expiry start? now verdict) :
    verdict = .error .expiredToken ↔ expiry.toNat + leeway.toNat < now.toNat := by
  cases h with
  | expired hlate => simp [hlate]
  | early hlate hstart hearly => simp [hlate]
  | inForce h => simp [h.1]

theorem Timing.eq_early_iff {verdict : Except Rejection Unit}
    (h : Timing leeway expiry start? now verdict) :
    verdict = .error .tokenNotYetValid ↔ now.toNat ≤ expiry.toNat + leeway.toNat ∧
      ∃ start, start? = some start ∧ now.toNat + leeway.toNat < start.toNat := by
  cases h with
  | expired hlate =>
    simp
    omega
  | early hlate hstart hearly => simp [hlate, hstart, hearly]
  | inForce h =>
    simp only [reduceCtorEq, false_iff]
    rintro ⟨-, start, hstart, hearly⟩
    have := h.2 start hstart
    omega

theorem timing_checkDates (v : Verifier) (now : UInt64) {c : Claims}
    (hexpiry : c.expiry = some expiry) :
    Timing v.leeway expiry c.notBefore now (v.checkDates now c) := by
  unfold checkDates
  simp only [hexpiry, saturatingAdd_lt_iff]
  by_cases hlate : expiry.toNat + v.leeway.toNat < now.toNat
  · rw [if_pos hlate]
    exact .expired hlate
  · rw [if_neg hlate]
    cases hstart : c.notBefore with
    | none =>
      refine .inForce ⟨by omega, fun start h => ?_⟩
      cases h
    | some start =>
      by_cases hearly : now.toNat + v.leeway.toNat < start.toNat
      · simp only [hearly, if_true]
        exact .early (by omega) rfl hearly
      · simp only [hearly, if_false]
        refine .inForce ⟨by omega, fun start' h => ?_⟩
        obtain rfl := Option.some.inj h
        omega

end Dates

/-! ## The answer of the clock is the answer -/

section Untimed

variable {v : Verifier} {token : String} {now : UInt64}

/-- With the signature and the issuer checked, the dates decide. -/
theorem check_of_untimed {a : Anatomy token} {key : TrustedKey}
    (hsignature : ∀ stage ∈ signatureStages key a, stage.Holds)
    (hissuer : ∀ stage ∈ v.issuerStages a.claims, stage.Holds) :
    v.check key now a.toToken =
      (v.checkDates now a.claims).map fun _ => (⟨a.header, a.claims⟩ : VerifiedToken) := by
  have hchecked : checkSignature key a.toToken = .ok () :=
    (verdict_checkSignature key a).eq_ok_iff.mpr ⟨hsignature, rfl⟩
  have hissued : v.checkIssuer a.toToken.claims = .ok () :=
    (v.verdict_checkIssuer a.claims).eq_ok_iff.mpr ⟨hissuer, rfl⟩
  unfold check
  rw [hchecked, hissued]
  show (v.checkDates now a.claims >>= fun _ => pure (VerifiedToken.mk a.header a.claims)) = _
  cases v.checkDates now a.claims with
  | error reason => rfl
  | ok u => rfl

/-- **The window of a token**: let a token pass every check that does not look at the clock. With
any leeway and at any instant, it is accepted exactly if it is in force, reported as expired exactly
if the instant is past its expiry and the leeway, and as not yet valid exactly if it is not that,
but the instant and the leeway do not reach its start. The sums may be larger than any clock. So the
instants at which it is accepted have no gap, and it stays accepted when the leeway grows. -/
theorem accepted_in_window {σ : Type} {f : Fetcher σ} {uptime : Uptime} {s : Shared σ}
    {result : VerifiedToken} {expiry : UInt64}
    (h : v.PassesUntimed (fun kid => (v.keys.resolve f uptime kid s).1) token result)
    (hexpiry : result.claims.expiry = some expiry) :
    let answer := fun leeway now => (verify { v with leeway } f uptime now token s).1
    let start? := result.claims.notBefore
    (∀ leeway now,
      (answer leeway now = .ok result ↔ InForce leeway expiry start? now) ∧
      (answer leeway now = .error .expiredToken ↔
        expiry.toNat + leeway.toNat < now.toNat) ∧
      (answer leeway now = .error .tokenNotYetValid ↔
        now.toNat ≤ expiry.toNat + leeway.toNat ∧
          ∃ start, start? = some start ∧ now.toNat + leeway.toNat < start.toNat)) ∧
    (∀ leeway first now last, first ≤ now → now ≤ last →
      answer leeway first = .ok result → answer leeway last = .ok result →
        answer leeway now = .ok result) ∧
    ∀ leeway leeway' now, leeway ≤ leeway' →
      answer leeway now = .ok result → answer leeway' now = .ok result := by
  intro answer start?
  obtain ⟨a, key, hkey, hsignature, hissuer, rfl⟩ := h
  have hanswer : ∀ leeway now, answer leeway now =
      (checkDates { v with leeway } now a.claims).map fun _ => ⟨a.header, a.claims⟩ := by
    intro leeway now
    have hchecked : check { v with leeway } key now a.toToken = _ :=
      check_of_untimed hsignature hissuer
    rw [← hchecked]
    refine (verifyWith_of_anatomy a).trans ?_
    dsimp only at hkey ⊢
    rw [hkey]
  have htiming : ∀ leeway now, Timing leeway expiry start? now
      (checkDates { v with leeway } now a.claims) :=
    fun leeway now => timing_checkDates { v with leeway } now hexpiry
  have haccepted : ∀ leeway now,
      answer leeway now = .ok ⟨a.header, a.claims⟩ ↔ InForce leeway expiry start? now := by
    intro leeway now
    rw [hanswer, Outcome.map_const_eq_ok_iff]
    exact (htiming leeway now).eq_ok_iff
  refine ⟨fun leeway now => ⟨haccepted leeway now, ?_, ?_⟩,
    fun leeway first now last hle hle' hfirst hlast => ?_,
    fun leeway leeway' now hle hnow => ?_⟩
  · rw [hanswer, Outcome.map_eq_error_iff]
    exact (htiming leeway now).eq_expired_iff
  · rw [hanswer, Outcome.map_eq_error_iff]
    exact (htiming leeway now).eq_early_iff
  · rw [haccepted] at hfirst hlast ⊢
    exact hfirst.between hlast hle hle'
  · rw [haccepted] at hnow ⊢
    exact hnow.mono hle

/-- A token that is in force from a date up to the last instant of the clock, with a leeway that
takes both sums past it. The key is made for the token: its modulus is what the encoding of the
signed bytes lacks of the cube of the signature, `2 ^ 2064`. -/
theorem accepted_in_window_to_the_last :
    let header := Utf8.bytes "\x7b\"alg\":\"RS256\"\x7d"
    let payload :=
      Utf8.bytes "\x7b\"iss\":\"issuer\",\"exp\":18446744073709551615,\"nbf\":7\x7d"
    let signature : Bytes := List.replicate 171 0 ++ 1 :: List.replicate 86 0
    let modulus : Bytes := 255 :: 254 :: List.replicate 204 0 ++
      [
        255, 207, 206, 207, 242, 249, 246, 159, 121, 183, 254, 154, 252, 251, 253, 254,
        250, 255, 251, 223, 168, 14, 54, 215, 46, 37, 192, 184, 56, 72, 252, 81, 123,
        211, 14, 55, 165, 170, 134, 47, 188, 20, 255, 27, 63, 214, 95, 119, 161, 178,
        72, 73]
    let token := Jwt.written header payload signature
    let v : Verifier := ⟨some "issuer", 0, .static ⟨none, .components ⟨modulus, [3]⟩⟩⟩
    let answer := fun leeway now =>
      (verify { v with leeway } Fetch.unreachable 0 now token ⟨none, ()⟩).1
    ∃ result, v.PassesUntimed
        (fun kid => (v.keys.resolve Fetch.unreachable 0 kid ⟨none, ()⟩).1) token result ∧
      result.claims.expiry = some 18446744073709551615 ∧
      answer 5 1 = .error .tokenNotYetValid ∧ answer 5 2 = .ok result ∧
      answer 5 18446744073709551615 = .ok result := by
  intro header payload signature modulus token v answer
  have hheader : (Jwt.Header.read? header).map (fun h => (h.algorithm, h.kid)) =
      some (.rs256, none) := by decide +kernel
  have hclaims : (Claims.read payload).toOption.map
      (fun c => (c.issuer, c.expiry, c.notBefore)) =
      some (some "issuer", some 18446744073709551615, some 7) := by decide +kernel
  have hverifies : TrustedKey.verifies ⟨none, .components ⟨modulus, [3]⟩⟩
      (Utf8.encode (Base64.encode .urlSafe header ++ '.' :: Base64.encode .urlSafe payload))
      signature = true := by decide +kernel
  have haudience : ((Json.Opening.read payload).members.filter
      fun m => Json.text? m.1 == some "aud").length = 0 := by decide +kernel
  obtain ⟨h, hread, hheader⟩ := Option.map_eq_some_iff.mp hheader
  obtain ⟨c, hclaimed, hclaims⟩ := Option.map_eq_some_iff.mp hclaims
  simp only [Prod.mk.injEq] at hheader hclaims
  obtain ⟨hissuer, hexpiry, hstart⟩ := hclaims
  let a : Anatomy token :=
    Anatomy.ofWritten signature hread (Outcome.toOption_eq_some_iff.mp hclaimed)
  have honce : a.NamesAudienceOnce := by
    have hpayload : a.toToken.payload = payload := rfl
    rw [← Jwt.Token.repeatsAudience_eq_false_iff, Jwt.Token.repeatsAudience, hpayload]
    simp only [haudience, Nat.not_lt_zero, decide_false]
  have hpasses : v.PassesUntimed
      (fun kid => (v.keys.resolve Fetch.unreachable 0 kid ⟨none, ()⟩).1) token ⟨h, c⟩ := by
    exact ⟨a, ⟨none, .components ⟨modulus, [3]⟩⟩, rfl,
      signatureStages_hold hheader.1 rfl hverifies honce, issuerStages_hold rfl hissuer, rfl⟩
  have hwindow := (accepted_in_window hpasses hexpiry).1
  refine ⟨⟨h, c⟩, hpasses, hexpiry, ?_, ?_, ?_⟩
  · exact (hwindow 5 1).2.2.mpr ⟨by decide +kernel, 7, hstart, by decide +kernel⟩
  · refine (hwindow 5 2).1.mpr ⟨by decide +kernel, fun start h => ?_⟩
    obtain rfl := Option.some.inj (hstart.symm.trans h)
    decide +kernel
  · refine (hwindow 5 18446744073709551615).1.mpr ⟨by decide +kernel, fun start h => ?_⟩
    obtain rfl := Option.some.inj (hstart.symm.trans h)
    decide +kernel

end Untimed

end RpcGuard.Verifier
