import RpcGuard.Proofs.Acceptance
import RpcGuard.Proofs.Claims.Roles
import RpcGuard.Proofs.Construction
import RpcGuard.Proofs.Credentials
import RpcGuard.Proofs.Policy.Compilation
import RpcGuard.Proofs.Presentation
import RpcGuard.Proofs.Trust.PublicKey

/-!
# Complete mediation

A guard that was built lets a call pass for no other reason than the settings, the declarations and
the token of the call give. `PassesUnchecked` are the calls that go on without a token, `Admits` the
ones that go on with one, and `authorize_mediates` says that the guard decides exactly so: whatever
the cache holds, however the fetcher behaves, and with a rejection for every other call.
-/

namespace RpcGuard

/-- Callers with these roles may call the method: its service is not secured, or the method is
annotated for everyone or for one of the roles. -/
def OpenTo (ds : List ServiceDeclaration) (service method : String) (roles : List String) : Prop :=
  ¬SecuredBy ds service ∨ AnnotatedBy ds service method .permitAll ∨
    ∃ allowed, AnnotatedBy ds service method (.rolesAllowed allowed) ∧ ∃ r ∈ allowed, r ∈ roles

/-- The table lets a caller in exactly if the declarations do. -/
theorem ResourceNames.permits_iff_of_compile {ds : List ServiceDeclaration} {t : PolicyTable}
    (h : PolicyTable.compile ds = .ok t) {r : ResourceNames} {service method : String}
    {c : Claims} :
    r.permits t service method c = true ↔
      OpenTo ds service method (r.callerRoles service c) := by
  have hsecured : t.isSecured service = true ↔ SecuredBy ds service :=
    PolicyTable.isSecured_iff_of_compile h
  have hget : ∀ p, t.get? service method = some p ↔ AnnotatedBy ds service method p :=
    fun p => PolicyTable.get?_eq_some_iff_of_compile h
  unfold permits OpenTo
  simp only [← hget, ← hsecured]
  cases hp : t.get? service method with
  | none => simp
  | some p =>
    have hsec : t.isSecured service = true :=
      hsecured.mpr (AnnotatedBy.secured ((hget p).mp hp))
    cases p with
    | deny => simp [hsec]
    | permitAll => simp
    | rolesAllowed allowed =>
      simp only [List.any_eq_true, decide_eq_true_eq, hsec, not_true, false_or, Option.some.injEq,
        reduceCtorEq, AccessPolicy.rolesAllowed.injEq, exists_eq_left']
      exact exists_congr fun role => and_comm

namespace Guard

variable {s : Settings} {ds : List ServiceDeclaration} {g : Guard}

/-- What a guard takes over from the settings and the declarations that it is built from. -/
structure BuiltFrom (g : Guard) (s : Settings) (ds : List ServiceDeclaration) : Prop where
  skipped : g.skipped = s.skippedServices
  unknownScheme : g.unknownScheme = s.unknownScheme
  resources : g.resources = ⟨s.globalResource, s.resourceNames⟩
  policies : PolicyTable.compile ds = .ok g.policies

theorem builtFrom_of_build (h : build s ds = .ok g) : BuiltFrom g s ds := by
  obtain ⟨trust, htrust, h⟩ := Outcome.bind_eq_ok_iff.mp h
  obtain ⟨keys, hkeys, h⟩ := Outcome.bind_eq_ok_iff.mp h
  obtain ⟨policies, hpolicies, h⟩ := Outcome.bind_eq_ok_iff.mp h
  obtain rfl := Except.ok.inj h
  have hresource : trust.resourceName = s.globalResource := by
    obtain ⟨source, -, htrust⟩ :=
      Outcome.bind_eq_ok_iff.mp (Outcome.mapError_eq_ok_iff.mp htrust)
    obtain rfl := Except.ok.inj htrust
    rfl
  exact { skipped := rfl, unknownScheme := rfl,
          resources := congrArg (fun name => (⟨name, s.resourceNames⟩ : ResourceNames)) hresource,
          policies := Outcome.mapError_eq_ok_iff.mp hpolicies }

/-! ## The two ways on -/

/-- The call goes on without a token: its service is skipped, or it presents another scheme than
that of bearer tokens where this is no reason to refuse. -/
def PassesUnchecked (s : Settings) (ds : List ServiceDeclaration) (service : String)
    (hs : Headers) : Prop :=
  service ∈ s.skippedServices ∨
    ∃ scheme token, Presents hs scheme token ∧ isBearer scheme = false ∧
      (s.unknownScheme = .passThrough ∨ ¬SecuredBy ds service)

/-- The call goes on with a verified token: it presents a bearer token that `verify` accepts, and
the roles of the caller open the method. -/
def Admits (s : Settings) (ds : List ServiceDeclaration)
    (verify : String → Except Rejection VerifiedToken) (service method : String) (hs : Headers)
    (v : VerifiedToken) : Prop :=
  service ∉ s.skippedServices ∧
    ∃ scheme token, Presents hs scheme token.toList ∧ isBearer scheme = true ∧
      token.toList ≠ [] ∧ verify token = .ok v ∧
        OpenTo ds service method
          (ResourceNames.callerRoles ⟨s.globalResource, s.resourceNames⟩ service v.claims)

end Guard

/-! ## A specimen

An administrator of a shop, with a token that really is verified. Signatures cannot be made here, so
the key is made for the token instead. -/

namespace Specimen

/-- The modulus of the key, whose exponent is three: what the encoding of the signed bytes lacks of
the cube of the signature, `2 ^ 2064`. -/
def modulus : Bytes := 255 :: 254 :: List.replicate 204 0 ++
  [
    255, 207, 206, 207, 242, 249, 246, 159, 121, 183, 254, 154, 252, 251, 253, 254,
    250, 255, 251, 223, 238, 84, 13, 241, 71, 243, 255, 65, 103, 47, 123, 80, 28,
    71, 101, 193, 185, 35, 233, 84, 96, 145, 115, 136, 108, 51, 153, 72, 197, 26,
    190, 39]

/-- Modulus and exponent in DER. -/
def der : Bytes := [0x30, 0x82, 1, 10, 2, 0x82, 1, 3, 0] ++ modulus ++ [2, 1, 3]

def key : TrustedKey := ⟨none, .der der⟩

def pem : String := String.ofList ("-----BEGIN RSA PUBLIC KEY-----".toList ++
  Base64.encode .standard der ++ "-----END RSA PUBLIC KEY-----".toList)

def header : Bytes := Utf8.bytes "\x7b\"alg\":\"RS256\"\x7d"

def payload : Bytes := Utf8.bytes ("\x7b\"iss\":\"issuer\",\"exp\":9," ++
  "\"resource_access\":\x7b\"orders\":\x7b\"roles\":[\"admin\"]\x7d\x7d\x7d")

def signature : Bytes := List.replicate 171 0 ++ 1 :: List.replicate 86 0

def token : String := Jwt.written header payload signature

def declarations : List ServiceDeclaration :=
  [⟨"shop.Orders", true, ["Cancel"], [⟨"cancel", some (.rolesAllowed ["admin"])⟩]⟩]

/-- Settings with names of resources: a default, and one of the service's own. -/
def settings (default own : String) : Settings where
  issuer := some "issuer"
  publicKey := some pem
  resourceName := some default
  resourceNames := [("shop.Orders", own)]

def guard (default own : String) : Guard where
  verifier := ⟨some "issuer", 0, .static key⟩
  resources := ⟨Text.nonBlank (some default), [("shop.Orders", own)]⟩
  policies := ⟨[("shop.Orders", [("Cancel", .rolesAllowed ["admin"])])]⟩
  unknownScheme := .reject
  skipped := []

theorem annotated : AnnotatedBy declarations "shop.Orders" "Cancel" (.rolesAllowed ["admin"]) :=
  ⟨_, List.mem_singleton_self _, rfl, rfl, List.mem_singleton_self _, _, rfl, rfl⟩

theorem select_settings (default own : String) :
    Trust.select (settings default own) = .ok (some (.pem pem)) :=
  Trust.select_of_pem (s := settings default own) rfl rfl (by decide +kernel) (by decide +kernel)
    (by decide +kernel)

theorem build_settings (default own : String) :
    Guard.build (settings default own) declarations = .ok (guard default own) :=
  have hkeys : KeySource.ofTrust (some (.pem pem)) (.ofSettings (settings default own)) =
      .ok (.static key) :=
    KeySource.ofTrust_of_pem _ (by decide +kernel) (by decide +kernel)
  Guard.build_of_parts (select_settings default own) hkeys rfl

/-- The guards verify the token, whatever the cache and the fetcher are. -/
theorem exists_verified :
    ∃ v : VerifiedToken, v.claims.HasOnly "orders" "admin" ∧
      ∀ (default own : String) {σ : Type} (f : Fetcher σ) (uptime : Uptime) (shared : Shared σ),
        ((guard default own).verifier.verify f uptime 1 token shared).1 = .ok v := by
  have hheader : (Jwt.Header.read? header).map (fun h => (h.algorithm, h.kid)) =
      some (.rs256, none) := by decide +kernel
  have hclaimed : (Claims.read payload).isOk = true := by decide +kernel
  have htyped : (Claims.read payload).toOption.map
      (fun c => (c.issuer, c.expiry, c.notBefore)) = some (some "issuer", some 9, none) := by
    decide +kernel
  have hroles : (Claims.read payload).toOption.map (fun c => (c.resourceAccess, c.roles)) =
      some (some [("orders", ["admin"])], none) := by decide +kernel
  have hverifies : key.verifies
      (Utf8.encode (Base64.encode .urlSafe header ++ '.' :: Base64.encode .urlSafe payload))
      signature = true := by decide +kernel
  have haudience : ((Json.Opening.read payload).members.filter
      fun m => Json.text? m.1 == some "aud").length = 0 := by decide +kernel
  obtain ⟨h, hread, hheader⟩ := Option.map_eq_some_iff.mp hheader
  obtain ⟨c, hclaimed⟩ := Outcome.isOk_iff.mp hclaimed
  rw [hclaimed] at htyped hroles
  obtain ⟨hissuer, hexpiry, hstart⟩ : c.issuer = some "issuer" ∧ c.expiry = some 9 ∧
      c.notBefore = none := by simpa [Except.toOption] using htyped
  obtain ⟨haccess, hflat⟩ : c.resourceAccess = some [("orders", ["admin"])] ∧ c.roles = none := by
    simpa [Except.toOption] using hroles
  let a : Jwt.Anatomy token := Jwt.Anatomy.ofWritten signature hread hclaimed
  have honce : a.NamesAudienceOnce := Jwt.Token.namesAudienceOnce_of_none haudience
  refine ⟨⟨h, c⟩, ⟨haccess, hflat⟩, fun default own σ f uptime shared => ?_⟩
  have hdates : ∀ s ∈ (guard default own).verifier.dateStages 1 c, s.Holds := by
    simp only [Verifier.dateStages, List.forall_mem_cons]
    have hlater : (1 : UInt64).toNat ≤ (9 : UInt64).toNat := by decide
    exact ⟨⟨9, hexpiry⟩, ⟨9, hexpiry, hlater⟩,
      fun start hsome => (nomatch hstart.symm.trans hsome), nofun⟩
  have haccepts : (guard default own).verifier.Accepts (fun _ => .ok key) 1 token ⟨h, c⟩ :=
    ⟨a, key, rfl, List.forall_mem_append.mpr
      ⟨Verifier.signatureStages_hold (Prod.mk.inj hheader).1 rfl hverifies honce,
        List.forall_mem_append.mpr ⟨Verifier.issuerStages_hold rfl hissuer, hdates⟩⟩, rfl⟩
  exact Verifier.verifyWith_of_accepts (fun _ => rfl) haccepts

/-- What the guards decide about the administrator rests with the resource of the service. -/
theorem exists_decided :
    ∃ v : VerifiedToken, v.claims.HasOnly "orders" "admin" ∧ ∀ default own : String,
      ((guard default own).authorize Fetch.unreachable 0 1 "/shop.Orders/Cancel" (.bearing token)
          ⟨none, ()⟩).1 =
        if (guard default own).resources.resourceFor "shop.Orders" = some "orders" then .allow v
        else .reject .permissionDenied := by
  obtain ⟨v, hclaims, hverified⟩ := exists_verified
  refine ⟨v, hclaims, fun default own => ?_⟩
  have hpath : Guard.serviceAndMethod "/shop.Orders/Cancel" = ("shop.Orders", "Cancel") := by
    decide +kernel
  have hpolicy : (guard default own).policies.get? "shop.Orders" "Cancel" =
      some (.rolesAllowed ["admin"]) := rfl
  have hjudged : ((guard default own).authorize Fetch.unreachable 0 1 "/shop.Orders/Cancel"
      (.bearing token) ⟨none, ()⟩).1 = (guard default own).judge "/shop.Orders/Cancel" (.ok v) :=
    (Guard.authorize_of_written List.not_mem_nil).trans (congrArg _ (hverified ..))
  rw [hjudged, Guard.judge, hpath]
  exact if_congr (ResourceNames.permits_iff_of_hasOnly hpolicy (List.mem_singleton_self _) hclaims)
    rfl rfl

end Specimen

namespace Guard

variable {s : Settings} {ds : List ServiceDeclaration} {g : Guard}

/-! ## The decision -/

section Decision

variable {τ : Type} {resolve : Resolver τ} {now : UInt64} {path : String} {hs : Headers} {st : τ}

/-- A call goes on without a token only by way of the settings. -/
theorem authorizeWith_eq_passThrough_iff :
    (g.authorizeWith resolve now path hs st).1 = .passThrough ↔
      (serviceAndMethod path).1 ∈ g.skipped ∨
        g.bearerToken (serviceAndMethod path).1 hs = .error .passThrough := by
  unfold authorizeWith
  dsimp only
  by_cases hskip : (serviceAndMethod path).1 ∈ g.skipped
  · simp [hskip]
  · rw [if_neg hskip]
    cases hread : g.bearerToken (serviceAndMethod path).1 hs with
    | error decision => simp [hskip]
    | ok token =>
      dsimp only
      rcases g.verifier.verifyWith resolve now token st with ⟨reason | v, after⟩
      · simp [hskip]
      · dsimp only
        split <;> simp [hskip]

/-- A call goes on with a token only by way of its verification and the policies. -/
theorem authorizeWith_eq_allow_iff {v : VerifiedToken} :
    (g.authorizeWith resolve now path hs st).1 = .allow v ↔
      (serviceAndMethod path).1 ∉ g.skipped ∧
        ∃ token, g.bearerToken (serviceAndMethod path).1 hs = .ok token ∧
          (g.verifier.verifyWith resolve now token st).1 = .ok v ∧
            g.resources.permits g.policies (serviceAndMethod path).1 (serviceAndMethod path).2
              v.claims = true := by
  unfold authorizeWith
  dsimp only
  by_cases hskip : (serviceAndMethod path).1 ∈ g.skipped
  · simp [hskip]
  · rw [if_neg hskip]
    cases hread : g.bearerToken (serviceAndMethod path).1 hs with
    | error decision =>
      have hne : decision ≠ .allow v := by
        rintro rfl
        exact bearerToken_ne_allow v hread
      simp [hne]
    | ok token =>
      simp only [hskip, not_false_eq_true, true_and, Except.ok.injEq, exists_eq_left']
      rcases g.verifier.verifyWith resolve now token st with ⟨reason | w, after⟩
      · simp
      · dsimp only
        split
        · next hpermits =>
          constructor
          · intro hw
            obtain rfl := Decision.allow.inj hw
            exact ⟨rfl, hpermits⟩
          · rintro ⟨hw, -⟩
            exact congrArg Decision.allow (Except.ok.inj hw)
        · next hdenies =>
          constructor
          · intro hw
            cases hw
          · rintro ⟨hw, hpermits⟩
            obtain rfl := Except.ok.inj hw
            exact absurd hpermits hdenies

end Decision

/-- **Complete mediation**: a guard that was built decides about every call as the settings, the
declarations and the verification of the presented token say, in every state that calls share and
for every fetcher. -/
theorem authorize_mediates (hbuild : build s ds = .ok g) {σ : Type} (f : Fetcher σ)
    (uptime : Uptime) (now : UInt64) (path : String) (hs : Headers) (shared : Shared σ) :
    let service := (serviceAndMethod path).1
    let method := (serviceAndMethod path).2
    let verify := fun token => (g.verifier.verify f uptime now token shared).1
    let decision := (g.authorize f uptime now path hs shared).1
    (decision = .passThrough ↔ PassesUnchecked s ds service hs) ∧
      (∀ v, decision = .allow v ↔ Admits s ds verify service method hs v) ∧
      (¬PassesUnchecked s ds service hs → (∀ v, ¬Admits s ds verify service method hs v) →
        ∃ reason, decision = .reject reason) := by
  have hg := builtFrom_of_build hbuild
  intro service method verify decision
  have hpass : decision = .passThrough ↔ PassesUnchecked s ds service hs := by
    refine authorizeWith_eq_passThrough_iff.trans ?_
    rw [bearerToken_eq_passThrough_iff, hg.skipped, hg.unknownScheme]
    unfold PassesUnchecked
    rw [← PolicyTable.isSecured_iff_of_compile hg.policies, Bool.not_eq_true]
  have hallow : ∀ v, decision = .allow v ↔ Admits s ds verify service method hs v := by
    intro v
    refine authorizeWith_eq_allow_iff.trans ?_
    unfold Admits
    rw [hg.skipped, hg.resources]
    refine and_congr_right fun _ => ?_
    constructor
    · rintro ⟨token, hread, hverify, hpermits⟩
      obtain ⟨scheme, hp, hb, hne⟩ := bearerToken_eq_ok_iff.mp hread
      exact ⟨scheme, token, hp, hb, hne, hverify,
        (ResourceNames.permits_iff_of_compile hg.policies).mp hpermits⟩
    · rintro ⟨scheme, token, hp, hb, hne, hverify, hopen⟩
      exact ⟨token, bearerToken_eq_ok_iff.mpr ⟨scheme, hp, hb, hne⟩, hverify,
        (ResourceNames.permits_iff_of_compile hg.policies).mpr hopen⟩
  -- a decision is one of three, so what is neither of the two is a rejection
  refine ⟨hpass, hallow, fun hnot hnone => ?_⟩
  cases hdecision : decision with
  | allow v => exact absurd ((hallow v).mp hdecision) (hnone v)
  | passThrough => exact absurd (hpass.mp hdecision) hnot
  | reject reason => exact ⟨reason, rfl⟩

/-- The administrator of the specimen is let in with the token, a call with credentials of another
scheme is rejected, and to a service that is not secured such a call passes. -/
theorem authorize_mediates_admin :
    let g := Specimen.guard "orders" ""
    let decision := fun path hs => (g.authorize Fetch.unreachable 0 1 path hs ⟨none, ()⟩).1
    let basic : Headers := [("authorization", Utf8.bytes "Basic eDp5")]
    build (Specimen.settings "orders" "") Specimen.declarations = .ok g ∧
      (∃ v : VerifiedToken, v.claims.HasOnly "orders" "admin" ∧
        decision "/shop.Orders/Cancel" (.bearing Specimen.token) = .allow v) ∧
      (∃ reason, decision "/shop.Orders/Cancel" basic = .reject reason) ∧
      decision "/shop.Carts/Clear" basic = .passThrough := by
  intro g decision basic
  have hbuild := Specimen.build_settings "orders" ""
  have hmediates := fun path hs =>
    authorize_mediates hbuild Fetch.unreachable 0 1 path hs ⟨none, ()⟩
  obtain ⟨v, hclaims, hverified⟩ := Specimen.exists_verified
  have hcancel : serviceAndMethod "/shop.Orders/Cancel" = ("shop.Orders", "Cancel") := by
    decide +kernel
  have hclear : (serviceAndMethod "/shop.Carts/Clear").1 = "shop.Carts" := by decide +kernel
  have hbasic : Presents basic "Basic".toList "eDp5".toList :=
    presents_iff.mpr ⟨"Basic eDp5".toList, rfl, rfl⟩
  refine ⟨hbuild, ⟨v, hclaims, ?_⟩, ?_, ?_⟩
  · obtain ⟨scheme, hpresents, hbearer, hne⟩ := presents_written
    refine ((hmediates "/shop.Orders/Cancel" (.bearing Specimen.token)).2.1 v).mpr ?_
    rw [hcancel]
    refine ⟨List.not_mem_nil, scheme, Specimen.token, hpresents, hbearer, hne, hverified _ _ _ _ _,
      .inr (.inr ⟨_, Specimen.annotated, "admin", List.mem_singleton_self _, ?_⟩)⟩
    rw [ResourceNames.callerRoles_of_hasOnly hclaims, if_pos (by decide +kernel)]
    exact List.mem_singleton_self _
  · refine (hmediates "/shop.Orders/Cancel" basic).2.2 ?_ ?_
    · rw [hcancel]
      rintro (hskip | ⟨scheme, token, -, -, hpasses | hopen⟩)
      · exact List.not_mem_nil hskip
      · cases hpasses
      · exact hopen Specimen.annotated.secured
    · rintro v' ⟨-, scheme, token, hpresents, hbearer, -⟩
      obtain ⟨text, htext, hread⟩ := presents_iff.mp hpresents
      obtain rfl : "Basic eDp5".toList = text := Except.ok.inj htext
      obtain rfl : "Basic".toList = scheme := congrArg Prod.fst hread
      exact absurd hbearer (by decide)
  · refine (hmediates "/shop.Carts/Clear" basic).1.mpr (.inr ?_)
    rw [hclear]
    refine ⟨_, _, hbasic, by decide, .inr ?_⟩
    rintro ⟨d, hd, -, hname⟩
    obtain rfl := List.mem_singleton.mp hd
    exact absurd hname (by decide)

end Guard

end RpcGuard
