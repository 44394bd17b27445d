import RpcGuard.Proofs.Outcome
import RpcGuard.Proofs.Session

/-!
# Guards from like settings

A guard reads of its resource names only which resource counts for a service, so that guards which
differ in nothing but the writing of these names give the same answers
(`Guard.run_withResources`). Settings that differ only there are such guards, or fail alike
(`Guard.build_of_alike`).
-/

namespace RpcGuard

/-- Of the resource names, a decision depends on the one that counts for the service. -/
theorem ResourceNames.permits_congr {names names' : ResourceNames} {service : String}
    (h : names'.resourceFor service = names.resourceFor service) (t : PolicyTable) (method : String)
    (c : Claims) : names'.permits t service method c = names.permits t service method c := by
  unfold permits callerRoles
  rw [h]

namespace Guard

variable {σ τ : Type}

/-- The same guard with other names of resources. -/
def withResources (g : Guard) (names : ResourceNames) : Guard := { g with resources := names }

section

variable (g : Guard) {names : ResourceNames}

theorem authorizeWith_withResources {path : String}
    (h : names.resourceFor (serviceAndMethod path).1 =
      g.resources.resourceFor (serviceAndMethod path).1)
    (resolve : Resolver τ) (now : UInt64) (hs : Headers) (s : τ) :
    (g.withResources names).authorizeWith resolve now path hs s =
      g.authorizeWith resolve now path hs s := by
  have hpermits := ResourceNames.permits_congr h g.policies (serviceAndMethod path).2
  unfold authorizeWith
  simp only [withResources, hpermits]
  rfl

theorem step_withResources (h : ∀ service, names.resourceFor service =
    g.resources.resourceFor service) (f : Fetcher σ) :
    (g.withResources names).step f = g.step f := by
  funext uptime c s
  cases c with
  | authorize now path hs =>
    unfold step authorize
    simp only [g.authorizeWith_withResources (h _)]
    rfl
  | resolve kid => rfl
  | verify now token => rfl
  | invalidate => rfl

/-- A guard with other names for the same resources gives the same answers. -/
theorem run_withResources (h : ∀ service, names.resourceFor service =
    g.resources.resourceFor service) (f : Fetcher σ) : (g.withResources names).run f = g.run f := by
  unfold run
  rw [g.step_withResources h]

end

end Guard

/-- The settings say the same about all that a guard is made of, but for the names of resources. -/
structure Settings.AlikeButResources (s t : Settings) : Prop where
  source : Trust.select s = Trust.select t
  issuer : s.trustedIssuer = t.trustedIssuer
  leeway : s.leeway = t.leeway
  options : CacheOptions.ofSettings s = CacheOptions.ofSettings t
  unknownScheme : s.unknownScheme = t.unknownScheme
  skipped : s.skippedServices = t.skippedServices

theorem Settings.AlikeButResources.symm {s t : Settings} (h : s.AlikeButResources t) :
    t.AlikeButResources s :=
  ⟨h.source.symm, h.issuer.symm, h.leeway.symm, h.options.symm, h.unknownScheme.symm,
    h.skipped.symm⟩

namespace Guard

/-- From such settings comes the same guard but for its resources, or the same fault. -/
theorem build_of_alike {s t : Settings} (h : s.AlikeButResources t)
    (ds : List ServiceDeclaration) :
    build t ds = (build s ds).map fun g => g.withResources ⟨t.globalResource, t.resourceNames⟩ := by
  unfold build Trust.ofSettings
  rw [h.source, h.issuer, h.leeway, h.options, h.unknownScheme, h.skipped]
  cases Trust.select t with
  | error fault => rfl
  | ok source =>
    simp only [bind, Except.bind, pure, Except.pure, Outcome.mapError_ok]
    cases KeySource.ofTrust source (CacheOptions.ofSettings t) with
    | error fault => rfl
    | ok keys =>
      cases PolicyTable.compile ds with
      | error fault => rfl
      | ok policies => rfl

/-- A guard is made of its source of keys, its policies, and what is left of the settings. -/
theorem build_of_parts {s : Settings} {ds : List ServiceDeclaration}
    {source : Option Trust.Source} {keys : KeySource} {policies : PolicyTable}
    (hsource : Trust.select s = .ok source)
    (hkeys : KeySource.ofTrust source (.ofSettings s) = .ok keys)
    (hpolicies : PolicyTable.compile ds = .ok policies) :
    build s ds = .ok ⟨⟨s.trustedIssuer, s.leeway, keys⟩, ⟨s.globalResource, s.resourceNames⟩,
      policies, s.unknownScheme, s.skippedServices⟩ := by
  have htrust : Trust.ofSettings s =
      .ok ⟨s.trustedIssuer, s.leeway, s.globalResource, source⟩ :=
    Outcome.bind_eq_ok_iff.mpr ⟨source, hsource, rfl⟩
  exact Outcome.bind_eq_ok_iff.mpr ⟨_, Outcome.mapError_eq_ok_iff.mpr htrust,
    Outcome.bind_eq_ok_iff.mpr ⟨keys, Outcome.mapError_eq_ok_iff.mpr hkeys,
      Outcome.bind_eq_ok_iff.mpr ⟨policies, Outcome.mapError_eq_ok_iff.mpr hpolicies, rfl⟩⟩⟩

end Guard

end RpcGuard
