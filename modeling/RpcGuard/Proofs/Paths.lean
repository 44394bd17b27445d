import RpcGuard.Proofs.Mediation

/-!
# Paths of secured services

A server looks for the service of a call in the first segment of its path. The guard looks for it in
all segments but the last one. The two agree on paths of two segments, and there no call of a
secured service goes on unchecked. A longer path belongs to the secured service for the server, but
for the guard to a service that is named with the segments in between, which need not be secured:
`Guard.paths_of_secured_service` says what becomes of calls with such paths.
-/

namespace RpcGuard

/-! ## Service and method -/

/-- A path with a slash in front is divided at its last slash. -/
theorem Guard.serviceAndMethod_eq {path : String} {service method : List Char}
    (hpath : path.toList = '/' :: (service ++ '/' :: method)) (hmethod : '/' ∉ method) :
    serviceAndMethod path = (String.ofList service, String.ofList method) := by
  have hreverse : (service ++ '/' :: method).reverse = method.reverse ++ '/' :: service.reverse := by
    rw [List.reverse_append, List.reverse_cons, List.append_assoc]
    rfl
  have hsolid : ∀ c ∈ method.reverse, decide (c ≠ '/') = true := by
    intro c hc
    refine decide_eq_true fun heq => hmethod ?_
    exact heq ▸ List.mem_reverse.mp hc
  have hspan : (service ++ '/' :: method).reverse.span (· ≠ '/') =
      (method.reverse, '/' :: service.reverse) := by
    rw [hreverse, List.span_eq_takeWhile_dropWhile, List.takeWhile_append_of_pos hsolid,
      List.dropWhile_append_of_pos hsolid]
    simp
  unfold serviceAndMethod
  simp only [hpath, hspan, List.reverse_reverse]

/-- The path of a call of a service is divided behind the service if no other slash follows. -/
theorem Guard.serviceAndMethod_of_rest {service method : String} (hmethod : '/' ∉ method.toList) :
    serviceAndMethod ("/" ++ service ++ "/" ++ method) = (service, method) := by
  have hpath : ("/" ++ service ++ "/" ++ method).toList =
      '/' :: (service.toList ++ '/' :: method.toList) := by
    simp
  rw [serviceAndMethod_eq hpath hmethod, String.ofList_toList, String.ofList_toList]

/-! ## Policies -/

/-- The policy lets in a caller with these roles. -/
def AccessPolicy.Admits : AccessPolicy → List String → Prop
  | deny, _ => False
  | permitAll, _ => True
  | rolesAllowed allowed, roles => ∃ role ∈ roles, role ∈ allowed

/-- A caller is let in by the policy of the method, or because the service is not secured. -/
theorem ResourceNames.permits_eq_true_iff {r : ResourceNames} {t : PolicyTable}
    {service method : String} {c : Claims} :
    r.permits t service method c = true ↔
      (∃ p, t.get? service method = some p ∧ p.Admits (r.callerRoles service c)) ∨
        t.get? service method = none ∧ t.isSecured service = false := by
  unfold permits
  cases t.get? service method with
  | none => simp
  | some p =>
    cases p with
    | deny => simp [AccessPolicy.Admits]
    | permitAll => simp [AccessPolicy.Admits]
    | rolesAllowed allowed => simp [AccessPolicy.Admits]

namespace Guard

/-- A secured service with a name of one segment, of which no part is skipped. -/
structure Shielded (s : Settings) (ds : List ServiceDeclaration) (service : String) : Prop where
  secured : SecuredBy ds service
  undivided : '/' ∉ service.toList
  checked : ∀ name ∈ s.skippedServices, name ≠ service ∧ ¬(service ++ "/").toList <+: name.toList

section Decision

variable {s : Settings} {ds : List ServiceDeclaration} {g : Guard} {τ : Type}
  {resolve : Resolver τ} {now : UInt64} {path service method : String} {hs : Headers} {st : τ}

/-- Where other schemes than that of bearer tokens are refused, the only calls to go on without a
token are those that present another scheme to a service that is not secured. -/
theorem authorizeWith_eq_passThrough_of_reject (hg : BuiltFrom g s ds)
    (hreject : s.unknownScheme = .reject) (hpath : serviceAndMethod path = (service, method))
    (hchecked : service ∉ s.skippedServices) :
    (g.authorizeWith resolve now path hs st).1 = .passThrough ↔
      ¬SecuredBy ds service ∧
        ∃ scheme token, Presents hs scheme token ∧ isBearer scheme = false := by
  have hscheme : g.unknownScheme = .reject := hg.unknownScheme.trans hreject
  rw [authorizeWith_eq_passThrough_iff, bearerToken_eq_passThrough_iff, hpath, hg.skipped, hscheme,
    ← PolicyTable.isSecured_iff_of_compile hg.policies, Bool.not_eq_true]
  constructor
  · rintro (hskipped | ⟨scheme, token, hpresents, hother, hpass | hunsecured⟩)
    · exact absurd hskipped hchecked
    · cases hpass
    · exact ⟨hunsecured, scheme, token, hpresents, hother⟩
  · rintro ⟨hunsecured, scheme, token, hpresents, hother⟩
    exact .inr ⟨scheme, token, hpresents, hother, .inr hunsecured⟩

/-- A call that goes on with a token is let in by the policy of its method, or its service is not
secured. -/
theorem admits_of_authorizeWith_eq_allow (hg : BuiltFrom g s ds)
    (hpath : serviceAndMethod path = (service, method)) {v : VerifiedToken}
    (hallow : (g.authorizeWith resolve now path hs st).1 = .allow v) :
    (∃ p, g.policies.get? service method = some p ∧
        p.Admits (g.resources.callerRoles service v.claims)) ∨
      ¬SecuredBy ds service := by
  obtain ⟨-, token, -, -, hpermits⟩ := authorizeWith_eq_allow_iff.mp hallow
  rw [hpath] at hpermits
  obtain hadmits | ⟨-, hunsecured⟩ := ResourceNames.permits_eq_true_iff.mp hpermits
  · exact .inl hadmits
  · refine .inr fun hsecured => ?_
    have htable := (PolicyTable.isSecured_iff_of_compile hg.policies).mpr hsecured
    rw [hunsecured] at htable
    cases htable

end Decision

/-- **Paths of a secured service**: let other schemes than that of bearer tokens be refused. A call
whose path is the service and a rest without a slash never goes on without a token, and with one
only if the table has a policy for the service and the rest that lets the caller in. A rest with a
slash is divided at its last one: what precedes it goes to the name of the service, and the call
goes on without a token exactly if the service with this longer name is not secured and credentials
of another scheme are presented; with a token, it is the longer name that needs a policy, if it is
secured. -/
theorem paths_of_secured_service {s : Settings} {ds : List ServiceDeclaration} {g : Guard}
    (hbuild : build s ds = .ok g) (hreject : s.unknownScheme = .reject) {service : String}
    (hservice : Shielded s ds service) {σ : Type} (f : Fetcher σ) (uptime : Uptime) (now : UInt64)
    (hs : Headers) (shared : Shared σ) (rest : String) :
    let decision := (g.authorize f uptime now ("/" ++ service ++ "/" ++ rest) hs shared).1
    ('/' ∉ rest.toList → decision ≠ .passThrough ∧ ∀ v, decision = .allow v →
      ∃ p, g.policies.get? service rest = some p ∧
        p.Admits (g.resources.callerRoles service v.claims)) ∧
    ∀ inner method, rest = inner ++ "/" ++ method → '/' ∉ method.toList →
      let attributed := service ++ "/" ++ inner
      (decision = .passThrough ↔ ¬SecuredBy ds attributed ∧
        ∃ scheme token, Presents hs scheme token ∧ isBearer scheme = false) ∧
      ∀ v, decision = .allow v →
        (∃ p, g.policies.get? attributed method = some p ∧
            p.Admits (g.resources.callerRoles attributed v.claims)) ∨
          ¬SecuredBy ds attributed := by
  have hg := builtFrom_of_build hbuild
  intro decision
  constructor
  · intro hrest
    have hpath : serviceAndMethod ("/" ++ service ++ "/" ++ rest) = (service, rest) :=
      serviceAndMethod_of_rest hrest
    have hchecked : service ∉ s.skippedServices :=
      fun hmem => (hservice.checked service hmem).1 rfl
    refine ⟨fun hpass => ?_, fun v hallow => ?_⟩
    · have hunsecured :=
        ((authorizeWith_eq_passThrough_of_reject hg hreject hpath hchecked).mp hpass).1
      exact hunsecured hservice.secured
    · obtain hadmits | hunsecured := admits_of_authorizeWith_eq_allow hg hpath hallow
      · exact hadmits
      · exact absurd hservice.secured hunsecured
  · intro inner method hrest hmethod attributed
    have hpath : serviceAndMethod ("/" ++ service ++ "/" ++ rest) = (attributed, method) := by
      have htext : "/" ++ service ++ "/" ++ rest = "/" ++ attributed ++ "/" ++ method := by
        rw [hrest]
        simp only [attributed, String.append_assoc]
      rw [htext]
      exact serviceAndMethod_of_rest hmethod
    have hchecked : attributed ∉ s.skippedServices := by
      intro hmem
      refine (hservice.checked attributed hmem).2 ?_
      exact ⟨inner.toList, String.toList_append.symm⟩
    refine ⟨?_, fun v hallow => ?_⟩
    · exact authorizeWith_eq_passThrough_of_reject hg hreject hpath hchecked
    · exact admits_of_authorizeWith_eq_allow hg hpath hallow

/-- A service whose one method is open to everyone, next to a service that is skipped: a call of the
method with credentials of another scheme does not go on without a token. -/
theorem paths_of_secured_service_orders :
    let s : Settings := { skippedServices := ["shop.Health"] }
    let ds : List ServiceDeclaration :=
      [⟨"shop.Orders", true, ["Get"], [⟨"get", some .permitAll⟩]⟩]
    let g : Guard := ⟨⟨none, 0, .unconfigured⟩, ⟨none, []⟩,
      ⟨[("shop.Orders", [("Get", .permitAll)])]⟩, .reject, ["shop.Health"]⟩
    build s ds = .ok g ∧ Shielded s ds "shop.Orders" ∧
      (g.authorize Fetch.unreachable 0 0 ("/" ++ "shop.Orders" ++ "/" ++ "Get")
        [("authorization", Utf8.bytes "Basic eDp5")] ⟨none, ()⟩).1 ≠ .passThrough := by
  intro s ds g
  have hbuild : build s ds = .ok g := rfl
  have hservice : Shielded s ds "shop.Orders" :=
    { secured := ⟨_, List.mem_singleton_self _, rfl, rfl⟩
      undivided := by decide +kernel
      checked := by decide +kernel }
  have hpaths := paths_of_secured_service hbuild rfl hservice Fetch.unreachable 0 0
    [("authorization", Utf8.bytes "Basic eDp5")] ⟨none, ()⟩ "Get"
  exact ⟨hbuild, hservice, (hpaths.1 (by decide +kernel)).1⟩

/-- With a slash behind the method, the same call goes on without a token. -/
theorem passThrough_of_trailing_slash :
    let s : Settings := { skippedServices := ["shop.Health"] }
    let ds : List ServiceDeclaration :=
      [⟨"shop.Orders", true, ["Get"], [⟨"get", some .permitAll⟩]⟩]
    ∃ g, build s ds = .ok g ∧ s.unknownScheme = .reject ∧ Shielded s ds "shop.Orders" ∧
      (g.authorize Fetch.unreachable 0 0 ("/" ++ "shop.Orders" ++ "/" ++ "Get/")
        [("authorization", Utf8.bytes "Basic eDp5")] ⟨none, ()⟩).1 = .passThrough := by
  intro s ds
  have hservice : Shielded s ds "shop.Orders" :=
    { secured := ⟨_, List.mem_singleton_self _, rfl, rfl⟩
      undivided := by decide +kernel
      checked := by decide +kernel }
  exact ⟨_, rfl, rfl, hservice, rfl⟩

end Guard

end RpcGuard
