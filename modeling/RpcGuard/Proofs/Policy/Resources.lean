import RpcGuard.Proofs.Acceptance
import RpcGuard.Proofs.Construction
import RpcGuard.Proofs.Credentials
import RpcGuard.Proofs.Mediation
import RpcGuard.Proofs.Policy.Authority
import RpcGuard.Proofs.Trust.PublicKey

/-!
# The spelling of resource names

White space around the default name of a resource does not count, and a blank default is none. The
names for single services are taken as they are written instead: only an empty one counts as none,
so that white space makes another name of a name, and a name of a blank text. That is never without
effect: for each method that asks for roles there is a caller about whom guards with different
resources disagree (`Guard.spelling_of_resource_names`).
-/

namespace RpcGuard

/-- The resource of the service's own, if it has one. -/
def Settings.ownResource (s : Settings) (service : String) : Option String :=
  (s.resourceNames.lookup service).filter fun name => !name.isEmpty

/-- The resource whose roles count for a service. -/
def Settings.resourceFor (s : Settings) (service : String) : Option String :=
  s.ownResource service <|> s.globalResource

theorem Settings.ownResource_of_lookup {s : Settings} {service name : String}
    (h : s.resourceNames.lookup service = some name) (hne : name ≠ "") :
    s.ownResource service = some name := by
  rw [ownResource, h, Option.filter_some, if_pos]
  simpa using hne

theorem Settings.ownResource_of_empty {s : Settings} {service : String}
    (h : ∀ name, s.resourceNames.lookup service = some name → name = "") :
    s.ownResource service = none := by
  unfold ownResource
  cases hname : s.resourceNames.lookup service with
  | none => rfl
  | some name =>
    rw [h name hname]
    rfl

theorem Settings.resourceFor_of_ownResource {s : Settings} {service name : String}
    (h : s.ownResource service = some name) : s.resourceFor service = some name := by
  rw [resourceFor, h]
  rfl

theorem Settings.resourceFor_of_empty {s : Settings} {service : String}
    (h : ∀ name, s.resourceNames.lookup service = some name → name = "") :
    s.resourceFor service = s.globalResource := by
  rw [resourceFor, ownResource_of_empty h]
  rfl

/-- A default resource is not blank. -/
theorem Settings.not_blank_of_globalResource {s : Settings} {name : String}
    (h : s.globalResource = some name) : ¬ Text.Blank name.toList :=
  Text.not_blank_of_nonBlank h

namespace Guard

/-! ## Two guards -/

/-- The guards make the same of every call of the service. -/
def AgreeOn (g g' : Guard) (service : String) : Prop :=
  ∀ {σ : Type} (f : Fetcher σ) (uptime : Uptime) (now : UInt64) (path : String) (hs : Headers)
    (shared : Shared σ), (serviceAndMethod path).1 = service →
      g.authorize f uptime now path hs shared = g'.authorize f uptime now path hs shared

/-- The first guard prefers callers whose only role is this one for the resource: it permits them to
call the method, and the second guard forbids it. Each of their calls with a token that is verified
is let in by the first guard, and rejected by the second for want of a permission. -/
def Favours (g g' : Guard) (service method resource role : String) : Prop :=
  ∀ c : Claims, c.HasOnly resource role →
    (g.resources.permits g.policies service method c = true ∧
      g'.resources.permits g'.policies service method c = false) ∧
    ∀ {σ : Type} (f : Fetcher σ) (uptime : Uptime) (now : UInt64) (path : String) (hs : Headers)
      (shared : Shared σ) (token : String) (v : VerifiedToken),
      serviceAndMethod path = (service, method) → service ∉ g.skipped →
      g.bearerToken service hs = .ok token →
      (g.verifier.verify f uptime now token shared).1 = .ok v → v.claims = c →
        (g.authorize f uptime now path hs shared).1 = .allow v ∧
          (g'.authorize f uptime now path hs shared).1 = .reject .permissionDenied

variable {s t : Settings} {ds : List ServiceDeclaration} {g g' : Guard}

/-- What the second guard is, seen from the first. -/
theorem eq_withResources_of_build (h : s.AlikeButResources t) (hg : build s ds = .ok g)
    (hg' : build t ds = .ok g') : g' = g.withResources ⟨t.globalResource, t.resourceNames⟩ := by
  rw [build_of_alike h, hg] at hg'
  exact (Except.ok.inj hg').symm

theorem agreeOn_of_resourceFor_eq (h : s.AlikeButResources t) (hg : build s ds = .ok g)
    (hg' : build t ds = .ok g') {service : String}
    (hresource : s.resourceFor service = t.resourceFor service) : g.AgreeOn g' service := by
  intro σ f uptime now path hs shared hservice
  subst hservice
  obtain rfl := eq_withResources_of_build h hg hg'
  refine (g.authorizeWith_withResources ?_ _ now hs shared).symm
  rw [(builtFrom_of_build hg).resources]
  exact hresource.symm

/-- Once the token of a call is verified, the resource names have the last word. -/
theorem authorize_withResources {σ : Type} {f : Fetcher σ} {uptime : Uptime} {now : UInt64}
    {path service method : String} {hs : Headers} {shared : Shared σ} {token : String}
    {v : VerifiedToken} (hpath : serviceAndMethod path = (service, method))
    (hskip : service ∉ g.skipped) (hread : g.bearerToken service hs = .ok token)
    (hverify : (g.verifier.verify f uptime now token shared).1 = .ok v) (names : ResourceNames) :
    ((g.withResources names).authorize f uptime now path hs shared).1 =
      if names.permits g.policies service method v.claims then .allow v
      else .reject .permissionDenied := by
  have hservice : (serviceAndMethod path).1 = service := congrArg Prod.fst hpath
  have hmethod : (serviceAndMethod path).2 = method := congrArg Prod.snd hpath
  subst hservice hmethod
  have hjudged : ((g.withResources names).authorize f uptime now path hs shared).1 =
      (g.withResources names).judge path (g.verifier.verify f uptime now token shared).1 :=
    congrArg Prod.fst (authorizeWith_of_bearerToken (g := g.withResources names) hskip hread shared)
  rw [hjudged, hverify]
  rfl

/-- A guard favours the callers with a role for its resource over a guard with another one. -/
theorem favours_of_resourceFor (h : s.AlikeButResources t) (hg : build s ds = .ok g)
    (hg' : build t ds = .ok g') {service method resource : String}
    (hresource : s.resourceFor service = some resource)
    (hother : t.resourceFor service ≠ some resource) {allowed : List String}
    (hpolicy : AnnotatedBy ds service method (.rolesAllowed allowed)) {role : String}
    (hrole : role ∈ allowed) : g.Favours g' service method resource role := by
  have hbuilt := builtFrom_of_build hg
  have hget := (PolicyTable.get?_eq_some_iff_of_compile hbuilt.policies).mpr hpolicy
  obtain rfl := eq_withResources_of_build h hg hg'
  intro c hc
  have hpermits : g.resources.permits g.policies service method c = true := by
    rw [ResourceNames.permits_iff_of_hasOnly hget hrole hc, hbuilt.resources]
    exact hresource
  have hforbids : ResourceNames.permits ⟨t.globalResource, t.resourceNames⟩ g.policies service
      method c = false := by
    rw [← Bool.not_eq_true, ResourceNames.permits_iff_of_hasOnly hget hrole hc]
    exact hother
  refine ⟨⟨hpermits, hforbids⟩, ?_⟩
  intro σ f uptime now path hs shared token v hpath hskip hread hverify hclaims
  subst hclaims
  have hdecision := authorize_withResources hpath hskip hread hverify
  exact ⟨(hdecision g.resources).trans (if_pos hpermits),
    (hdecision _).trans (if_neg (Bool.not_eq_true _ ▸ hforbids))⟩

/-- **The spelling of resource names**: take guards from settings that differ in nothing but the
names of resources. They agree on a service if its own name is the same, where an empty one is none,
and the default is the same apart from white space around it, where a blank one is none. But if the
own name has white space around it in one of them, each guard favours other callers of each method
that asks for roles: the first those with a role for the name, and the second those with a role for
the padded name. And if the own name is blank where it was empty, the second favours those with a
role for the blank name, and the first those with a role for the default. -/
theorem spelling_of_resource_names (h : s.AlikeButResources t) (hg : build s ds = .ok g)
    (hg' : build t ds = .ok g') (service : String) :
    (Text.nonBlank s.resourceName = Text.nonBlank t.resourceName →
      s.ownResource service = t.ownResource service → g.AgreeOn g' service) ∧
    ∀ method allowed role, AnnotatedBy ds service method (.rolesAllowed allowed) →
      role ∈ allowed →
      (∀ (name padded : String) (before after : List Char),
        s.resourceNames.lookup service = some name → name ≠ "" →
        t.resourceNames.lookup service = some padded →
        padded.toList = before ++ name.toList ++ after → before ++ after ≠ [] →
          g.Favours g' service method name role ∧ g'.Favours g service method padded role) ∧
      ∀ blank, (∀ name, s.resourceNames.lookup service = some name → name = "") →
        t.resourceNames.lookup service = some blank → blank ≠ "" → Text.Blank blank.toList →
          g'.Favours g service method blank role ∧
          ∀ default, s.globalResource = some default →
            g.Favours g' service method default role := by
  refine ⟨fun hdefault hown => agreeOn_of_resourceFor_eq h hg hg' ?_, fun method allowed role
    hpolicy hrole => ⟨fun name padded before after hname hne hpadded htext haround => ?_,
      fun blank hempty hblank hne hspace => ?_⟩⟩
  · unfold Settings.resourceFor Settings.globalResource
    rw [hown, hdefault]
  · have hlonger : name.toList.length < padded.toList.length := by
      have hpos := List.length_pos_iff.mpr haround
      rw [List.length_append] at hpos
      rw [htext, List.length_append, List.length_append]
      omega
    have hpadded_ne : padded ≠ "" := by
      rintro rfl
      exact absurd hlonger (Nat.not_lt_zero _)
    have hnames : padded ≠ name := by
      rintro rfl
      exact Nat.lt_irrefl _ hlonger
    have hs : s.resourceFor service = some name :=
      Settings.resourceFor_of_ownResource (Settings.ownResource_of_lookup hname hne)
    have ht : t.resourceFor service = some padded :=
      Settings.resourceFor_of_ownResource (Settings.ownResource_of_lookup hpadded hpadded_ne)
    refine ⟨favours_of_resourceFor h hg hg' hs ?_ hpolicy hrole,
      favours_of_resourceFor h.symm hg' hg ht ?_ hpolicy hrole⟩
    · rw [ht]
      exact fun heq => hnames (Option.some.inj heq)
    · rw [hs]
      exact fun heq => hnames (Option.some.inj heq).symm
  · have hs : s.resourceFor service = s.globalResource :=
      Settings.resourceFor_of_empty hempty
    have ht : t.resourceFor service = some blank :=
      Settings.resourceFor_of_ownResource (Settings.ownResource_of_lookup hblank hne)
    -- the default is not blank, so that it is another name
    have hglobal : s.globalResource ≠ some blank := fun heq =>
      Settings.not_blank_of_globalResource heq hspace
    refine ⟨favours_of_resourceFor h.symm hg' hg ht (hs ▸ hglobal) hpolicy hrole,
      fun default hdefault => favours_of_resourceFor h hg hg' (hs.trans hdefault) ?_ hpolicy hrole⟩
    rw [ht, ← hdefault]
    exact hglobal.symm

/-- White space around the default name does not count. But a blank own name in the place of an
empty one takes the permission to cancel orders from the administrator of the specimen, and so does
white space behind the own name. -/
theorem spelling_of_resource_names_admin :
    let decision := fun default own => ((Specimen.guard default own).authorize Fetch.unreachable 0 1
      "/shop.Orders/Cancel" (.bearing Specimen.token) ⟨none, ()⟩).1
    (∀ default own, build (Specimen.settings default own) Specimen.declarations =
      .ok (Specimen.guard default own)) ∧
    (Specimen.guard "orders" "").AgreeOn (Specimen.guard "\torders " "") "shop.Orders" ∧
    ∃ v : VerifiedToken, v.claims.HasOnly "orders" "admin" ∧
      decision "orders" "" = .allow v ∧ decision "orders" " " = .reject .permissionDenied ∧
      decision "web" "orders" = .allow v ∧
      decision "web" "orders\n" = .reject .permissionDenied := by
  intro decision
  obtain ⟨v, hclaims, hverified⟩ := Specimen.exists_verified
  have halike : ∀ default own default' own', Settings.AlikeButResources
      (Specimen.settings default own) (Specimen.settings default' own') :=
    fun _ _ _ _ =>
      { source := (Specimen.select_settings _ _).trans (Specimen.select_settings _ _).symm
        issuer := rfl, leeway := rfl, options := rfl, unknownScheme := rfl, skipped := rfl }
  have hspelling := fun default own default' own' =>
    spelling_of_resource_names (halike default own default' own') (Specimen.build_settings _ _)
      (Specimen.build_settings _ _) "shop.Orders"
  have hmethod := fun default own own' => (hspelling default own default own').2 "Cancel" ["admin"]
    "admin" Specimen.annotated (List.mem_singleton_self _)
  -- what the guards make of callers with the role, they make of the caller with the token
  have hdecide : ∀ default own own',
      (Specimen.guard default own).Favours (Specimen.guard default own') "shop.Orders" "Cancel"
        "orders" "admin" →
      decision default own = .allow v ∧ decision default own' = .reject .permissionDenied := by
    intro default own own' hfavours
    exact (hfavours v.claims hclaims).2 Fetch.unreachable 0 1 _ _ _ Specimen.token v
      (by decide +kernel) List.not_mem_nil (bearerToken_eq_ok_iff.mpr presents_written)
      (hverified _ _ _ _ _) rfl
  have hblank := hdecide "orders" "" " " <| ((hmethod "orders" "" " ").2 " "
    (fun _ h => (Option.some.inj h).symm) rfl (by decide)
    (List.all_eq_true.mp (by decide))).2 "orders" (by decide +kernel)
  have hpadded := hdecide "web" "orders" "orders\n" <| ((hmethod "web" "orders" "orders\n").1
    "orders" "orders\n" [] ['\n'] rfl (by decide) rfl (by decide +kernel) (by decide)).1
  exact ⟨Specimen.build_settings, (hspelling "orders" "" "\torders " "").1 (by decide +kernel) rfl,
    v, hclaims, hblank.1, hblank.2, hpadded.1, hpadded.2⟩

/-- A blank own name in the place of an empty one takes from a caller the role for the default
resource. -/
theorem blank_name_changes_decision :
    let decision := fun g : Guard => (g.authorize Fetch.unreachable 0 1 "/shop.Orders/Cancel"
      (.bearing Specimen.token) ⟨none, ()⟩).1
    ∃ g g' v, build (Specimen.settings "orders" "") Specimen.declarations = .ok g ∧
      build (Specimen.settings "orders" " ") Specimen.declarations = .ok g' ∧
      decision g = .allow v ∧ decision g' = .reject .permissionDenied := by
  intro decision
  obtain ⟨v, -, hdecided⟩ := Specimen.exists_decided
  refine ⟨_, _, v, Specimen.build_settings _ _, Specimen.build_settings _ _, ?_, ?_⟩
  · exact (hdecided "orders" "").trans (if_pos (by decide +kernel))
  · exact (hdecided "orders" " ").trans (if_neg (by decide +kernel))

end Guard

end RpcGuard
