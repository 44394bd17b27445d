import RpcGuard.Proofs.Construction
import RpcGuard.Proofs.Mediation

/-!
# The first source of trust

Settings may name several sources of keys. The first of them that is not blank is the only one that
is read (`Trust.select_eq`), so that what follows it in the order of precedence cannot matter: not
as a key, not as a fallback, and not as a fault at startup. Nor does white space around the texts.
Settings that agree on what is left give the same trust, and with the remaining settings alike, the
same guard (`Trust.first_origin_counts`).
-/

namespace RpcGuard

/-! ## Precedence -/

/-- The settings that name sources of keys. -/
inductive Trust.Origin where
  | domain
  | endpoint
  | publicKey
  deriving DecidableEq, Repr

/-- What the settings have for each, in the order of precedence. -/
def Settings.origins (s : Settings) : List (Trust.Origin × Option String) :=
  [(.domain, s.jwksDomain), (.endpoint, s.jwksEndpoint), (.publicKey, s.publicKey)]

/-- The first source that is not blank, without the white space around its text. -/
def Settings.firstOrigin (s : Settings) : Option (Trust.Origin × String) :=
  s.origins.findSome? fun (origin, text) => (Text.nonBlank text).map (origin, ·)

namespace Trust

/-- The source that a text is, by where it stands. -/
def Origin.source : Origin → String → Except Fault Source
  | domain, text => (wellKnownUrl text).map .wellKnown
  | endpoint, text => (readUrl text).map .endpoint
  | publicKey, text => .ok (ofPublicKey text)

/-- Only the first source is read. -/
theorem select_eq (s : Settings) :
    select s = match s.firstOrigin with
      | some (origin, text) => (origin.source text).map some
      | none => .ok none := by
  unfold select Settings.firstOrigin Settings.origins
  simp only [List.findSome?_cons, List.findSome?_nil]
  cases Text.nonBlank s.jwksDomain with
  | some domain => cases h : wellKnownUrl domain <;> simp [Origin.source, h] <;> rfl
  | none =>
    cases Text.nonBlank s.jwksEndpoint with
    | some address => cases h : readUrl address <;> simp [Origin.source, h] <;> rfl
    | none => cases Text.nonBlank s.publicKey <;> rfl

end Trust

/-! ## Two settings -/

/-- Names of resources that are the same for each service and by default, apart from white space
around the default. -/
theorem Settings.resourceFor_congr {s t : Settings}
    (hresource : s.globalResource = t.globalResource)
    (hnames : ∀ service, s.resourceNames.lookup service = t.resourceNames.lookup service)
    (service : String) :
    ResourceNames.resourceFor ⟨t.globalResource, t.resourceNames⟩ service =
      ResourceNames.resourceFor ⟨s.globalResource, s.resourceNames⟩ service := by
  unfold ResourceNames.resourceFor
  rw [hresource, hnames]

/-- **The first source of trust**: take settings with the same leeway, the same issuer and resource
apart from white space around them, and the same first source that is not blank, again apart from
white space. They give the same trust or the same fault, whatever else they have for sources. If the
remaining settings are the same too, guards are built from both or from neither, which then fail
with the same fault; and the guards give the same answers in every session. -/
theorem Trust.first_origin_counts {s t : Settings} (hleeway : s.leeway = t.leeway)
    (hissuer : Text.nonBlank s.issuer = Text.nonBlank t.issuer)
    (hresource : Text.nonBlank s.resourceName = Text.nonBlank t.resourceName)
    (horigin : s.firstOrigin = t.firstOrigin) :
    ofSettings s = ofSettings t ∧
    (s.unknownScheme = t.unknownScheme → s.skippedServices = t.skippedServices →
      (∀ service, s.resourceNames.lookup service = t.resourceNames.lookup service) →
      CacheOptions.ofSettings s = CacheOptions.ofSettings t →
      ∀ ds, (∀ fault, Guard.build s ds = .error fault ↔ Guard.build t ds = .error fault) ∧
        ∀ g g', Guard.build s ds = .ok g → Guard.build t ds = .ok g' →
          ∀ {σ : Type} (f : Fetcher σ) (calls : List (Uptime × Call)) (shared : Shared σ),
            g.run f calls shared = g'.run f calls shared) := by
  have hsource : select s = select t := by rw [select_eq, select_eq, horigin]
  refine ⟨?_, fun hscheme hskipped hnames hoptions ds => ?_⟩
  · unfold ofSettings Settings.trustedIssuer Settings.globalResource
    rw [hsource, hissuer, hresource, hleeway]
  · have hbuild := Guard.build_of_alike ⟨hsource, hissuer, hleeway, hoptions, hscheme, hskipped⟩ ds
    refine ⟨fun fault => ?_, fun g g' hg hg' σ f calls shared => ?_⟩
    · rw [hbuild, Outcome.map_eq_error_iff]
    · rw [hbuild, hg] at hg'
      obtain rfl := Except.ok.inj hg'
      have hsame := Settings.resourceFor_congr hresource hnames
      rw [← (Guard.builtFrom_of_build hg).resources] at hsame
      rw [g.run_withResources hsame]

/-- An endpoint with white space around it, behind a blank domain and before a public key that is
none; and the same endpoint alone. -/
theorem Trust.first_origin_counts_endpoint :
    let s : Settings := {
      issuer := some "issuer", jwksDomain := some "\t", publicKey := some "no key"
      jwksEndpoint := some " https://keys.example/certs\n", resourceName := some " " }
    let t : Settings := {
      issuer := some " issuer ", jwksEndpoint := some "https://keys.example/certs" }
    ∃ g g', Guard.build s [] = .ok g ∧ Guard.build t [] = .ok g' ∧ ofSettings s = ofSettings t ∧
      s.firstOrigin = some (.endpoint, "https://keys.example/certs") ∧
      ∀ calls, g.run Fetch.unreachable calls ⟨none, ()⟩ =
        g'.run Fetch.unreachable calls ⟨none, ()⟩ := by
  intro s t
  have horigin : s.firstOrigin = some (.endpoint, "https://keys.example/certs") := by decide +kernel
  have hsame := first_origin_counts (s := s) (t := t) rfl (by decide +kernel) (by decide +kernel)
    (by decide +kernel)
  obtain ⟨g, hg⟩ := Outcome.isOk_iff.mp (show (Guard.build s []).isOk = true by decide +kernel)
  obtain ⟨g', hg'⟩ := Outcome.isOk_iff.mp (show (Guard.build t []).isOk = true by decide +kernel)
  refine ⟨g, g', hg, hg', hsame.1, horigin, fun calls => ?_⟩
  exact (hsame.2 rfl rfl (fun _ => rfl) rfl []).2 g g' hg hg' Fetch.unreachable calls ⟨none, ()⟩

end RpcGuard
