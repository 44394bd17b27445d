import RpcGuard.Proofs.Keys.Currency

/-!
# The cache is transparent

While the endpoint always publishes the same document, nobody can tell that there is a cache. A
session with the endpoint gives the answers of one that fetches anew for each call, and the answers
of one that has the document in its settings (`Guard.caching_is_transparent`).

In both comparisons the cache is `Faithful`: it is empty or holds the usable keys of the document.
That is so because a cache is made by the fetches that there were, and all of these brought the
same.
-/

namespace RpcGuard

variable {σ : Type}

/-- The answer to a key id that a list of keys gives. -/
def TrustedKey.lookUp (keys : List TrustedKey) (kid : Option String) :
    Except Rejection TrustedKey :=
  match find? keys kid with
  | some key => .ok key
  | none => .error (.keyUnavailable (.unknownKid kid))

/-- An endpoint without a cache: each search for a key begins with a fetch. -/
def Remote.afresh (r : Remote) (f : Fetcher σ) : KeyService σ where
  resolve _ kid s :=
    match f r.endpoint.toString s with
    | (.ok jwks, s) => (TrustedKey.lookUp (TrustedKey.usable jwks) kid, s)
    | (.error e, s) => (.error e, s)
  invalidate s := s

/-- The cache is empty or holds the usable keys of the document. -/
def Faithful (jwks : List Jwk) (s : Shared σ) : Prop :=
  s.keys = none ∨ s.keys = some (TrustedKey.usable jwks)

/-- No number of fetches of one document brings another. -/
theorem Event.applyAll_of_published {jwks : List Jwk} {made : List FetchOutcome}
    (hmade : ∀ outcome ∈ made, outcome = .ok jwks) {document : Option (List Jwk)}
    (hdocument : document = none ∨ document = some jwks) :
    applyAll document (made.map .fetched) = none ∨
      applyAll document (made.map .fetched) = some jwks := by
  induction made generalizing document with
  | nil => exact hdocument
  | cons outcome made ih =>
    obtain ⟨hfirst, hrest⟩ := List.forall_mem_cons.mp hmade
    subst hfirst
    exact ih hrest (.inr rfl)

theorem Faithful.of_advances {r : Remote} {f : Fetcher σ} {jwks : List Jwk}
    {s next : Shared (σ × List FetchOutcome)} {made : List FetchOutcome}
    (h : Advances r f s next made) (hmade : ∀ outcome ∈ made, outcome = .ok jwks)
    (hs : Faithful jwks s) : Faithful jwks next := by
  obtain ⟨document, hkeys, hdocument⟩ : ∃ document, s.keys = Option.map TrustedKey.usable document ∧
      (document = none ∨ document = some jwks) := by
    rcases hs with hs | hs
    · exact ⟨none, hs, .inl rfl⟩
    · exact ⟨some jwks, hs, .inr rfl⟩
  have hnext := h.keys document hkeys
  rcases Event.applyAll_of_published hmade hdocument with hlast | hlast
  · rw [hlast] at hnext
    exact .inl hnext
  · rw [hlast] at hnext
    exact .inr hnext

/-- While the endpoint publishes one document, a search for a key has the answer that the document
gives, and leaves the cache faithful. -/
theorem Remote.resolve_of_published {r : Remote} {f : Fetcher σ} {jwks : List Jwk}
    (hf : ∀ s, (f r.endpoint.toString s).1 = .ok jwks) {s : Shared σ} (hs : Faithful jwks s)
    (now : Uptime) (kid : Option String) :
    (r.resolve f now kid s).1 = TrustedKey.lookUp (TrustedKey.usable jwks) kid ∧
      Faithful jwks (r.resolve f now kid s).2 := by
  obtain ⟨made, hadvances, hfinds⟩ := r.resolve_spec f now s.recorded kid
  have hmade : ∀ outcome ∈ made, outcome = .ok jwks := by
    intro outcome hmem
    obtain ⟨t, rfl⟩ := hadvances.answered outcome hmem
    exact hf t
  have hnext : Faithful jwks (r.resolve f.recorded now kid s.recorded).2 :=
    .of_advances hadvances hmade hs
  have hresolve := r.resolve_recorded f now s.recorded kid
  rw [Shared.unrecorded_recorded] at hresolve
  rw [hresolve]
  refine ⟨?_, hnext⟩
  have hcached : ∀ keys, (r.resolve f.recorded now kid s.recorded).2.keys = some keys →
      keys = TrustedKey.usable jwks := by
    intro keys hkeys
    rcases hnext with hnone | hsome
    · cases hnone.symm.trans hkeys
    · exact Option.some.inj (hkeys.symm.trans hsome)
  unfold Finds at hfinds
  unfold TrustedKey.lookUp
  generalize r.resolve f.recorded now kid s.recorded = out at hfinds hcached ⊢
  obtain ⟨reason | key, next⟩ := out
  · rcases hfinds with hfailed | ⟨rfl, keys, hkeys, hfind⟩
    · cases hmade _ hfailed
    · rw [← hcached keys hkeys, hfind]
  · obtain ⟨keys, hkeys, hfind⟩ := hfinds
    rw [← hcached keys hkeys, hfind]

/-! ## The two comparisons -/

/-- A fetcher that finds a text at every address. -/
def Fetch.published (text : Bytes) : Fetcher σ := fun _ s => (Fetch.ofResponse 200 text, s)

theorem Fetch.published_eq_ok {text : Bytes} {jwks : List Jwk}
    (hread : Jwk.readDocument? text = some jwks) (url : String) (s : σ) :
    (Fetch.published text url s).1 = .ok jwks := by
  show Fetch.ofResponse 200 text = .ok jwks
  unfold Fetch.ofResponse
  rw [if_neg (by decide), if_neg (by decide), hread]

section Comparisons

variable {r : Remote} {f : Fetcher σ} {jwks : List Jwk}

theorem Remote.simulates_afresh (hf : ∀ s, (f r.endpoint.toString s).1 = .ok jwks) :
    ((KeySource.remote r).service f).Simulates (fun s _ => Faithful jwks s) (r.afresh f) where
  answer {s t} hs uptime kid := by
    have hcached := (resolve_of_published hf hs uptime kid).1
    have hanswer := hf t
    show (r.resolve f uptime kid s).1 = ((r.afresh f).resolve uptime kid t).1
    rw [hcached]
    unfold afresh
    dsimp only
    generalize f r.endpoint.toString t = out at hanswer ⊢
    obtain ⟨outcome, next⟩ := out
    obtain rfl : outcome = .ok jwks := hanswer
    rfl
  resolve hs uptime kid := (resolve_of_published hf hs uptime kid).2
  invalidate _ := .inl rfl

theorem Remote.simulates_inline (hf : ∀ s, (f r.endpoint.toString s).1 = .ok jwks) :
    ((KeySource.remote r).service f).Simulates (fun s _ => Faithful jwks s)
      ((KeySource.inline (TrustedKey.usable jwks)).service f) where
  answer {s t} hs uptime kid := by
    have hcached := (resolve_of_published hf hs uptime kid).1
    show (r.resolve f uptime kid s).1 =
      ((KeySource.inline (TrustedKey.usable jwks)).resolve f uptime kid t).1
    rw [hcached]
    unfold TrustedKey.lookUp KeySource.resolve
    dsimp only
    cases TrustedKey.find? (TrustedKey.usable jwks) kid with
    | some key => rfl
    | none => rfl
  resolve hs uptime kid := (resolve_of_published hf hs uptime kid).2
  invalidate _ := .inl rfl

/-- A document that can stand in the settings stands for its usable keys. -/
theorem KeySource.eq_inline_of_ofDocument {text : Bytes} {source : KeySource}
    (hread : Jwk.readDocument? text = some jwks) (h : ofDocument text = .ok source) :
    source = .inline (TrustedKey.usable jwks) := by
  unfold ofDocument at h
  rw [hread] at h
  dsimp only at h
  split at h
  · cases h
  · exact (Except.ok.inj h).symm

/-- **Transparency of the cache**: while the endpoint publishes one document, every session that
begins with an empty cache gives the answers that it would give if each search for a key fetched
anew, and the answers of the same guard with the document in its settings, if that can be built. -/
theorem Guard.caching_is_transparent {text : Bytes}
    (hread : Jwk.readDocument? text = some jwks)
    (hf : ∀ s, (f r.endpoint.toString s).1 = .ok jwks) (g : Guard) (calls : List (Uptime × Call))
    (fetcher : σ) :
    let answers := ((g.withKeys (.remote r)).run f calls ⟨none, fetcher⟩).1
    answers = (g.runWith (r.afresh f) calls fetcher).1 ∧
      ∀ source, KeySource.ofDocument text = .ok source →
        answers = ((g.withKeys source).run f calls ⟨none, fetcher⟩).1 := by
  intro answers
  have hempty : Faithful jwks (⟨none, fetcher⟩ : Shared σ) := .inl rfl
  have hanswers : answers = (g.runWith ((KeySource.remote r).service f) calls ⟨none, fetcher⟩).1 :=
    congrArg (fun run => (run calls ⟨none, fetcher⟩).1) (g.run_withKeys (.remote r) f)
  rw [hanswers]
  constructor
  · exact (g.runWith_of_simulates (Remote.simulates_afresh hf) calls hempty).1
  · intro source hsource
    obtain rfl := KeySource.eq_inline_of_ofDocument hread hsource
    rw [run_withKeys]
    exact (g.runWith_of_simulates (Remote.simulates_inline hf) calls hempty).1

/-- A document with one key: a session asks for the key and for another one, empties the cache and
asks again. -/
theorem Guard.caching_is_transparent_single :
    let text := Utf8.bytes "\x7b\"kid\":\"a\",\"kty\":\"RSA\",\"n\":\"AQAB\",\"e\":\"AQAB\"\x7d"
    let jwks : List Jwk := [⟨some "a", "RSA", none, some "AQAB", some "AQAB"⟩]
    let remote : Remote := ⟨{ scheme := "keys", path := .segments [] }, ⟨600, 30, 5, 3600⟩⟩
    let source : KeySource := .inline [⟨some "a", .components ⟨[1, 0, 1], [1, 0, 1]⟩⟩]
    let g : Guard := ⟨⟨none, 0, .unconfigured⟩, ⟨none, []⟩, ⟨[]⟩, .reject, []⟩
    let calls := [(0, .resolve (some "a")), (1, .resolve none), (2, .invalidate),
      (2, .resolve (some "a"))]
    Jwk.readDocument? text = some jwks ∧ KeySource.ofDocument text = .ok source ∧
      ((g.withKeys (.remote remote)).run (Fetch.published text) calls ⟨none, ()⟩).1 =
        ((g.withKeys source).run (Fetch.published text) calls ⟨none, ()⟩).1 := by
  intro text jwks remote source g calls
  have hread : Jwk.readDocument? text = some jwks := by decide +kernel
  have husable : TrustedKey.usable jwks =
      [⟨some "a", .components ⟨[1, 0, 1], [1, 0, 1]⟩⟩] := by decide +kernel
  have hsource : KeySource.ofDocument text = .ok source := by
    unfold KeySource.ofDocument
    rw [hread]
    dsimp only
    rw [husable]
  have htransparent := caching_is_transparent (r := remote) hread
    (Fetch.published_eq_ok hread remote.endpoint.toString) g calls ()
  exact ⟨hread, hsource, htransparent.2 source hsource⟩

end Comparisons

end RpcGuard
