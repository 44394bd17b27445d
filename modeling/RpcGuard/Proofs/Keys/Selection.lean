import RpcGuard.Proofs.Base64
import RpcGuard.Proofs.Keys.Documents
import RpcGuard.Proofs.Outcome
import RpcGuard.Verifier

/-!
# Keys of a document

Which key of a document answers to a key id. An entry is usable if it gives an RSA key for RS256
(`Jwk.Gives`); entries of any other kind are passed over wherever they stand. Of the usable entries
with a key id the first one counts, and an entry without a key id is one with the id `none`, which is
not the empty one.

So a set of keys can grow without harm (`Jwk.Grows`): entries that are not usable may be put in
anywhere, and usable ones behind all others if their key id is there already
(`KeySource.first_usable_entry_counts`).
-/

namespace RpcGuard

/-! ## Usable entries -/

/-- The text of a byte string in the alphabet for URLs. -/
def Base64.urlText (bs : Bytes) : String := String.ofList (encode .urlSafe bs)

theorem Base64.decode?_toList_eq_some_iff {s : String} {bs : Bytes} :
    decode? .urlSafe s.toList = some bs ↔ s = urlText bs := by
  rw [decode?_urlSafe_eq_some_iff, urlText]
  constructor
  · intro h
    rw [← h, String.ofList_toList]
  · rintro rfl
    exact String.toList_ofList

namespace Jwk

/-- An entry that gives a key: it is one of an RSA key, for no algorithm but RS256, and writes both
numbers of the key. -/
inductive Gives : Jwk → TrustedKey → Prop where
  | rsa {kid alg : Option String} {n e : Bytes} (halg : alg = none ∨ alg = some "RS256") :
    Gives ⟨kid, "RSA", alg, some (Base64.urlText n), some (Base64.urlText e)⟩
      ⟨kid, .components ⟨n, e⟩⟩

/-- The entry gives some key. -/
def Usable (k : Jwk) : Prop := ∃ key, k.Gives key

theorem Gives.kid_eq {k : Jwk} {key : TrustedKey} (h : k.Gives key) : key.kid = k.kid := by
  cases h
  rfl

/-- The first usable entry with a key id gives this key. -/
def FirstGives (jwks : List Jwk) (kid : Option String) (key : TrustedKey) : Prop :=
  ∃ before k after, jwks = before ++ k :: after ∧ k.Gives key ∧ k.kid = kid ∧
    ∀ earlier ∈ before, earlier.Usable → earlier.kid ≠ kid

end Jwk

namespace TrustedKey

theorem ofJwk?_eq_some_iff {k : Jwk} {key : TrustedKey} : ofJwk? k = some key ↔ k.Gives key := by
  constructor
  · intro h
    obtain ⟨kid, kty, alg, n, e⟩ := k
    unfold ofJwk? at h
    split at h
    · next hrsa =>
      obtain ⟨rfl, halg⟩ : kty = "RSA" ∧ (alg = none ∨ alg = some "RS256") := hrsa
      simp only [Option.bind_eq_bind, Option.bind_eq_some_iff] at h
      obtain ⟨nText, rfl, n, hn, eText, rfl, e, he, heq⟩ := h
      obtain rfl := Base64.decode?_toList_eq_some_iff.mp hn
      obtain rfl := Base64.decode?_toList_eq_some_iff.mp he
      obtain rfl := Option.some.inj heq
      exact .rsa halg
    · cases h
  · rintro (@⟨kid, alg, n, e, halg⟩)
    unfold ofJwk?
    rw [if_pos ⟨rfl, halg⟩]
    simp only [Option.bind_eq_bind, Option.bind_some, Base64.decode?_toList_eq_some_iff.mpr rfl]
    rfl

theorem ofJwk?_eq_none_iff {k : Jwk} : ofJwk? k = none ↔ ¬k.Usable := by
  rw [Option.eq_none_iff_forall_ne_some, Jwk.Usable, not_exists]
  exact forall_congr' fun key => not_congr ofJwk?_eq_some_iff

/-- The entry answers to a key id if it is usable and has this id. -/
theorem any_ofJwk?_iff {k : Jwk} {kid : Option String} :
    (ofJwk? k).any (fun key => key.kid = kid) = true ↔ k.Usable ∧ k.kid = kid := by
  cases hkey : ofJwk? k with
  | none =>
    have hunusable := ofJwk?_eq_none_iff.mp hkey
    simp [hunusable]
  | some key =>
    have hgives := ofJwk?_eq_some_iff.mp hkey
    have husable : k.Usable := ⟨key, hgives⟩
    simp [husable, hgives.kid_eq]

variable {jwks : List Jwk} {kid : Option String}

/-- The key for a key id is that of the first usable entry with the id. -/
theorem find?_usable_eq_some_iff {key : TrustedKey} :
    find? (usable jwks) kid = some key ↔ Jwk.FirstGives jwks kid key := by
  unfold find? usable
  rw [List.find?_filterMap, Option.bind_eq_some_iff]
  constructor
  · rintro ⟨k, hfind, hkey⟩
    obtain ⟨hk, before, after, heq, hbefore⟩ := List.find?_eq_some_iff_append.mp hfind
    refine ⟨before, k, after, heq, ofJwk?_eq_some_iff.mp hkey, (any_ofJwk?_iff.mp hk).2, ?_⟩
    intro earlier hearlier husable hkid
    have hnot := hbefore earlier hearlier
    rw [any_ofJwk?_iff.mpr ⟨husable, hkid⟩] at hnot
    cases hnot
  · rintro ⟨before, k, after, heq, hgives, hkid, hbefore⟩
    refine ⟨k, List.find?_eq_some_iff_append.mpr ⟨any_ofJwk?_iff.mpr ⟨⟨key, hgives⟩, hkid⟩, before,
      after, heq, fun earlier hearlier => ?_⟩, ofJwk?_eq_some_iff.mpr hgives⟩
    rw [Bool.not_eq_true', Bool.eq_false_iff]
    intro hany
    obtain ⟨husable, hkid'⟩ := any_ofJwk?_iff.mp hany
    exact hbefore earlier hearlier husable hkid'

theorem mem_usable_iff {key : TrustedKey} : key ∈ usable jwks ↔ ∃ k ∈ jwks, k.Gives key := by
  unfold usable
  rw [List.mem_filterMap]
  exact exists_congr fun k => and_congr_right fun _ => ofJwk?_eq_some_iff

/-- There is none if no usable entry has the id. -/
theorem find?_usable_eq_none_iff :
    find? (usable jwks) kid = none ↔ ∀ k ∈ jwks, k.Usable → k.kid ≠ kid := by
  unfold find?
  rw [List.find?_eq_none]
  constructor
  · rintro h k hk ⟨key, hgives⟩ hkid
    refine h key (mem_usable_iff.mpr ⟨k, hk, hgives⟩) (decide_eq_true ?_)
    rw [hgives.kid_eq, hkid]
  · intro h key hkey hkid
    obtain ⟨k, hk, hgives⟩ := mem_usable_iff.mp hkey
    exact h k hk ⟨key, hgives⟩ (hgives.kid_eq.symm.trans (of_decide_eq_true hkid))

theorem usable_ne_nil_iff : usable jwks ≠ [] ↔ ∃ k ∈ jwks, k.Usable := by
  constructor
  · intro h
    obtain ⟨key, hkey⟩ := List.exists_mem_of_ne_nil _ h
    obtain ⟨k, hk, hgives⟩ := mem_usable_iff.mp hkey
    exact ⟨k, hk, key, hgives⟩
  · rintro ⟨k, hk, key, hgives⟩
    exact List.ne_nil_of_mem (mem_usable_iff.mpr ⟨k, hk, hgives⟩)

/-- There is a usable entry if some key id has an answer. -/
theorem exists_usable_iff : (∃ k ∈ jwks, k.Usable) ↔ ∃ kid, find? (usable jwks) kid ≠ none := by
  constructor
  · rintro ⟨k, hk, husable⟩
    exact ⟨k.kid, fun hnone => find?_usable_eq_none_iff.mp hnone k hk husable rfl⟩
  · rintro ⟨kid, hne⟩
    obtain ⟨key, hkey⟩ := Option.ne_none_iff_exists'.mp hne
    obtain ⟨before, k, after, rfl, hgives, -, -⟩ := find?_usable_eq_some_iff.mp hkey
    exact ⟨k, List.mem_append_right _ List.mem_cons_self, key, hgives⟩

end TrustedKey

/-! ## Sets of keys -/

namespace Jwk

/-- The text is a set of keys with these entries, each of which can be read. -/
def IsSet (text : Bytes) (items : List Json) : Prop :=
  ∃ members, Json.parse? text = some (.object members) ∧
    (members.filter fun m => m.1 = "keys") = [("keys", .array items)] ∧
    ∀ item ∈ items, ∃ k, ofJson? item = some k

/-- The entries of a set that grew out of another one: some that are not usable were put in, and
usable ones with key ids that were there already were put behind. -/
inductive Grows (items : List Json) : List Json → Prop where
  | refl : Grows items items
  | insert {before after : List Json} {item : Json} {k : Jwk} :
    Grows items (before ++ after) → ofJson? item = some k → ¬k.Usable →
    Grows items (before ++ item :: after)
  | append {items' : List Json} {item item' : Json} {k k' : Jwk} :
    Grows items items' → ofJson? item = some k → k.Usable →
    item' ∈ items' → ofJson? item' = some k' → k'.Usable → k'.kid = k.kid →
    Grows items (items' ++ [item])

/-- The entries that can be read. -/
def entries (items : List Json) : List Jwk := items.filterMap ofJson?

theorem mapM_ofJson? {items : List Json} (h : ∀ item ∈ items, ∃ k, ofJson? item = some k) :
    items.mapM ofJson? = some (entries items) := by
  induction items with
  | nil => rfl
  | cons item items ih =>
    obtain ⟨⟨k, hk⟩, hrest⟩ := List.forall_mem_cons.mp h
    unfold entries at ih ⊢
    rw [List.mapM_cons, hk, ih hrest, List.filterMap_cons_some hk]
    rfl

theorem readDocument?_of_isSet {text : Bytes} {items : List Json} (h : IsSet text items) :
    readDocument? text = some (entries items) := by
  obtain ⟨members, hparse, hkeys, hitems⟩ := h
  exact readDocument?_of_set hparse hkeys (mapM_ofJson? hitems)

/-- A set that grew has the same answer to every key id. -/
theorem Grows.find?_usable {items items' : List Json} (h : Grows items items')
    (kid : Option String) :
    TrustedKey.find? (TrustedKey.usable (entries items')) kid =
      TrustedKey.find? (TrustedKey.usable (entries items)) kid := by
  induction h with
  | refl => rfl
  | @insert before after item k _ hitem hunusable ih =>
    rw [← ih]
    have hnone := TrustedKey.ofJwk?_eq_none_iff.mpr hunusable
    unfold entries TrustedKey.usable
    simp only [List.filterMap_append, List.filterMap_cons_some hitem,
      List.filterMap_cons_none hnone]
  | @append items' item item' k k' _ hitem husable hmem hitem' husable' hkid ih =>
    rw [← ih]
    obtain ⟨key, hgives⟩ := husable
    have hkey := TrustedKey.ofJwk?_eq_some_iff.mpr hgives
    have happend : TrustedKey.usable (entries (items' ++ [item])) =
        TrustedKey.usable (entries items') ++ [key] := by
      unfold entries TrustedKey.usable
      simp only [List.filterMap_append, List.filterMap_cons_some hitem, List.filterMap_nil,
        List.filterMap_cons_some hkey]
    have hknown : k' ∈ entries items' := List.mem_filterMap.mpr ⟨item', hmem, hitem'⟩
    rw [happend, TrustedKey.find?, List.find?_append]
    cases hfind : TrustedKey.find? (TrustedKey.usable (entries items')) kid with
    | some found =>
      rw [TrustedKey.find?] at hfind
      rw [hfind, Option.some_or]
    | none =>
      -- the new key has a key id that answers already, so this is another one
      have hne : key.kid ≠ kid := by
        intro heq
        refine TrustedKey.find?_usable_eq_none_iff.mp hfind k' hknown husable' ?_
        rw [hkid, ← hgives.kid_eq, heq]
      rw [TrustedKey.find?] at hfind
      rw [hfind, Option.none_or, List.find?_cons_of_neg (by simpa using hne), List.find?_nil]

end Jwk

namespace KeySource

variable {text : Bytes}

/-- A document is a source of keys if it can be read and has a usable entry. -/
theorem ofDocument_eq_ok_iff {source : KeySource} : ofDocument text = .ok source ↔
    ∃ jwks, Jwk.readDocument? text = some jwks ∧ (∃ k ∈ jwks, k.Usable) ∧
      source = inline (TrustedKey.usable jwks) := by
  unfold ofDocument
  cases hread : Jwk.readDocument? text with
  | none => simp
  | some jwks =>
    simp only [Option.some.injEq, exists_eq_left', ← TrustedKey.usable_ne_nil_iff]
    cases TrustedKey.usable jwks with
    | nil => simp
    | cons key keys => simp [eq_comm]

theorem ofDocument_of_unusable {jwks : List Jwk} (hread : Jwk.readDocument? text = some jwks)
    (hnone : ¬∃ k ∈ jwks, k.Usable) : ofDocument text = .error .noUsableKey := by
  have hnil : TrustedKey.usable jwks = [] :=
    Classical.not_not.mp fun hne => hnone (TrustedKey.usable_ne_nil_iff.mp hne)
  unfold ofDocument
  rw [hread]
  dsimp only
  rw [hnil]

/-- Lists of keys that answer alike are sources that answer alike. -/
theorem resolve_inline_congr {σ : Type} {keys keys' : List TrustedKey}
    (h : ∀ kid, TrustedKey.find? keys' kid = TrustedKey.find? keys kid) (f : Fetcher σ)
    (uptime : Uptime) : (inline keys').resolve f uptime = (inline keys).resolve f uptime := by
  funext kid s
  unfold resolve
  dsimp only
  rw [h kid]

/-- **The first usable entry counts**: a document is a source of keys exactly if it can be read and
has a usable entry. The source then answers to a key id with the key of the first usable entry that
has this very id, and knows no key if there is none. If the document is a set of keys, and another
one grew out of it by entries that are not usable, anywhere, and by usable ones behind with key ids
that were there, both are refused alike or are sources with the same answers to all key ids and the
same verdicts on all tokens. -/
theorem first_usable_entry_counts (text : Bytes) :
    ((∃ source, ofDocument text = .ok source) ↔
      ∃ jwks, Jwk.readDocument? text = some jwks ∧ ∃ k ∈ jwks, k.Usable) ∧
    (∀ source jwks, ofDocument text = .ok source → Jwk.readDocument? text = some jwks →
      ∀ {σ : Type} (f : Fetcher σ) (uptime : Uptime) (kid : Option String) (s : Shared σ),
        (∃ key, Jwk.FirstGives jwks kid key ∧ source.resolve f uptime kid s = (.ok key, s)) ∨
          (∀ k ∈ jwks, k.Usable → k.kid ≠ kid) ∧
            source.resolve f uptime kid s = (.error (.keyUnavailable (.unknownKid kid)), s)) ∧
    ∀ items text' items', Jwk.IsSet text items → Jwk.IsSet text' items' → Jwk.Grows items items' →
      (∃ fault, ofDocument text = .error fault ∧ ofDocument text' = .error fault) ∨
      ∃ source source', ofDocument text = .ok source ∧ ofDocument text' = .ok source' ∧
        ∀ {σ : Type} (f : Fetcher σ) (uptime : Uptime) (s : Shared σ),
          (∀ kid, source'.resolve f uptime kid s = source.resolve f uptime kid s) ∧
          ∀ issuer leeway now token,
            (Verifier.mk issuer leeway source').verify f uptime now token s =
              (Verifier.mk issuer leeway source).verify f uptime now token s := by
  refine ⟨?_, ?_, ?_⟩
  · constructor
    · rintro ⟨source, h⟩
      obtain ⟨jwks, hread, husable, -⟩ := ofDocument_eq_ok_iff.mp h
      exact ⟨jwks, hread, husable⟩
    · rintro ⟨jwks, hread, husable⟩
      exact ⟨_, ofDocument_eq_ok_iff.mpr ⟨jwks, hread, husable, rfl⟩⟩
  · intro source jwks hsource hread σ f uptime kid s
    obtain ⟨jwks', hread', -, rfl⟩ := ofDocument_eq_ok_iff.mp hsource
    obtain rfl := Option.some.inj (hread'.symm.trans hread)
    unfold resolve
    cases hfind : TrustedKey.find? (TrustedKey.usable jwks') kid with
    | some key =>
      refine .inl ⟨key, TrustedKey.find?_usable_eq_some_iff.mp hfind, ?_⟩
      dsimp only
      rw [hfind]
    | none =>
      refine .inr ⟨TrustedKey.find?_usable_eq_none_iff.mp hfind, ?_⟩
      dsimp only
      rw [hfind]
  · intro items text' items' hset hset' hgrows
    have hread := Jwk.readDocument?_of_isSet hset
    have hread' := Jwk.readDocument?_of_isSet hset'
    have hfind := hgrows.find?_usable
    have husable : (∃ k ∈ Jwk.entries items', k.Usable) ↔ ∃ k ∈ Jwk.entries items, k.Usable := by
      rw [TrustedKey.exists_usable_iff, TrustedKey.exists_usable_iff]
      simp only [hfind]
    by_cases hsome : ∃ k ∈ Jwk.entries items, k.Usable
    · refine .inr ⟨_, _, ofDocument_eq_ok_iff.mpr ⟨_, hread, hsome, rfl⟩,
        ofDocument_eq_ok_iff.mpr ⟨_, hread', husable.mpr hsome, rfl⟩, ?_⟩
      intro σ f uptime s
      have hresolve := resolve_inline_congr hfind f uptime
      refine ⟨fun kid => congrFun (congrFun hresolve kid) s, fun issuer leeway now token => ?_⟩
      unfold Verifier.verify
      rw [hresolve]
      rfl
    · exact .inl ⟨.noUsableKey, ofDocument_of_unusable hread hsome,
        ofDocument_of_unusable hread' (mt husable.mp hsome)⟩

/-- A set with a key without a key id, and one that grew out of it by an elliptic key in front and a
second RSA key behind. -/
theorem first_usable_entry_counts_grown :
    ∃ source source',
      ofDocument (Utf8.bytes "\x7b\"keys\":[\x7b\"kty\":\"RSA\",\"n\":\"AQ\",\"e\":\"Aw\"\x7d]\x7d") =
        .ok source ∧
      ofDocument (Utf8.bytes ("\x7b\"keys\":[\x7b\"kty\":\"EC\"\x7d," ++
        "\x7b\"kty\":\"RSA\",\"n\":\"AQ\",\"e\":\"Aw\"\x7d," ++
        "\x7b\"kty\":\"RSA\",\"n\":\"BQ\",\"e\":\"Aw\"\x7d]\x7d")) = .ok source' ∧
      ∀ (f : Fetcher Unit) (uptime : Uptime) (s : Shared Unit),
        source'.resolve f uptime none s = (.ok ⟨none, .components ⟨[1], [3]⟩⟩, s) ∧
        source'.resolve f uptime (some "") s =
          (.error (.keyUnavailable (.unknownKid (some ""))), s) := by
  have hset : Jwk.IsSet
      (Utf8.bytes "\x7b\"keys\":[\x7b\"kty\":\"RSA\",\"n\":\"AQ\",\"e\":\"Aw\"\x7d]\x7d")
      [.object [("kty", .string "RSA"), ("n", .string "AQ"), ("e", .string "Aw")]] := by
    refine ⟨[("keys", .array _)], by decide +kernel, rfl, ?_⟩
    exact List.forall_mem_singleton.mpr ⟨_, rfl⟩
  have hset' : Jwk.IsSet (Utf8.bytes ("\x7b\"keys\":[\x7b\"kty\":\"EC\"\x7d," ++
      "\x7b\"kty\":\"RSA\",\"n\":\"AQ\",\"e\":\"Aw\"\x7d," ++
      "\x7b\"kty\":\"RSA\",\"n\":\"BQ\",\"e\":\"Aw\"\x7d]\x7d"))
      [.object [("kty", .string "EC")],
        .object [("kty", .string "RSA"), ("n", .string "AQ"), ("e", .string "Aw")],
        .object [("kty", .string "RSA"), ("n", .string "BQ"), ("e", .string "Aw")]] := by
    refine ⟨[("keys", .array _)], by decide +kernel, rfl, ?_⟩
    simp only [List.forall_mem_cons]
    exact ⟨⟨_, rfl⟩, ⟨_, rfl⟩, ⟨_, rfl⟩, fun item hitem => nomatch hitem⟩
  have hfirst : Jwk.Usable ⟨none, "RSA", none, some "AQ", some "Aw"⟩ :=
    ⟨⟨none, .components ⟨[1], [3]⟩⟩, TrustedKey.ofJwk?_eq_some_iff.mp (by decide +kernel)⟩
  have hsecond : Jwk.Usable ⟨none, "RSA", none, some "BQ", some "Aw"⟩ :=
    ⟨⟨none, .components ⟨[5], [3]⟩⟩, TrustedKey.ofJwk?_eq_some_iff.mp (by decide +kernel)⟩
  have helliptic : ¬Jwk.Usable ⟨none, "EC", none, none, none⟩ :=
    TrustedKey.ofJwk?_eq_none_iff.mp (by decide +kernel)
  -- the elliptic key is put in front last
  have hgrows : Jwk.Grows
      [.object [("kty", .string "RSA"), ("n", .string "AQ"), ("e", .string "Aw")]]
      [.object [("kty", .string "EC")],
        .object [("kty", .string "RSA"), ("n", .string "AQ"), ("e", .string "Aw")],
        .object [("kty", .string "RSA"), ("n", .string "BQ"), ("e", .string "Aw")]] :=
    @Jwk.Grows.insert _ [] _ _ _
      (.append .refl rfl hsecond List.mem_cons_self rfl hfirst rfl) rfl helliptic
  obtain ⟨hsource?, hanswers, hsets⟩ := first_usable_entry_counts (Utf8.bytes
    "\x7b\"keys\":[\x7b\"kty\":\"RSA\",\"n\":\"AQ\",\"e\":\"Aw\"\x7d]\x7d")
  have hread := Jwk.readDocument?_of_isSet hset
  obtain ⟨source, hsource⟩ := hsource?.mpr ⟨_, hread, _, List.mem_cons_self, hfirst⟩
  rcases hsets _ _ _ hset hset' hgrows with
    ⟨fault, hfault, -⟩ | ⟨source₀, source', hsource₀, hsource', hsame⟩
  · cases hsource.symm.trans hfault
  obtain rfl := Except.ok.inj (hsource.symm.trans hsource₀)
  refine ⟨source, source', hsource, hsource', fun f uptime s => ⟨?_, ?_⟩⟩
  · rw [(hsame f uptime s).1]
    rcases hanswers source _ hsource hread f uptime none s with ⟨key, hgives, hanswer⟩ | ⟨hnone, -⟩
    · have hkey : TrustedKey.find? (TrustedKey.usable (Jwk.entries
          [.object [("kty", .string "RSA"), ("n", .string "AQ"), ("e", .string "Aw")]])) none =
          some ⟨none, .components ⟨[1], [3]⟩⟩ := by decide +kernel
      have hfound := TrustedKey.find?_usable_eq_some_iff.mpr hgives
      obtain rfl := Option.some.inj (hkey.symm.trans hfound)
      exact hanswer
    · exact absurd rfl (hnone _ List.mem_cons_self hfirst)
  · rw [(hsame f uptime s).1]
    rcases hanswers source _ hsource hread f uptime (some "") s with
      ⟨key, ⟨before, k, after, heq, -, hkid, -⟩, -⟩ | ⟨-, hanswer⟩
    · have hmem : k ∈ Jwk.entries
          [.object [("kty", .string "RSA"), ("n", .string "AQ"), ("e", .string "Aw")]] :=
        heq ▸ List.mem_append_right before List.mem_cons_self
      rw [List.mem_singleton.mp hmem] at hkid
      cases hkid
    · exact hanswer

end KeySource

end RpcGuard
