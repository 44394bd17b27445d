import RpcGuard.Proofs.Equality
import RpcGuard.Proofs.Settings.Overlay
import RpcGuard.Proofs.Yaml.Named

/-!
# Overlays, setting by setting

Files are merged as values, before settings are read from them. For mappings of names without tags
that comes to a choice for each setting (`Settings.load_is_fieldwise`): it is as the overlay has it,
even if that is null, or else as the base has it. Only the resources by service, where both files
write a mapping of them, are united.

What entries make of a setting depends on the value of its key alone (`Reading.value?`), so that
two merged mappings are compared key by key.
-/

namespace RpcGuard

open Dictionary (overlay)
open Yaml (Value)

namespace Settings

/-! ## One setting -/

/-- What a setting is set to. -/
inductive Setting where
  | text (s : Option String)
  | number (n : UInt64)
  | names (ps : List (String × String))
  | scheme (x : UnknownScheme)
  | list (items : List String)
  deriving DecidableEq

/-- What the settings have for one of them. -/
def get (s : Settings) : Key → Setting
  | .issuer => .text s.issuer
  | .publicKey => .text s.publicKey
  | .jwksDomain => .text s.jwksDomain
  | .jwksEndpoint => .text s.jwksEndpoint
  | .leeway => .number s.leeway
  | .resourceName => .text s.resourceName
  | .resourceNames => .names s.resourceNames
  | .unknownScheme => .scheme s.unknownScheme
  | .skippedServices => .list s.skippedServices
  | .cacheTtl => .number s.cacheTtl
  | .refreshCooldown => .number s.refreshCooldown
  | .fetchTimeout => .number s.fetchTimeout
  | .maxStaleness => .number s.maxStaleness

/-- There is nothing else to settings. -/
theorem ext_get {s t : Settings} (h : ∀ k, s.get k = t.get k) : s = t := by
  have hall : ∀ k ∈ Key.all, s.get k = t.get k := fun k _ => h k
  cases s
  cases t
  simpa [Key.all, get] using hall

theorem Key.ofName?_eq_some_iff {name : String} {k : Key} :
    ofName? name = some k ↔ name = k.name := by
  constructor
  · intro h
    unfold ofName? at h
    have hname := List.find?_some h
    exact (beq_iff_eq.mp hname).symm
  · rintro rfl
    exact ofName?_name k

theorem Key.name_inj {k k' : Key} : k.name = k'.name ↔ k = k' := by
  constructor
  · intro h
    have hofName := ofName?_name k
    rw [h, ofName?_name] at hofName
    exact (Option.some.inj hofName).symm
  · exact congrArg name

/-! ## Reading entries -/

namespace Reading

variable {α : Type} {r : Reading α} {s s' : Settings} {k : Key} {x : α} {ps qs : List (String × α)}

/-- What a value sets a setting to. -/
def setting? (r : Reading α) (k : Key) (x : α) : Option Setting :=
  match k with
  | .issuer | .publicKey | .jwksDomain | .jwksEndpoint | .resourceName => (r.text? x).map .text
  | .leeway | .cacheTtl | .refreshCooldown | .fetchTimeout | .maxStaleness =>
    (r.number? x).map .number
  | .resourceNames => (r.names? x).map .names
  | .unknownScheme => (r.scheme? x).map .scheme
  | .skippedServices => (r.list? x).map .list

theorem exists_set? {v : Setting} (h : r.setting? k x = some v) :
    ∃ s', r.set? s k x = some s' := by
  cases k with
  | _ =>
    obtain ⟨a, ha, -⟩ := Option.map_eq_some_iff.mp h
    simp [set?, ha]

/-- One setting is set, and the others stay. -/
theorem get_of_set? (h : r.set? s k x = some s') :
    r.setting? k x = some (s'.get k) ∧ ∀ k', k' ≠ k → s'.get k' = s.get k' := by
  cases k with
  | _ =>
    obtain ⟨a, ha, hs'⟩ := Option.bind_eq_some_iff.mp h
    cases hs'
    refine ⟨congrArg (Option.map _) ha, fun k' hk' => ?_⟩
    cases k' with
    | _ => first | rfl | exact absurd rfl hk'

/-- What entries make of a setting, if the keys are distinct. -/
def value? (r : Reading α) (s : Settings) (ps : List (String × α)) (k : Key) : Option Setting :=
  match ps.lookup k.name with
  | none => some (s.get k)
  | some x => r.setting? k x

theorem value?_of_lookup_eq_none (h : ps.lookup k.name = none) :
    r.value? s ps k = some (s.get k) := by
  rw [value?, h]

theorem value?_of_lookup (h : ps.lookup k.name = some x) : r.value? s ps k = r.setting? k x := by
  rw [value?, h]

/-- Only the value of the key counts, and what the setting is without it. -/
theorem value?_congr (hlookup : ps.lookup k.name = qs.lookup k.name) (hget : s.get k = s'.get k) :
    r.value? s ps k = r.value? s' qs k := by
  simp only [value?, hlookup, hget]

theorem value?_cons_of_ne {name : String} (h : k.name ≠ name) :
    r.value? s ((name, x) :: ps) k = r.value? s ps k := by
  refine value?_congr ?_ rfl
  rw [Dictionary.lookup_cons_eq_ite, if_neg h]

/-- Settings that are read from entries have what the entries make of each of them. -/
theorem value?_of_entries? {seen : List Key} (h : r.entries? s seen ps = some s')
    (hnodup : (ps.map Prod.fst).Nodup) (k : Key) : r.value? s ps k = some (s'.get k) := by
  induction ps generalizing s seen with
  | nil =>
    cases h
    rfl
  | cons p ps ih =>
    obtain ⟨name, x⟩ := p
    simp only [List.map_cons, List.nodup_cons] at hnodup
    rw [entries?] at h
    split at h
    · next hunknown =>
      have hne : k.name ≠ name := by
        rintro rfl
        simp at hunknown
      rw [value?_cons_of_ne hne]
      exact ih h hnodup.2
    · next j hknown =>
      obtain rfl := Key.ofName?_eq_some_iff.mp hknown
      split at h
      · cases h
      · obtain ⟨s₁, hs₁, h⟩ := Option.bind_eq_some_iff.mp h
        obtain ⟨hset, hothers⟩ := get_of_set? hs₁
        have hrest := ih h hnodup.2
        by_cases hk : k = j
        · subst hk
          -- the key does not come again, so that the setting stays
          have hnone := Dictionary.lookup_eq_none_of_notMem hnodup.1
          rw [value?_of_lookup_eq_none hnone] at hrest
          rw [value?_of_lookup List.lookup_cons_self, hset, hrest]
        · rw [value?_cons_of_ne (mt Key.name_inj.mp hk), ← hrest]
          exact value?_congr rfl (hothers k hk).symm

/-- Settings can be read from entries if each of them can. -/
theorem exists_entries? {seen : List Key} (hnodup : (ps.map Prod.fst).Nodup)
    (hseen : ∀ k ∈ seen, k.name ∉ ps.map Prod.fst) (h : ∀ k, ∃ v, r.value? s ps k = some v) :
    ∃ s', r.entries? s seen ps = some s' := by
  induction ps generalizing s seen with
  | nil => exact ⟨s, rfl⟩
  | cons p ps ih =>
    obtain ⟨name, x⟩ := p
    simp only [List.map_cons, List.nodup_cons, List.mem_cons, not_or] at hnodup hseen
    cases hname : Key.ofName? name with
    | none =>
      simp only [entries?, hname]
      refine ih hnodup.2 (fun k hk => (hseen k hk).2) fun k => ?_
      have hne : k.name ≠ name := by
        rintro rfl
        simp at hname
      rw [← value?_cons_of_ne hne]
      exact h k
    | some j =>
      obtain rfl := Key.ofName?_eq_some_iff.mp hname
      have hnew : j ∉ seen := fun hj => (hseen j hj).1 rfl
      obtain ⟨v, hv⟩ := h j
      rw [value?_of_lookup List.lookup_cons_self] at hv
      obtain ⟨s₁, hs₁⟩ := exists_set? (s := s) hv
      simp only [entries?, hname, if_neg hnew, hs₁]
      refine ih hnodup.2 ?_ fun k => ?_
      · simp only [List.mem_cons, forall_eq_or_imp]
        exact ⟨hnodup.1, fun k hk => (hseen k hk).2⟩
      · by_cases hk : k = j
        · subst hk
          exact ⟨_, value?_of_lookup_eq_none (Dictionary.lookup_eq_none_of_notMem hnodup.1)⟩
        · obtain ⟨w, hw⟩ := h k
          rw [value?_cons_of_ne (mt Key.name_inj.mp hk)] at hw
          exact ⟨w, (value?_congr rfl ((get_of_set? hs₁).2 k hk)).trans hw⟩

theorem entries?_eq_some_iff (hnodup : (ps.map Prod.fst).Nodup) :
    r.entries? s [] ps = some s' ↔ ∀ k, r.value? s ps k = some (s'.get k) := by
  constructor
  · exact fun h k => value?_of_entries? h hnodup k
  · intro h
    obtain ⟨t, ht⟩ := exists_entries? hnodup (fun k (hk : k ∈ []) => nomatch hk) fun k => ⟨_, h k⟩
    have hget : ∀ k, t.get k = s'.get k := fun k =>
      Option.some.inj ((value?_of_entries? ht hnodup k).symm.trans (h k))
    rw [ht, ext_get hget]

/-- Only known keys count. -/
theorem entries?_congr (hps : (ps.map Prod.fst).Nodup) (hqs : (qs.map Prod.fst).Nodup)
    (h : ∀ k : Key, ps.lookup k.name = qs.lookup k.name) :
    r.entries? s [] ps = r.entries? s [] qs := by
  refine Option.ext fun s' => ?_
  rw [entries?_eq_some_iff hps, entries?_eq_some_iff hqs]
  exact forall_congr' fun k => by rw [value?_congr (h k) rfl]

end Reading

/-! ## Reading values without tags -/

namespace Merged

open Yaml.Value (KeysDistinct TagFree ofNamed ofNames)

theorem string?_eq_some_iff {v : Value} {s : String} (h : v.TagFree) :
    string? v = some s ↔ v = .string s := by
  rw [string?, h.untagged]
  cases v with
  | string s' => simp
  | null | bool | number | sequence | mapping | tagged => simp

/-- A list is read item by item if each item is what writes its value. -/
theorem mapM_eq_some_iff {α β : Type} {f : α → Option β} {g : β → α} {as : List α} {bs : List β}
    (h : ∀ a ∈ as, ∀ b, f a = some b ↔ a = g b) : as.mapM f = some bs ↔ as = bs.map g := by
  induction as generalizing bs with
  | nil => cases bs <;> simp
  | cons a as ih =>
    obtain ⟨ha, has⟩ := List.forall_mem_cons.mp h
    cases bs with
    | nil => simp [List.mapM_cons, Option.bind_eq_some_iff]
    | cons b bs => simp [List.mapM_cons, Option.bind_eq_some_iff, ha, ih has]

theorem entries?_mapping_eq_some_iff {es : List (Value × Value)} {ps : List (String × Value)}
    (h : ∀ e ∈ es, e.1.TagFree) : entries? (.mapping es) = some ps ↔ es = ofNamed ps := by
  refine mapM_eq_some_iff fun e he p => ?_
  obtain ⟨k, x⟩ := e
  obtain ⟨name, y⟩ := p
  simp only [Option.bind_eq_bind, Option.bind_eq_some_iff, string?_eq_some_iff (h _ he)]
  constructor
  · rintro ⟨_, rfl, hp⟩
    cases hp
    rfl
  · intro he
    cases he
    exact ⟨name, rfl, rfl⟩

theorem entries?_ofNamed (ps : List (String × Value)) :
    entries? (.mapping (ofNamed ps)) = some ps := by
  refine (entries?_mapping_eq_some_iff fun e he => ?_).mpr rfl
  obtain ⟨p, -, rfl⟩ := List.mem_map.mp he
  exact Value.IsScalar.tagFree trivial

theorem mapM_string?_eq_some_iff {ps : List (String × Value)} {qs : List (String × String)}
    (h : ∀ p ∈ ps, p.2.TagFree) :
    (ps.mapM fun (k, x) => do return (k, ← string? x)) = some qs ↔
      ps = qs.map (Prod.map id .string) := by
  refine mapM_eq_some_iff fun p hp q => ?_
  obtain ⟨k, x⟩ := p
  obtain ⟨name, y⟩ := q
  simp only [Option.bind_eq_bind, Option.bind_eq_some_iff, string?_eq_some_iff (h _ hp)]
  constructor
  · rintro ⟨_, rfl, hq⟩
    cases hq
    rfl
  · intro hp
    cases hp
    exact ⟨y, rfl, rfl⟩

/-- Without tags, names are read only from a mapping of names to names. -/
theorem eq_ofNames_of_names? {es : List (Value × Value)} {qs : List (String × String)}
    (htags : (Value.mapping es).TagFree) (hkeys : KeysDistinct es)
    (h : names? (.mapping es) = some qs) : es = ofNames qs := by
  have hes := Value.tagFree_mapping_iff.mp htags
  obtain ⟨ps, hps, hrest⟩ := Option.bind_eq_some_iff.mp h
  obtain ⟨qs', hqs', hlast⟩ := Option.bind_eq_some_iff.mp hrest
  obtain rfl := (entries?_mapping_eq_some_iff fun e he => (hes e he).1).mp hps
  obtain rfl := (mapM_string?_eq_some_iff (Value.tagFree_ofNamed_iff.mp htags)).mp hqs'
  have hnodup := Value.keysDistinct_ofNames_iff.mp hkeys
  obtain rfl : qs' = qs :=
    (Dictionary.lastOfEach_of_nodup hnodup).symm.trans (Option.some.inj hlast)
  rfl

theorem names?_ofNames {qs : List (String × String)} (h : (qs.map Prod.fst).Nodup) :
    names? (.mapping (ofNames qs)) = some qs := by
  have hvalues := Value.tagFree_ofNamed_iff.mp (Value.tagFree_ofNames qs)
  refine Option.bind_eq_some_iff.mpr ⟨_, entries?_ofNamed _, ?_⟩
  refine Option.bind_eq_some_iff.mpr ⟨_, (mapM_string?_eq_some_iff hvalues).mpr rfl, ?_⟩
  exact congrArg some (Dictionary.lastOfEach_of_nodup h)

theorem setting?_mapping {k : Key} {es : List (Value × Value)} {v : Setting}
    (h : merged.setting? k (.mapping es) = some v) : k = .resourceNames := by
  cases k with
  | resourceNames => rfl
  | _ => cases h

end Merged

/-! ## Files -/

open Yaml.Value (KeysDistinct TagFree ofNamed ofNames)

/-- The file writes a mapping of names to values, in which nothing has a tag. -/
structure Plain (file : Option Bytes) (es : List (String × Value)) : Prop where
  value : fileValue file = .ok (.mapping (ofNamed es))
  tagFree : (Value.mapping (ofNamed es)).TagFree

/-- Both write the resources by service as a mapping. -/
def United (es bs : List (String × Value)) : Prop :=
  (∃ xs, es.lookup Key.resourceNames.name = some (.mapping xs)) ∧
    ∃ ys, bs.lookup Key.resourceNames.name = some (.mapping ys)

theorem distinct_of_fileValue {file : Option Bytes} {v : Value} (h : fileValue file = .ok v) :
    v.Distinct := by
  unfold fileValue at h
  split at h
  · cases h
  · split at h
    · next hv =>
      cases h
      exact Value.distinct_of_ofText? hv
    · cases h

namespace Plain

variable {base file : Option Bytes} {bs es : List (String × Value)} {s t u : Settings}

theorem nodup (h : Plain file es) : (es.map Prod.fst).Nodup :=
  Value.keysDistinct_ofNamed_iff.mp (distinct_of_fileValue h.value _ .refl)

theorem load_none_eq_ok_iff (h : Plain file es) :
    load file none = .ok s ↔ ∀ k, merged.value? {} es k = some (s.get k) := by
  rw [← Reading.entries?_eq_some_iff h.nodup, Settings.load_none_eq_ok_iff]
  simp [h.value, ofValue?, Merged.entries?_ofNamed]

/-- A mapping that the file writes for the resources by service holds just these. -/
theorem eq_ofNames (h : Plain file es) {xs : List (Value × Value)}
    (hlookup : es.lookup Key.resourceNames.name = some (.mapping xs))
    (hvalue : merged.value? {} es .resourceNames = some (.names s.resourceNames)) :
    xs = ofNames s.resourceNames ∧ (s.resourceNames.map Prod.fst).Nodup := by
  have hmem := Value.mem_ofNamed_of_lookup hlookup
  have htags := (Value.tagFree_mapping_iff.mp h.tagFree _ hmem).2
  have hkeys := distinct_of_fileValue h.value xs (.value hmem .refl)
  rw [Reading.value?_of_lookup hlookup] at hvalue
  obtain ⟨ps, hps, heq⟩ := Option.map_eq_some_iff.mp hvalue
  cases heq
  obtain rfl := Merged.eq_ofNames_of_names? htags hkeys hps
  exact ⟨rfl, Value.keysDistinct_ofNames_iff.mp hkeys⟩

/-- What is loaded is read from the overlay of the mappings. -/
theorem load_some (hbase : Plain base bs) (hfile : Plain file es) :
    load base (some file) =
      match merged.entries? {} [] (overlay Value.merge es bs) with
      | some u => .ok u
      | none => .error .yaml := by
  have hentries : ofValue? (Value.merge (.mapping (ofNamed es)) (.mapping (ofNamed bs))) =
      merged.entries? {} [] (overlay Value.merge es bs) := by
    rw [Value.merge, Value.mergeEntries_ofNamed, ofValue?, Merged.entries?_ofNamed]
    rfl
  rw [← hentries]
  simp only [load, hbase.value, hfile.value]
  rfl

theorem exists_load_some (hbase : Plain base bs) (hfile : Plain file es)
    (h : ∀ k, ∃ v, merged.value? {} (overlay Value.merge es bs) k = some v) :
    ∃ u, load base (some file) = .ok u ∧
      ∀ k, merged.value? {} (overlay Value.merge es bs) k = some (u.get k) := by
  have hnodup := Dictionary.nodup_overlay Value.merge es hbase.nodup
  obtain ⟨u, hu⟩ := Reading.exists_entries? hnodup (fun k (hk : k ∈ []) => nomatch hk) h
  refine ⟨u, ?_, (Reading.entries?_eq_some_iff hnodup).mp hu⟩
  rw [load_some hbase hfile, hu]

/-- A setting is as the overlay has it, or else as the base has it. -/
theorem value?_overlay (hfile : Plain file es)
    (hs : ∀ k, merged.value? {} bs k = some (s.get k))
    (ht : ∀ k, merged.value? {} es k = some (t.get k)) {k : Key}
    (hunited : ¬(k = .resourceNames ∧ United es bs)) :
    merged.value? {} (overlay Value.merge es bs) k =
      some (if (es.lookup k.name).isSome then t.get k else s.get k) := by
  have hlookup := Dictionary.lookup_overlay Value.merge hfile.nodup bs k.name
  cases hx : es.lookup k.name with
  | none =>
    have hkept : (overlay Value.merge es bs).lookup k.name = bs.lookup k.name := by
      simp [hlookup, hx]
    rw [Reading.value?_congr hkept rfl, hs k]
    rfl
  | some x =>
    have hreplaced : (overlay Value.merge es bs).lookup k.name = es.lookup k.name := by
      cases hy : bs.lookup k.name with
      | none => simp [hlookup, hx, hy]
      | some y =>
        rw [hlookup, hx, hy, Option.merge_some_some, Value.merge_eq_left]
        -- only for the resources by service is a mapping accepted
        rintro ⟨⟨xs, rfl⟩, ys, rfl⟩
        have hset := ht k
        rw [Reading.value?_of_lookup hx] at hset
        obtain rfl := Merged.setting?_mapping hset
        exact hunited ⟨rfl, ⟨xs, hx⟩, ys, hy⟩
    rw [Reading.value?_congr hreplaced rfl, ht k]
    rfl

/-- Where both write a mapping, the resources by service are united. -/
theorem value?_overlay_of_united (hbase : Plain base bs) (hfile : Plain file es)
    (hs : ∀ k, merged.value? {} bs k = some (s.get k))
    (ht : ∀ k, merged.value? {} es k = some (t.get k)) (hunited : United es bs) :
    (s.resourceNames.map Prod.fst).Nodup ∧ (t.resourceNames.map Prod.fst).Nodup ∧
      merged.value? {} (overlay Value.merge es bs) .resourceNames =
        some (.names (overlay (fun v _ => v) t.resourceNames s.resourceNames)) := by
  obtain ⟨⟨xs, hx⟩, ys, hy⟩ := hunited
  obtain ⟨rfl, ht'⟩ := hfile.eq_ofNames hx (ht .resourceNames)
  obtain ⟨rfl, hs'⟩ := hbase.eq_ofNames hy (hs .resourceNames)
  have hlookup := Dictionary.lookup_overlay Value.merge hfile.nodup bs Key.resourceNames.name
  rw [hx, hy, Option.merge_some_some, Value.merge, Value.mergeEntries_ofNames] at hlookup
  refine ⟨hs', ht', ?_⟩
  rw [Reading.value?_of_lookup hlookup]
  exact congrArg (Option.map _) (Merged.names?_ofNames (Dictionary.nodup_overlay _ _ hs'))

end Plain

/-- **Overlays are field-wise**: let a base and an overlay write mappings of names without tags, and
let each be accepted on its own. Then both are accepted together. Each setting is as it is in the
overlay, if the overlay has its key, and else as it is in the base; only if both have a mapping for
the resources by service, a service has the resource that the overlay gives it, or else the one of
the base. Keys that are no settings never make a difference, whether the files are accepted or not.
-/
theorem load_is_fieldwise {base file : Option Bytes} {bs es : List (String × Value)}
    (hbase : Plain base bs) (hfile : Plain file es) :
    (∀ s t, load base none = .ok s → load file none = .ok t →
      ∃ u, load base (some file) = .ok u ∧
        (∀ k, ¬(k = .resourceNames ∧ United es bs) →
          u.get k = if (es.lookup k.name).isSome then t.get k else s.get k) ∧
        (United es bs → (u.resourceNames.map Prod.fst).Nodup ∧
          ∀ service, u.resourceNames.lookup service =
            (t.resourceNames.lookup service).or (s.resourceNames.lookup service))) ∧
    ∀ base' file' bs' es', Plain base' bs' → Plain file' es' →
      (∀ k : Key, bs'.lookup k.name = bs.lookup k.name) →
      (∀ k : Key, es'.lookup k.name = es.lookup k.name) →
      load base' (some file') = load base (some file) := by
  constructor
  · intro s t hs ht
    rw [hbase.load_none_eq_ok_iff] at hs
    rw [hfile.load_none_eq_ok_iff] at ht
    obtain ⟨u, hu, hget⟩ := hbase.exists_load_some hfile fun k => by
      by_cases hunited : k = .resourceNames ∧ United es bs
      · obtain ⟨rfl, hunited⟩ := hunited
        exact ⟨_, (Plain.value?_overlay_of_united hbase hfile hs ht hunited).2.2⟩
      · exact ⟨_, Plain.value?_overlay hfile hs ht hunited⟩
    refine ⟨u, hu, ?_, ?_⟩
    · intro k hunited
      exact Option.some.inj ((hget k).symm.trans (Plain.value?_overlay hfile hs ht hunited))
    · intro hunited
      obtain ⟨hs', ht', hvalue⟩ := Plain.value?_overlay_of_united hbase hfile hs ht hunited
      have hnames : u.resourceNames = overlay (fun v _ => v) t.resourceNames s.resourceNames :=
        Setting.names.inj (Option.some.inj ((hget .resourceNames).symm.trans hvalue))
      rw [hnames]
      refine ⟨Dictionary.nodup_overlay _ _ hs', fun service => ?_⟩
      rw [Dictionary.lookup_overlay _ ht']
      cases t.resourceNames.lookup service <;> cases s.resourceNames.lookup service <;> rfl
  · intro base' file' bs' es' hbase' hfile' hbs hes
    rw [hbase'.load_some hfile', hbase.load_some hfile, Reading.entries?_congr
      (Dictionary.nodup_overlay _ _ hbase'.nodup) (Dictionary.nodup_overlay _ _ hbase.nodup)]
    intro k
    rw [Dictionary.lookup_overlay _ hfile'.nodup, Dictionary.lookup_overlay _ hfile.nodup, hbs, hes]

/-- An issuer is taken back, a leeway stays, resources are united, and a key that is no setting is
passed over. -/
theorem load_is_fieldwise_united :
    let base := some (Utf8.bytes
      "issuer: a\nmaximum-leeway: 5\nresource-names: \x7bx: p, y: q\x7d")
    let file := some (Utf8.bytes "issuer: ~\nresource-names: \x7by: r\x7d\nother: 1")
    ∃ u, load base (some file) = .ok u ∧ u.get .issuer = .text none ∧ u.get .leeway = .number 5 ∧
      u.resourceNames.lookup "x" = some "p" ∧ u.resourceNames.lookup "y" = some "r" := by
  intro base file
  have hbase : Plain base [("issuer", .string "a"), ("maximum-leeway", .number (.natural 5)),
      ("resource-names", .mapping (ofNames [("x", "p"), ("y", "q")]))] := by
    refine ⟨Outcome.toOption_eq_some_iff.mp (by decide +kernel), ?_⟩
    simp only [Value.tagFree_ofNamed_iff, List.forall_mem_cons]
    exact ⟨Value.IsScalar.tagFree trivial, Value.IsScalar.tagFree trivial, Value.tagFree_ofNames _,
      fun p hp => nomatch hp⟩
  have hfile : Plain file [("issuer", .null),
      ("resource-names", .mapping (ofNames [("y", "r")])), ("other", .number (.natural 1))] := by
    refine ⟨Outcome.toOption_eq_some_iff.mp (by decide +kernel), ?_⟩
    simp only [Value.tagFree_ofNamed_iff, List.forall_mem_cons]
    exact ⟨Value.IsScalar.tagFree trivial, Value.tagFree_ofNames _, Value.IsScalar.tagFree trivial,
      fun p hp => nomatch hp⟩
  have hs : load base none =
      .ok { issuer := some "a", leeway := 5, resourceNames := [("x", "p"), ("y", "q")] } :=
    Outcome.toOption_eq_some_iff.mp (by decide +kernel)
  have ht : load file none = .ok { resourceNames := [("y", "r")] } :=
    Outcome.toOption_eq_some_iff.mp (by decide +kernel)
  obtain ⟨u, hu, hsettings, hunited⟩ := (load_is_fieldwise hbase hfile).1 _ _ hs ht
  obtain ⟨-, hresource⟩ := hunited ⟨⟨_, rfl⟩, _, rfl⟩
  exact ⟨u, hu, hsettings .issuer (fun h => nomatch h.1), hsettings .leeway (fun h => nomatch h.1),
    hresource "x", hresource "y"⟩

end Settings

end RpcGuard
