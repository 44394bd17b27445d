import RpcGuard.Proofs.Equality
import RpcGuard.Proofs.Yaml.Named
import RpcGuard.Proofs.Yaml.Sameness

/-!
# The laws of merging

A value is seen through the paths of keys that lead into its mappings (`Value.at?`), and what
merging does is said path by path: where the overlay has something, that is laid over what the base
has there (`at?_merge_of_some`), and elsewhere the base shows through as long as the overlay has
only mappings on the way (`at?_merge_of_none`). The order of keys is a law of its own
(`keys_mergeEntries`).

All of this is about values that have no key twice (`Value.Distinct`), as every value that is read
from a text (`distinct_of_ofText?`); merging keeps them so.
-/

namespace RpcGuard.Yaml.Value

/-! ## Values at keys and paths -/

/-- The value of a key. -/
def valueOf? (k : Value) (es : List (Value × Value)) : Option Value :=
  (es.find? fun e => k.same e.1).map Prod.snd

/-- The value that a path of keys leads to, through mappings without tags. -/
def at? : List Value → Value → Option Value
  | [], v => some v
  | k :: p, mapping es => (valueOf? k es).bind (at? p)
  | _ :: _, _ => none

/-- The keys of a mapping, in order. -/
def keys : Value → List Value
  | mapping es => es.map Prod.fst
  | _ => []

/-- The keys of the mapping that a path leads to. -/
def keysAt (p : List Value) (v : Value) : List Value := (v.at? p).elim [] keys

/-- A mapping without a tag. -/
def IsMapping (v : Value) : Prop := ∃ es, v = mapping es

/-- Whatever the value has on the way along the path, before its end, is a mapping. -/
def Open (p : List Value) (v : Value) : Prop :=
  ∀ q w, q <+: p → q ≠ p → v.at? q = some w → w.IsMapping

theorem valueOf?_cons (k j v : Value) (es : List (Value × Value)) :
    valueOf? k ((j, v) :: es) = if k.same j then some v else valueOf? k es := by
  unfold valueOf?
  rw [List.find?_cons]
  cases k.same j <;> rfl

theorem at?_cons_of_not_isMapping {v : Value} (h : ¬v.IsMapping) (k : Value) (p : List Value) :
    v.at? (k :: p) = none := by
  cases v with
  | mapping es => exact absurd ⟨es, rfl⟩ h
  | _ => rfl

/-- Over anything but a mapping, a mapping is what it was. -/
theorem merge_of_not_isMapping {a : Value} (ha : ¬a.IsMapping) (b : Value) : merge b a = b :=
  merge_eq_left fun h => ha h.2

theorem open_cons_mapping_iff {k : Value} {p : List Value} {es : List (Value × Value)} :
    Open (k :: p) (mapping es) ↔ ∀ v, valueOf? k es = some v → Open p v := by
  constructor
  · intro h v hv q w hq hne hw
    refine h (k :: q) w (List.cons_prefix_cons.mpr ⟨rfl, hq⟩)
      (fun heq => hne (List.cons.inj heq).2) ?_
    rw [at?, hv]
    exact hw
  · intro h q w hq hne hw
    cases q with
    | nil =>
      obtain rfl := Option.some.inj hw
      exact ⟨es, rfl⟩
    | cons j q =>
      obtain ⟨rfl, hprefix⟩ := List.cons_prefix_cons.mp hq
      obtain ⟨v, hv, hw⟩ := Option.bind_eq_some_iff.mp hw
      exact h v hv q w hprefix (fun heq => hne (congrArg _ heq)) hw

/-! ## Keys -/

theorem KeysDistinct.keys_iff {es : List (Value × Value)} :
    KeysDistinct es ↔ (es.map Prod.fst).Pairwise fun j k => k.same j = false := by
  rw [List.pairwise_map]
  rfl

theorem hasKey_eq_any_keys (k : Value) (es : List (Value × Value)) :
    hasKey k es = (es.map Prod.fst).any (k.same ·) := by
  unfold hasKey
  rw [List.any_map]
  rfl

theorem keys_put (k v : Value) (f : Value → Value) (es : List (Value × Value)) :
    (put k v f es).map Prod.fst =
      es.map Prod.fst ++ if hasKey k es then [] else [k] := by
  induction es with
  | nil => rfl
  | cons e es ih =>
    obtain ⟨j, w⟩ := e
    by_cases hj : k.same j
    · simp [put, hasKey, hj]
    · have hkey : hasKey k ((j, w) :: es) = hasKey k es := by simp [hasKey, hj]
      simp [put, hj, ih, hkey]

/-- The keys of a base stay in their order, and the new ones of the overlay follow in theirs. -/
theorem keys_mergeEntries {es : List (Value × Value)} (h : KeysDistinct es)
    (bs : List (Value × Value)) :
    (mergeEntries es bs).map Prod.fst =
      bs.map Prod.fst ++ (es.map Prod.fst).filter fun k => !hasKey k bs := by
  induction es generalizing bs with
  | nil => simp [mergeEntries]
  | cons e es ih =>
    obtain ⟨j, v⟩ := e
    obtain ⟨hj, hes⟩ := List.pairwise_cons.mp h
    -- the key that is put there is none of those that follow
    have hlater : ∀ k ∈ es.map Prod.fst, hasKey k (put j v (merge v) bs) = hasKey k bs := by
      intro k hk
      obtain ⟨e, he, rfl⟩ := List.mem_map.mp hk
      rw [hasKey_eq_any_keys, hasKey_eq_any_keys, keys_put, List.any_append]
      have hne : e.1.same j = false := hj e he
      split <;> simp [hne]
    rw [mergeEntries, ih hes, keys_put, List.append_assoc, List.map_cons, List.filter_cons,
      List.filter_congr fun k hk => congrArg (!·) (hlater k hk)]
    cases hasKey j bs <;> rfl

theorem keys_eq_nil_of_not_isMapping {v : Value} (h : ¬v.IsMapping) : v.keys = [] := by
  cases v with
  | mapping es => exact absurd ⟨es, rfl⟩ h
  | _ => rfl

/-- A mapping that comes of a merge has the keys of the base, then the new ones of the overlay. -/
theorem keys_merge {v w : Value} (hw : Distinct w) (h : (merge w v).IsMapping) :
    (merge w v).keys = v.keys ++ w.keys.filter fun k => !v.keys.any (k.same ·) := by
  by_cases hmapping : w.IsMapping
  · by_cases hv : v.IsMapping
    · obtain ⟨es, rfl⟩ := hmapping
      obtain ⟨bs, rfl⟩ := hv
      have hkeys := keys_mergeEntries (hw es .refl) bs
      simp only [hasKey_eq_any_keys] at hkeys
      exact hkeys
    · rw [merge_of_not_isMapping hv, keys_eq_nil_of_not_isMapping hv]
      simp
  · rw [merge_eq_left fun h => hmapping h.1] at h
    exact absurd h hmapping

theorem keysDistinct_mergeEntries {es bs : List (Value × Value)} (hes : KeysDistinct es)
    (hbs : KeysDistinct bs) : KeysDistinct (mergeEntries es bs) := by
  rw [KeysDistinct.keys_iff] at hbs ⊢
  rw [keys_mergeEntries hes]
  refine List.pairwise_append.mpr ⟨hbs, (KeysDistinct.keys_iff.mp hes).filter _, ?_⟩
  intro j hj k hk
  have hnew : hasKey k bs = false := by simpa using (List.mem_filter.mp hk).2
  rw [hasKey_eq_any_keys, List.any_eq_false] at hnew
  exact Bool.eq_false_iff.mpr (hnew j hj)

theorem Distinct.key {es : List (Value × Value)} (h : Distinct (mapping es)) {e : Value × Value}
    (he : e ∈ es) : Distinct e.1 :=
  fun es' hpart => h es' (.key he hpart)

theorem Distinct.value {es : List (Value × Value)} (h : Distinct (mapping es)) {e : Value × Value}
    (he : e ∈ es) : Distinct e.2 :=
  fun es' hpart => h es' (.value he hpart)

theorem Distinct.tail {e : Value × Value} {es : List (Value × Value)}
    (h : Distinct (mapping (e :: es))) : Distinct (mapping es) :=
  distinct_mapping (List.pairwise_cons.mp (h _ .refl)).2 fun _ he' =>
    ⟨h.key (List.mem_cons_of_mem _ he'), h.value (List.mem_cons_of_mem _ he')⟩

/-! ## What a key has after a merge -/

theorem valueOf?_put {k j : Value} (hk : Distinct k) (hj : Distinct j) (v : Value)
    (f : Value → Value) (es : List (Value × Value)) :
    valueOf? k (put j v f es) =
      if k.same j then some ((valueOf? k es).elim v f) else valueOf? k es := by
  induction es with
  | nil => exact valueOf?_cons k j v []
  | cons e es ih =>
    obtain ⟨i, w⟩ := e
    by_cases hji : j.same i
    · -- the key is found here exactly if it is the one that is put there
      have hki : k.same i = k.same j := by
        rw [Bool.eq_iff_iff]
        exact ⟨fun h => same_trans h (same_symm hj hji), fun h => same_trans h hji⟩
      simp only [put, hji, if_true, valueOf?_cons, hki]
      split <;> rfl
    · have hki : k.same j → ¬k.same i := fun hkj hki =>
        hji (same_trans (same_symm hk hkj) hki)
      simp only [put, hji, Bool.false_eq_true, if_false, valueOf?_cons, ih]
      by_cases hkj : k.same j
      · simp [hkj, hki hkj]
      · simp [hkj]

/-- What a key has after a merge is what the overlay or the base has for it, or the one laid over
the other. -/
theorem valueOf?_mergeEntries {k : Value} (hk : Distinct k) {es : List (Value × Value)}
    (hes : Distinct (mapping es)) (bs : List (Value × Value)) :
    valueOf? k (mergeEntries es bs) = Option.merge merge (valueOf? k es) (valueOf? k bs) := by
  induction es generalizing bs with
  | nil => simp [mergeEntries, valueOf?]
  | cons e es ih =>
    obtain ⟨j, v⟩ := e
    obtain ⟨hj, hlater⟩ := List.pairwise_cons.mp (hes _ .refl)
    rw [mergeEntries, ih hes.tail, valueOf?_put hk (hes.key List.mem_cons_self), valueOf?_cons]
    by_cases hkj : k.same j
    · -- a key comes once in the overlay, so that nothing is laid over what is put here
      have hnone : valueOf? k es = none := by
        refine Option.map_eq_none_iff.mpr (List.find?_eq_none.mpr fun e he hke => ?_)
        have hne : e.1.same j = false := hj e he
        rw [same_trans (same_symm hk hke) hkj] at hne
        cases hne
      rw [if_pos hkj, if_pos hkj, hnone]
      cases valueOf? k bs <;> rfl
    · rw [if_neg hkj, if_neg hkj]

theorem valueOf?_of_mem {es : List (Value × Value)} (h : KeysDistinct es) {e : Value × Value}
    (he : e ∈ es) : valueOf? e.1 es = some e.2 := by
  induction es with
  | nil => cases he
  | cons e' es ih =>
    obtain ⟨hfirst, hes⟩ := List.pairwise_cons.mp h
    rw [valueOf?_cons]
    rcases List.mem_cons.mp he with rfl | he
    · rw [if_pos (same_refl e.1)]
    · rw [if_neg (Bool.eq_false_iff.mp (hfirst e he)), ih hes he]

theorem Distinct.entry {es : List (Value × Value)} (h : Distinct (mapping es)) {k v : Value}
    (hv : valueOf? k es = some v) : Distinct v := by
  obtain ⟨e, he, rfl⟩ := Option.map_eq_some_iff.mp hv
  exact h.value (List.mem_of_find?_eq_some he)

/-! ## What a path leads to after a merge -/

/-- A path into the merged mappings goes through what its first key has after the merge. -/
theorem at?_merge_mapping {k : Value} (hk : Distinct k) (p : List Value)
    {es : List (Value × Value)} (hes : Distinct (mapping es)) (bs : List (Value × Value)) :
    (merge (mapping es) (mapping bs)).at? (k :: p) =
      (Option.merge merge (valueOf? k es) (valueOf? k bs)).bind (at? p) := by
  rw [merge, at?, valueOf?_mergeEntries hk hes]

section Paths

variable {a b : Value} {p : List Value}

/-- What the overlay has on a path is laid over what the base has there. -/
theorem at?_merge_of_some (hp : ∀ k ∈ p, Distinct k) (hb : Distinct b) {w : Value}
    (hw : b.at? p = some w) : (merge b a).at? p = some ((a.at? p).elim w (merge w)) := by
  induction p generalizing a b with
  | nil =>
    obtain rfl := Option.some.inj hw
    rfl
  | cons k p ih =>
    obtain ⟨hk, hp⟩ := List.forall_mem_cons.mp hp
    by_cases hmapping : b.IsMapping
    · obtain ⟨es, rfl⟩ := hmapping
      obtain ⟨v, hv, hw⟩ := Option.bind_eq_some_iff.mp hw
      by_cases ha : a.IsMapping
      · obtain ⟨bs, rfl⟩ := ha
        rw [at?_merge_mapping hk p hb, hv, at?]
        cases valueOf? k bs with
        | none => exact hw
        | some u => exact ih hp (hb.entry hv) hw
      · rw [merge_of_not_isMapping ha, at?_cons_of_not_isMapping ha, at?, hv]
        exact hw
    · rw [at?_cons_of_not_isMapping hmapping] at hw
      cases hw

/-- Where the overlay has nothing, the base shows through, unless something that is no mapping
stands in the way. -/
theorem at?_merge_of_none (hp : ∀ k ∈ p, Distinct k) (hb : Distinct b) (hnone : b.at? p = none) :
    (Open p b → (merge b a).at? p = a.at? p) ∧ (¬Open p b → (merge b a).at? p = none) := by
  induction p generalizing a b with
  | nil => cases hnone
  | cons k p ih =>
    obtain ⟨hk, hp⟩ := List.forall_mem_cons.mp hp
    by_cases hmapping : b.IsMapping
    · by_cases ha : a.IsMapping
      · obtain ⟨es, rfl⟩ := hmapping
        obtain ⟨bs, rfl⟩ := ha
        rw [at?_merge_mapping hk p hb, open_cons_mapping_iff, at?]
        cases hv : valueOf? k es with
        | none => simp
        | some v =>
          have hbeyond : v.at? p = none := by
            rw [at?, hv] at hnone
            exact hnone
          simp only [Option.some.injEq, forall_eq']
          cases valueOf? k bs with
          | none => exact ⟨fun _ => hbeyond, fun _ => hbeyond⟩
          | some u => exact ih hp (hb.entry hv) hbeyond
      · rw [merge_of_not_isMapping ha, at?_cons_of_not_isMapping ha]
        exact ⟨fun _ => hnone, fun _ => hnone⟩
    · rw [merge_eq_left fun h => hmapping h.1]
      refine ⟨fun hopen => absurd ?_ hmapping, fun _ => hnone⟩
      exact hopen [] b (List.nil_prefix) (by simp) rfl

end Paths

theorem distinct_at? {v w : Value} {p : List Value} (hv : Distinct v) (hw : v.at? p = some w) :
    Distinct w := by
  induction p generalizing v with
  | nil =>
    obtain rfl := Option.some.inj hw
    exact hv
  | cons k p ih =>
    by_cases hmapping : v.IsMapping
    · obtain ⟨es, rfl⟩ := hmapping
      obtain ⟨u, hu, hw⟩ := Option.bind_eq_some_iff.mp hw
      exact ih (hv.entry hu) hw
    · rw [at?_cons_of_not_isMapping hmapping] at hw
      cases hw

/-! ## Merging keeps keys distinct -/

theorem forall_mem_put {P : Value → Prop} {k v : Value} {f : Value → Value}
    {es : List (Value × Value)} (hv : P v) (hf : ∀ w, P w → P (f w)) (h : ∀ e ∈ es, P e.2) :
    ∀ e ∈ put k v f es, P e.2 := by
  induction es with
  | nil => simpa [put] using hv
  | cons e es ih =>
    obtain ⟨j, w⟩ := e
    obtain ⟨hw, hes⟩ := List.forall_mem_cons.mp h
    unfold put
    split
    · exact List.forall_mem_cons.mpr ⟨hf w hw, hes⟩
    · exact List.forall_mem_cons.mpr ⟨hw, ih hes⟩

/-- What holds of all values and of any two of them laid over one another, holds after a merge. -/
theorem forall_mem_mergeEntries {P : Value → Prop} {es bs : List (Value × Value)}
    (hbs : ∀ e ∈ bs, P e.2) (hes : ∀ e ∈ es, P e.2 ∧ ∀ w, P w → P (merge e.2 w)) :
    ∀ e ∈ mergeEntries es bs, P e.2 := by
  induction es generalizing bs with
  | nil => exact hbs
  | cons e es ih =>
    obtain ⟨k, v⟩ := e
    obtain ⟨⟨hv, hmerge⟩, hes⟩ := List.forall_mem_cons.mp hes
    exact ih (forall_mem_put hv hmerge hbs) hes

theorem distinct_merge {a b : Value} (ha : Distinct a) (hb : Distinct b) :
    Distinct (merge b a) := by
  induction b using induction generalizing a with
  | scalar b h =>
    rw [merge_eq_left]
    · exact hb
    · rintro ⟨⟨es, rfl⟩, -⟩
      exact h
  | sequence items => exact hb
  | tagged name b => exact hb
  | mapping es ih =>
    by_cases hmapping : a.IsMapping
    · obtain ⟨bs, rfl⟩ := hmapping
      have hkeys : ∀ k ∈ (mergeEntries es bs).map Prod.fst, Distinct k := by
        rw [keys_mergeEntries (hb es .refl)]
        intro k hk
        rcases List.mem_append.mp hk with hk | hk
        · obtain ⟨e, he, rfl⟩ := List.mem_map.mp hk
          exact ha.key he
        · obtain ⟨e, he, rfl⟩ := List.mem_map.mp (List.mem_of_mem_filter hk)
          exact hb.key he
      have hvalues : ∀ e ∈ mergeEntries es bs, Distinct e.2 :=
        forall_mem_mergeEntries (fun e he => ha.value he) fun e he =>
          ⟨hb.value he, fun w hw => (ih e he).2 hw (hb.value he)⟩
      exact distinct_mapping (keysDistinct_mergeEntries (hb es .refl) (ha bs .refl)) fun e he =>
        ⟨hkeys e.1 (List.mem_map_of_mem he), hvalues e he⟩
    · rw [merge_of_not_isMapping hmapping]
      exact hb

/-! ## Merging again -/

theorem put_eq_self {k v w : Value} {f : Value → Value} {es : List (Value × Value)}
    (hw : valueOf? k es = some w) (hf : f w = w) : put k v f es = es := by
  induction es with
  | nil => cases hw
  | cons e es ih =>
    obtain ⟨j, u⟩ := e
    rw [valueOf?_cons] at hw
    unfold put
    split
    · next hj =>
      rw [if_pos hj] at hw
      obtain rfl := Option.some.inj hw
      rw [hf]
    · next hj =>
      rw [if_neg hj] at hw
      rw [ih hw]

/-- Entries that change none of the values that are there change nothing. -/
theorem mergeEntries_eq_self {es ms : List (Value × Value)}
    (h : ∀ e ∈ es, ∃ w, valueOf? e.1 ms = some w ∧ merge e.2 w = w) : mergeEntries es ms = ms := by
  induction es with
  | nil => rfl
  | cons e es ih =>
    obtain ⟨⟨w, hw, hmerge⟩, hes⟩ := List.forall_mem_cons.mp h
    rw [mergeEntries, put_eq_self hw hmerge, ih hes]

/-- A value laid over itself changes nothing. -/
theorem merge_self {v : Value} (hv : Distinct v) : merge v v = v := by
  induction v using induction with
  | scalar v h =>
    refine merge_eq_left ?_
    rintro ⟨⟨es, rfl⟩, -⟩
    exact h
  | sequence items => rfl
  | tagged name v => rfl
  | mapping es ih =>
    refine congrArg mapping (mergeEntries_eq_self fun e he => ?_)
    exact ⟨e.2, valueOf?_of_mem (hv es .refl) he, (ih e he).2 (hv.value he)⟩

/-- A value laid over a base a second time changes nothing. -/
theorem merge_merge {a b : Value} (hb : Distinct b) : merge b (merge b a) = merge b a := by
  induction b using induction generalizing a with
  | scalar b h =>
    have hnot : ¬b.IsMapping := by
      rintro ⟨es, rfl⟩
      exact h
    rw [merge_eq_left fun h => hnot h.1, merge_eq_left fun h => hnot h.1]
  | sequence items => rfl
  | tagged name b => rfl
  | mapping es ih =>
    by_cases hmapping : a.IsMapping
    · obtain ⟨bs, rfl⟩ := hmapping
      refine congrArg mapping (mergeEntries_eq_self fun e he => ?_)
      rw [valueOf?_mergeEntries (hb.key he) hb, valueOf?_of_mem (hb es .refl) he]
      cases valueOf? e.1 bs with
      | none => exact ⟨e.2, rfl, merge_self (hb.value he)⟩
      | some u => exact ⟨merge e.2 u, rfl, (ih e he).2 (hb.value he)⟩
    · rw [merge_of_not_isMapping hmapping]
      exact merge_self hb

/-! ## The laws together -/

/-- **The laws of merging**, for values that have no key twice. Along each path of keys: what the
overlay has there and is no mapping, the merged value has; what the base has there, the merged value
has, if the overlay has nothing there and only mappings on the way; and the merged value has nothing
but mappings that neither of them has there. A mapping that a path leads to has the keys of the base
in their order, and then the new ones of the overlay in theirs; no key comes twice. Merging a value
with itself, or a second time with the same overlay, changes nothing. -/
theorem merge_laws {a b : Value} (ha : Distinct a) (hb : Distinct b) :
    (∀ p, (∀ k ∈ p, Distinct k) →
      (∀ w, b.at? p = some w → ¬w.IsMapping → (merge b a).at? p = some w) ∧
      (∀ v, a.at? p = some v → b.at? p = none → Open p b → (merge b a).at? p = some v) ∧
      (∀ w, (merge b a).at? p = some w → ¬w.IsMapping → b.at? p = some w ∨ a.at? p = some w) ∧
      ∀ w, (merge b a).at? p = some w → w.IsMapping →
        w.keys = keysAt p a ++ (keysAt p b).filter fun k => !(keysAt p a).any (k.same ·)) ∧
    Distinct (merge b a) ∧ merge a a = a ∧ merge b (merge b a) = merge b a := by
  refine ⟨fun p hp => ?_, distinct_merge ha hb, merge_self ha, merge_merge hb⟩
  cases hover : b.at? p with
  | none =>
    obtain ⟨hopen, hclosed⟩ := at?_merge_of_none (a := a) hp hb hover
    -- nothing is there but what the base has
    have hbase : ∀ w, (merge b a).at? p = some w → a.at? p = some w := by
      intro w hw
      by_cases h : Open p b
      · rwa [← hopen h]
      · rw [hclosed h] at hw
        cases hw
    refine ⟨nofun, fun v hv _ h => (hopen h).trans hv, fun w hw _ => .inr (hbase w hw),
      fun w hw _ => ?_⟩
    simp [keysAt, hover, hbase w hw]
  | some u =>
    have hmerged := at?_merge_of_some (a := a) hp hb hover
    refine ⟨fun w hw hnot => ?_, fun v _ => nofun, fun w hw hnot => .inl ?_,
      fun w hw hmapping => ?_⟩
    · obtain rfl := Option.some.inj hw
      rw [hmerged]
      cases a.at? p with
      | none => rfl
      | some v => exact congrArg some (merge_eq_left fun h => hnot h.1)
    · obtain rfl := Option.some.inj (hmerged.symm.trans hw)
      cases hbase : a.at? p with
      | none => rfl
      | some v =>
        rw [hbase] at hnot
        refine congrArg some (merge_eq_left ?_).symm
        rintro ⟨⟨es, rfl⟩, bs, rfl⟩
        exact hnot ⟨_, rfl⟩
    · obtain rfl := Option.some.inj (hmerged.symm.trans hw)
      simp only [keysAt, hover]
      cases hbase : a.at? p with
      | none => simp
      | some v =>
        rw [hbase] at hmapping
        exact keys_merge (distinct_at? hb hover) hmapping

/-- A base and an overlay in which mappings, a tagged mapping and a list clash. -/
theorem merge_laws_server :
    let a := mapping [(string "server", mapping [(string "port", number (.natural 1)),
      (string "tls", .tagged "opt" (mapping [(string "on", number (.natural 2))]))]),
      (string "name", string "x")]
    let b := mapping [(string "zone", sequence []), (string "server", mapping [
      (string "host", string "h"), (string "tls", mapping [(string "off", number (.natural 3))])])]
    let m := merge b a
    ofText? "server:\n  port: 1\n  tls: !opt\n    on: 2\nname: x\n" = some a ∧
      ofText? "zone: []\nserver:\n  host: h\n  tls:\n    off: 3\n" = some b ∧
      m.at? [string "server", string "tls", string "off"] = some (number (.natural 3)) ∧
      m.at? [string "server", string "port"] = some (number (.natural 1)) ∧
      m.keys = [string "server", string "name", string "zone"] ∧ merge b m = m := by
  intro a b m
  have hbase : ofText? "server:\n  port: 1\n  tls: !opt\n    on: 2\nname: x\n" = some a := by
    decide +kernel
  have hoverlay : ofText? "zone: []\nserver:\n  host: h\n  tls:\n    off: 3\n" = some b := by
    decide +kernel
  have hnames : ∀ names : List String, ∀ k ∈ names.map string, Distinct k := by
    intro names k hk
    obtain ⟨name, -, rfl⟩ := List.mem_map.mp hk
    exact IsScalar.distinct trivial
  obtain ⟨hpaths, -, -, hagain⟩ :=
    merge_laws (distinct_of_ofText? hbase) (distinct_of_ofText? hoverlay)
  obtain ⟨hover, -⟩ := hpaths _ (hnames ["server", "tls", "off"])
  obtain ⟨-, hunder, -⟩ := hpaths _ (hnames ["server", "port"])
  obtain ⟨-, -, -, hkeys⟩ := hpaths _ (hnames [])
  refine ⟨hbase, hoverlay, hover _ rfl ?_, hunder _ rfl rfl ?_, hkeys m rfl ⟨_, rfl⟩, hagain⟩
  · rintro ⟨es, hes⟩
    cases hes
  · -- the overlay has a mapping for the server, and no port in it
    refine open_cons_mapping_iff.mpr fun v hv => ?_
    obtain rfl := Option.some.inj hv
    exact open_cons_mapping_iff.mpr fun w hw => nomatch hw

end RpcGuard.Yaml.Value
