import RpcGuard.Dictionary
import RpcGuard.Proofs.Yaml.Distinct
import RpcGuard.Yaml.Merge

/-!
# Mappings of names

Mappings whose keys are strings are dictionaries of values (`Value.ofNamed`), and merging them lays
one dictionary over another (`Value.mergeEntries_ofNamed`). What a key has then is what the overlay
or the base has for it, or both combined (`Dictionary.lookup_overlay`).
-/

namespace RpcGuard

/-! ## Dictionaries over one another -/

namespace Dictionary

variable {α β γ : Type} [DecidableEq α]

theorem lookup_cons_eq_ite (k k' : α) (v : β) (ps : List (α × β)) :
    ((k', v) :: ps).lookup k = if k = k' then some v else ps.lookup k := by
  by_cases h : k = k'
  · simp [h]
  · have hne : (k == k') = false := beq_eq_false_iff_ne.mpr h
    rw [List.lookup_cons, hne, if_neg h]

theorem lookup_eq_none_of_notMem {k : α} {ps : List (α × β)} (h : k ∉ ps.map Prod.fst) :
    ps.lookup k = none := by
  refine List.lookup_eq_none_iff.mpr fun p hp => bne_iff_ne.mpr ?_
  rintro rfl
  exact h (List.mem_map_of_mem hp)

/-- Where each key comes once, every value counts. -/
theorem lastOfEach_of_nodup {ps : List (α × β)} (h : (ps.map Prod.fst).Nodup) :
    lastOfEach ps = ps := by
  induction ps with
  | nil => rfl
  | cons p ps ih =>
    obtain ⟨k, v⟩ := p
    simp only [List.map_cons, List.nodup_cons] at h
    have hk : ¬(lastValue? k ps).isSome := fun hk => h.1 (isSome_lastValue?_iff.mp hk)
    simp [lastOfEach, hk, ih h.2]

/-- The pairs with the value of a key changed, or with a new pair behind. -/
def upsert (k : α) (v : β) (change : β → β) : List (α × β) → List (α × β)
  | [] => [(k, v)]
  | (k', w) :: ps => if k = k' then (k', change w) :: ps else (k', w) :: upsert k v change ps

theorem lookup_upsert (k k' : α) (v : β) (change : β → β) (ps : List (α × β)) :
    (upsert k v change ps).lookup k' =
      if k' = k then some ((ps.lookup k).elim v change) else ps.lookup k' := by
  induction ps with
  | nil => simp [upsert, lookup_cons_eq_ite]
  | cons p ps ih =>
    obtain ⟨j, w⟩ := p
    by_cases hj : k = j
    · subst hj
      by_cases hk : k' = k <;> simp [upsert, lookup_cons_eq_ite, hk]
    · by_cases hk : k' = k
      · subst hk
        simpa [upsert, lookup_cons_eq_ite, hj] using ih
      · simp [upsert, lookup_cons_eq_ite, hj, ih, hk]

theorem mem_keys_upsert {k k' : α} {v : β} {change : β → β} {ps : List (α × β)} :
    k' ∈ (upsert k v change ps).map Prod.fst ↔ k' = k ∨ k' ∈ ps.map Prod.fst := by
  induction ps with
  | nil => simp [upsert]
  | cons p ps ih =>
    obtain ⟨j, w⟩ := p
    by_cases hj : k = j
    · simp [upsert, hj]
    · simp only [upsert, hj, if_false, List.map_cons, List.mem_cons, ih]
      exact or_left_comm

theorem nodup_upsert {k : α} {v : β} {change : β → β} {ps : List (α × β)}
    (h : (ps.map Prod.fst).Nodup) : ((upsert k v change ps).map Prod.fst).Nodup := by
  induction ps with
  | nil => simp [upsert]
  | cons p ps ih =>
    obtain ⟨j, w⟩ := p
    simp only [List.map_cons, List.nodup_cons] at h
    by_cases hj : k = j
    · simpa [upsert, hj] using h
    · have hnew : j ∉ (upsert k v change ps).map Prod.fst := by
        rw [mem_keys_upsert]
        exact not_or.mpr ⟨Ne.symm hj, h.1⟩
      rw [upsert, if_neg hj, List.map_cons, List.nodup_cons]
      exact ⟨hnew, ih h.2⟩

theorem upsert_map (g : β → γ) (k : α) (v : β) {change : β → β} {change' : γ → γ}
    (hchange : ∀ w, change' (g w) = g (change w)) (ps : List (α × β)) :
    upsert k (g v) change' (ps.map (Prod.map id g)) =
      (upsert k v change ps).map (Prod.map id g) := by
  induction ps with
  | nil => rfl
  | cons p ps ih =>
    obtain ⟨j, w⟩ := p
    by_cases hj : k = j
    · simp [upsert, hj, hchange]
    · simp [upsert, hj, ih]

/-- A base with an overlay on it. The values of a key that both have are combined. -/
def overlay (combine : β → β → β) : (upper base : List (α × β)) → List (α × β)
  | [], bs => bs
  | (k, v) :: es, bs => overlay combine es (upsert k v (combine v) bs)

theorem lookup_overlay (combine : β → β → β) {es : List (α × β)} (h : (es.map Prod.fst).Nodup)
    (bs : List (α × β)) (k : α) :
    (overlay combine es bs).lookup k = Option.merge combine (es.lookup k) (bs.lookup k) := by
  induction es generalizing bs with
  | nil => simp [overlay]
  | cons e es ih =>
    obtain ⟨j, v⟩ := e
    simp only [List.map_cons, List.nodup_cons] at h
    rw [overlay, ih h.2, lookup_upsert, lookup_cons_eq_ite]
    by_cases hk : k = j
    · subst hk
      -- a key comes once in the overlay, so that nothing is laid over what is combined here
      rw [lookup_eq_none_of_notMem h.1]
      cases bs.lookup k <;> simp
    · simp [hk]

theorem nodup_overlay (combine : β → β → β) (es : List (α × β)) {bs : List (α × β)}
    (h : (bs.map Prod.fst).Nodup) : ((overlay combine es bs).map Prod.fst).Nodup := by
  induction es generalizing bs with
  | nil => exact h
  | cons e es ih => exact ih (nodup_upsert h)

/-- Values can be combined before or after a map that keeps their combinations. -/
theorem overlay_map (g : β → γ) {combine : β → β → β} {combine' : γ → γ → γ}
    (hcombine : ∀ v w, combine' (g v) (g w) = g (combine v w)) (es bs : List (α × β)) :
    overlay combine' (es.map (Prod.map id g)) (bs.map (Prod.map id g)) =
      (overlay combine es bs).map (Prod.map id g) := by
  induction es generalizing bs with
  | nil => rfl
  | cons e es ih =>
    obtain ⟨k, v⟩ := e
    rw [overlay, ← ih, ← upsert_map g k v (hcombine v) bs]
    rfl

end Dictionary

open Dictionary (overlay upsert)

namespace Yaml.Value

/-! ## Mappings of names to values -/

/-- The entries of a mapping with names for keys. -/
def ofNamed (ps : List (String × Value)) : List (Value × Value) :=
  ps.map fun p => (string p.1, p.2)

@[simp] theorem ofNamed_cons (k : String) (v : Value) (ps : List (String × Value)) :
    ofNamed ((k, v) :: ps) = (string k, v) :: ofNamed ps := rfl

theorem mem_ofNamed_of_lookup {ps : List (String × Value)} {k : String} {v : Value}
    (h : ps.lookup k = some v) : (string k, v) ∈ ofNamed ps := by
  induction ps with
  | nil => cases h
  | cons p ps ih =>
    obtain ⟨j, w⟩ := p
    rw [Dictionary.lookup_cons_eq_ite] at h
    by_cases hk : k = j
    · rw [if_pos hk] at h
      cases h
      simp [hk]
    · rw [if_neg hk] at h
      simp [ih h]

/-- Strings are different keys if they are different names. -/
theorem keysDistinct_ofNamed_iff {ps : List (String × Value)} :
    KeysDistinct (ofNamed ps) ↔ (ps.map Prod.fst).Nodup := by
  simp only [KeysDistinct, ofNamed, List.pairwise_map, List.Nodup, same, beq_eq_false_iff_ne,
    ne_comm]

theorem put_ofNamed (k : String) (v : Value) (merged : Value → Value) (ps : List (String × Value)) :
    put (string k) v merged (ofNamed ps) = ofNamed (upsert k v merged ps) := by
  induction ps with
  | nil => rfl
  | cons p ps ih =>
    obtain ⟨j, w⟩ := p
    by_cases hj : k = j
    · simp [put, same, upsert, hj]
    · simp [put, same, upsert, hj, ih]

theorem mergeEntries_ofNamed (es bs : List (String × Value)) :
    mergeEntries (ofNamed es) (ofNamed bs) = ofNamed (overlay merge es bs) := by
  induction es generalizing bs with
  | nil => rfl
  | cons e es ih =>
    obtain ⟨k, v⟩ := e
    rw [ofNamed_cons, mergeEntries, put_ofNamed, ih]
    rfl

/-- The entries of a mapping of names to names. -/
def ofNames (ps : List (String × String)) : List (Value × Value) :=
  ofNamed (ps.map (Prod.map id string))

theorem keysDistinct_ofNames_iff {ps : List (String × String)} :
    KeysDistinct (ofNames ps) ↔ (ps.map Prod.fst).Nodup := by
  rw [ofNames, keysDistinct_ofNamed_iff, List.map_map]
  exact Iff.rfl

/-- A name for a key takes the place of the one that the base has. -/
theorem mergeEntries_ofNames (es bs : List (String × String)) :
    mergeEntries (ofNames es) (ofNames bs) = ofNames (overlay (fun v _ => v) es bs) := by
  have hmerge : ∀ v w : String, merge (string v) (string w) = string v := fun _ _ => rfl
  rw [ofNames, ofNames, mergeEntries_ofNamed, Dictionary.overlay_map string hmerge, ofNames]

/-- What is laid over a value replaces it, unless both are mappings. -/
theorem merge_eq_left {v w : Value}
    (h : ¬((∃ es, v = mapping es) ∧ ∃ bs, w = mapping bs)) : merge v w = v := by
  unfold merge
  split
  · exact absurd ⟨⟨_, rfl⟩, _, rfl⟩ h
  · rfl

/-! ## Values without tags -/

/-- Nothing within the value has a tag. -/
def TagFree (v : Value) : Prop := ∀ name w, ¬Part (tagged name w) v

theorem IsScalar.tagFree {v : Value} (h : v.IsScalar) : TagFree v := by
  intro name w hpart
  cases hpart with
  | refl | item | key | value | tagged => exact h.elim

theorem tagFree_mapping_iff {es : List (Value × Value)} :
    TagFree (mapping es) ↔ ∀ e ∈ es, TagFree e.1 ∧ TagFree e.2 := by
  constructor
  · intro h e he
    exact ⟨fun name w hpart => h name w (.key he hpart),
      fun name w hpart => h name w (.value he hpart)⟩
  · intro h name w hpart
    cases hpart with
    | key he hpart => exact (h _ he).1 name w hpart
    | value he hpart => exact (h _ he).2 name w hpart

theorem tagFree_ofNamed_iff {ps : List (String × Value)} :
    TagFree (mapping (ofNamed ps)) ↔ ∀ p ∈ ps, TagFree p.2 := by
  rw [tagFree_mapping_iff, ofNamed, List.forall_mem_map]
  exact forall₂_congr fun p _ => and_iff_right (IsScalar.tagFree trivial)

theorem tagFree_ofNames (ps : List (String × String)) : TagFree (mapping (ofNames ps)) := by
  rw [ofNames, tagFree_ofNamed_iff, List.forall_mem_map]
  exact fun p _ => IsScalar.tagFree trivial

theorem TagFree.untagged {v : Value} (h : TagFree v) : v.untagged = v := by
  cases v with
  | tagged name w => exact absurd .refl (h name w)
  | null | bool | number | string | sequence | mapping => rfl

end Yaml.Value

end RpcGuard
