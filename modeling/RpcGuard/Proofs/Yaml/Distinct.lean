import RpcGuard.Yaml.Value

/-!
# Distinct keys

A mapping that is read from a text has no key twice: a key that is there already is an error. That
holds at any depth of the value (`Value.distinct_of_ofText?`), by induction on how deep collections
may lie inside one another.

The reader counts the aliases that it follows. What it returns does not depend on the count, so the
lemmas speak of the values that it can return from some count (`Value.Reader.Yields`).
-/

namespace RpcGuard.Yaml.Value

/-! ## Values within values -/

/-- The value lies within another one, perhaps as the whole of it. -/
inductive Part (u : Value) : Value → Prop where
  | refl : Part u u
  | item {v : Value} {items : List Value} : v ∈ items → Part u v → Part u (sequence items)
  | key {k v : Value} {es : List (Value × Value)} : (k, v) ∈ es → Part u k → Part u (mapping es)
  | value {k v : Value} {es : List (Value × Value)} : (k, v) ∈ es → Part u v → Part u (mapping es)
  | tagged {name : String} {v : Value} : Part u v → Part u (tagged name v)

/-- No key comes again. -/
def KeysDistinct (es : List (Value × Value)) : Prop := es.Pairwise fun a b => b.1.same a.1 = false

/-- No mapping within the value has a key twice. -/
def Distinct (v : Value) : Prop := ∀ es, Part (mapping es) v → KeysDistinct es

theorem distinct_sequence {items : List Value} (h : ∀ v ∈ items, Distinct v) :
    Distinct (sequence items) := by
  intro es hpart
  cases hpart with
  | item hmem hpart => exact h _ hmem es hpart

theorem distinct_mapping {es : List (Value × Value)} (hkeys : KeysDistinct es)
    (h : ∀ e ∈ es, Distinct e.1 ∧ Distinct e.2) : Distinct (mapping es) := by
  intro es' hpart
  cases hpart with
  | refl => exact hkeys
  | key hmem hpart => exact (h _ hmem).1 es' hpart
  | value hmem hpart => exact (h _ hmem).2 es' hpart

theorem distinct_tagged {name : String} {v : Value} (h : Distinct v) :
    Distinct (Value.tagged name v) := by
  intro es hpart
  cases hpart with
  | tagged hpart => exact h es hpart

/-! ## Scalars -/

/-- The value holds no other value. -/
def IsScalar : Value → Prop
  | null | bool _ | number _ | string _ => True
  | sequence _ | mapping _ | tagged _ _ => False

theorem IsScalar.distinct {v : Value} (h : v.IsScalar) : Distinct v := by
  intro es hpart
  cases hpart with
  | refl | item | key | value | tagged => exact h.elim

theorem isScalar_of_ofInteger? {i : Integer} {v : Value} (h : ofInteger? i = some v) :
    v.IsScalar := by
  cases i with
  | number n =>
    cases h
    trivial
  | large => cases h

theorem isScalar_of_ofPlain? {s : String} {v : Value} (h : ofPlain? s = some v) :
    v.IsScalar := by
  unfold ofPlain? at h
  dsimp only at h
  split at h
  · cases h
    trivial
  · split at h
    · cases h
      trivial
    · exact isScalar_of_ofInteger? h
    · split at h
      · cases h
        trivial
      · cases hfloat : float? s.toList with
        | none =>
          rw [hfloat] at h
          cases h
          trivial
        | some x =>
          rw [hfloat] at h
          cases h
          trivial

theorem isScalar_of_ofScalar? {tag : Option Bytes} {style : Style} {s : String} {v : Value}
    (h : ofScalar? tag style s = some v) : v.IsScalar := by
  have huntagged : (if style = .plain then ofPlain? s else some (string s)) = some v →
      v.IsScalar := by
    intro h
    split at h
    · exact isScalar_of_ofPlain? h
    · cases h
      trivial
  unfold ofScalar? at h
  dsimp only at h
  split at h
  · exact huntagged h
  · split at h
    · exact huntagged h
    · split at h
      · obtain ⟨b, -, rfl⟩ := Option.map_eq_some_iff.mp h
        trivial
      · split at h
        · obtain ⟨i, -, hi⟩ := Option.bind_eq_some_iff.mp h
          exact isScalar_of_ofInteger? hi
        · split at h
          · obtain ⟨x, -, rfl⟩ := Option.map_eq_some_iff.mp h
            trivial
          · split at h
            · split at h
              · cases h
                trivial
              · cases h
            · cases h
              trivial

/-! ## Reading -/

namespace Reader

variable {α β : Type}

/-- The reader can return the value. -/
def Yields (r : Reader α) (a : α) : Prop := ∃ n n', r.run n = some (a, n')

theorem Yields.of_bind {r : Reader α} {f : α → Reader β} {b : β} (h : (r >>= f).Yields b) :
    ∃ a, r.Yields a ∧ (f a).Yields b := by
  obtain ⟨n, n', h⟩ := h
  rw [StateT.run_bind] at h
  obtain ⟨⟨a, n₁⟩, ha, hb⟩ := Option.bind_eq_some_iff.mp h
  exact ⟨a, ⟨n, n₁, ha⟩, n₁, n', hb⟩

theorem Yields.of_pure {a b : α} (h : (pure a : Reader α).Yields b) : a = b := by
  obtain ⟨n, n', h⟩ := h
  rw [StateT.run_pure] at h
  exact congrArg Prod.fst (Option.some.inj h)

theorem not_yields_failure {a : α} : ¬(failure : Reader α).Yields a := by
  rintro ⟨n, n', h⟩
  cases h

theorem Yields.of_option {o : Option α} {a : α} (h : (liftM o : Reader α).Yields a) :
    o = some a := by
  obtain ⟨n, n', h⟩ := h
  cases o with
  | none => cases h
  | some b =>
    cases h
    rfl

end Reader

open Reader

theorem distinct_of_tagging {tag : Option Bytes} {r : Reader Value} {v : Value}
    (h : (tagging tag r).Yields v) (hr : ∀ w, r.Yields w → Distinct w) : Distinct v := by
  obtain ⟨w, hw, h⟩ := h.of_bind
  have hdistinct := hr w hw
  split at h
  · rw [← h.of_pure]
    exact hdistinct
  · next name _ =>
    have hwith := h.of_option
    unfold withTag? at hwith
    split at hwith
    · cases hwith
    · cases hwith
      exact distinct_tagged hdistinct
    · cases hwith
      exact distinct_tagged hdistinct

theorem yields_of_readItems {read : Node → Reader Value} {xs : List Node} {vs : List Value}
    (h : (readItems read xs).Yields vs) : ∀ v ∈ vs, ∃ x, (read x).Yields v := by
  induction xs generalizing vs with
  | nil =>
    rw [← h.of_pure]
    intro v hv
    cases hv
  | cons x xs ih =>
    obtain ⟨v, hv, h⟩ := h.of_bind
    obtain ⟨ws, hws, h⟩ := h.of_bind
    rw [← h.of_pure]
    exact List.forall_mem_cons.mpr ⟨⟨x, hv⟩, ih hws⟩

/-- Entries are added behind others only with keys that these do not have. -/
theorem keysDistinct_of_readEntries {read : Node → Reader Value} {es : List (Node × Node)}
    {done out : List (Value × Value)} (h : (readEntries read done es).Yields out)
    (hdone : KeysDistinct done)
    (hread : ∀ e ∈ done, (∃ x, (read x).Yields e.1) ∧ ∃ x, (read x).Yields e.2) :
    KeysDistinct out ∧ ∀ e ∈ out, (∃ x, (read x).Yields e.1) ∧ ∃ x, (read x).Yields e.2 := by
  induction es generalizing done with
  | nil =>
    rw [← h.of_pure]
    exact ⟨hdone, hread⟩
  | cons e es ih =>
    obtain ⟨k, x⟩ := e
    obtain ⟨key, hkey, h⟩ := h.of_bind
    split at h
    · exact absurd h not_yields_failure
    · next hnew =>
      obtain ⟨v, hv, h⟩ := h.of_bind
      refine ih h ?_ ?_
      · refine List.pairwise_append.mpr ⟨hdone, List.pairwise_singleton _ _, ?_⟩
        intro a ha b hb
        obtain rfl := List.mem_singleton.mp hb
        exact Bool.eq_false_iff.mpr fun hsame => hnew (List.any_eq_true.mpr ⟨a, ha, hsame⟩)
      · intro e he
        rcases List.mem_append.mp he with he | he
        · exact hread e he
        · obtain rfl := List.mem_singleton.mp he
          exact ⟨⟨k, hkey⟩, x, hv⟩

theorem distinct_of_ofNode {d : Document} {depth : Nat} {node : Node} {v : Value}
    (h : (ofNode d depth node).Yields v) : Distinct v := by
  induction depth generalizing node v with
  | zero =>
    unfold ofNode at h
    obtain ⟨target, -, h⟩ := h.of_bind
    split at h
    · exact distinct_of_tagging h fun w hw => (isScalar_of_ofScalar? hw.of_option).distinct
    · exact absurd h not_yields_failure
    · exact absurd h not_yields_failure
    · exact absurd h not_yields_failure
  | succ depth ih =>
    unfold ofNode at h
    obtain ⟨target, -, h⟩ := h.of_bind
    split at h
    · exact distinct_of_tagging h fun w hw => (isScalar_of_ofScalar? hw.of_option).distinct
    · refine distinct_of_tagging h fun w hw => ?_
      obtain ⟨vs, hvs, hw⟩ := hw.of_bind
      rw [← hw.of_pure]
      refine distinct_sequence fun v hv => ?_
      obtain ⟨x, hx⟩ := yields_of_readItems hvs v hv
      exact ih hx
    · refine distinct_of_tagging h fun w hw => ?_
      obtain ⟨es, hes, hw⟩ := hw.of_bind
      rw [← hw.of_pure]
      obtain ⟨hkeys, hread⟩ := keysDistinct_of_readEntries hes .nil (fun e he => nomatch he)
      refine distinct_mapping hkeys fun e he => ?_
      obtain ⟨⟨k, hk⟩, x, hx⟩ := hread e he
      exact ⟨ih hk, ih hx⟩
    · exact absurd h not_yields_failure

/-- **Distinct keys**: no mapping within a value that a text writes has a key twice. -/
theorem distinct_of_ofText? {s : String} {v : Value} (h : ofText? s = some v) : Distinct v := by
  obtain ⟨d, -, h⟩ := Option.bind_eq_some_iff.mp h
  unfold ofDocument? at h
  split at h
  · cases h
    exact IsScalar.distinct trivial
  · next root _ =>
    obtain ⟨⟨w, n⟩, hw, rfl⟩ := Option.map_eq_some_iff.mp h
    exact distinct_of_ofNode ⟨0, n, hw⟩

end RpcGuard.Yaml.Value
