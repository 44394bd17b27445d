import RpcGuard.Claims
import RpcGuard.Proofs.Json.Reading
import RpcGuard.Proofs.Outcome

/-!
# Reading claims

A payload is read member by member, up to the first fault. Without a fault it is an object, and its
claims come from its members, one after another (`Claims.read_eq_ok_iff`).

What the seven typed claims have in common is said once: a part of the claims belongs to one name if
only that name sets it (`Claims.IsField`). It then has the value of the last member of that name,
and is absent without one (`Claims.read_field`).
-/

namespace RpcGuard

/-- A text is an object if it is written as one, and its members are what is written. -/
theorem Json.parse?_eq_object_iff {payload : Bytes} {members : List (String × Json)} :
    parse? payload = some (.object members) ↔
      ∃ ms, Syntax.parse? payload = some (.object ms) ∧
        ofMembers? Claims.valueDepth ms = some members := by
  unfold parse?
  rw [Option.bind_eq_bind, Option.bind_eq_some_iff]
  constructor
  · rintro ⟨x, hx, h⟩
    cases x with
    | object ms =>
      obtain ⟨members', hmembers, heq⟩ := Option.map_eq_some_iff.mp h
      obtain rfl := Json.object.inj heq
      exact ⟨ms, hx, hmembers⟩
    | array xs =>
      obtain ⟨items, -, heq⟩ := Option.map_eq_some_iff.mp h
      cases heq
    | string s =>
      obtain ⟨s', -, heq⟩ := Option.map_eq_some_iff.mp h
      cases heq
    | number x =>
      obtain ⟨n, -, heq⟩ := Option.map_eq_some_iff.mp h
      cases heq
    | bool b => cases h
    | null => cases h
  · rintro ⟨ms, hms, hmembers⟩
    exact ⟨.object ms, hms, Option.map_eq_some_iff.mpr ⟨members, hmembers, rfl⟩⟩

namespace Claims

/-! ## Names -/

/-- The name as it is written. -/
def Name.text : Name → String
  | issuer => "iss"
  | subject => "sub"
  | expiry => "exp"
  | notBefore => "nbf"
  | issuedAt => "iat"
  | resourceAccess => "resource_access"
  | roles => "roles"

theorem Name.ofString?_text (name : Name) : ofString? name.text = some name := by
  cases name with
  | issuer => rfl
  | subject => rfl
  | expiry => rfl
  | notBefore => rfl
  | issuedAt => rfl
  | resourceAccess => rfl
  | roles => rfl

theorem Name.ofString?_eq_some_iff {s : String} {name : Name} :
    ofString? s = some name ↔ s = name.text := by
  constructor
  · intro h
    unfold ofString? at h
    grind [text]
  · rintro rfl
    exact name.ofString?_text

/-- A text is a name or none. -/
theorem Name.ofString?_eq_none_iff {s : String} :
    ofString? s = none ↔ ∀ name : Name, s ≠ name.text := by
  constructor
  · rintro h name rfl
    cases h.symm.trans name.ofString?_text
  · intro h
    cases hname : ofString? s with
    | none => rfl
    | some name => exact absurd (ofString?_eq_some_iff.mp hname) (h name)

theorem Name.text_inj {name name' : Name} (h : name.text = name'.text) : name = name' :=
  Option.some.inj (name.ofString?_text.symm.trans (ofString?_eq_some_iff.mpr h))

/-! ## Members -/

/-- The ways in which a member is taken in. -/
inductive Draft.Takes (d : Draft) : String × Json → Draft → Prop where
  /-- A typed claim, which there was none of. -/
  | typed {name : Name} {value : Json} {c : Claims} :
      name ∉ d.seen → d.claims.set name value = .ok c →
      Takes d (name.text, value) ⟨c, name :: d.seen⟩
  | untyped {key : String} {value : Json} :
      (∀ name : Name, key ≠ name.text) →
      Takes d (key, value) { d with claims.extra := d.claims.extra ++ [(key, value.collapse)] }

/-- Members are taken in one after another. -/
inductive Draft.TakesAll : Draft → List (String × Json) → Draft → Prop where
  | nil {d : Draft} : TakesAll d [] d
  | cons {d d' d'' : Draft} {m : String × Json} {ms : List (String × Json)} :
      d.Takes m d' → TakesAll d' ms d'' → TakesAll d (m :: ms) d''

theorem Draft.add_eq_ok_iff {d d' : Draft} {key : Bytes} {value : Json.Syntax} :
    d.add key value = .ok d' ↔ ∃ k v, Json.text? key = some k ∧
      Json.ofSyntax? valueDepth value = some v ∧ d.Takes (k, v) d' := by
  unfold add
  cases htext : Json.text? key with
  | none =>
    constructor
    · intro h
      cases h
    · rintro ⟨k, v, hk, -⟩
      cases hk
  | some k =>
    cases hvalue : Json.ofSyntax? valueDepth value with
    | none =>
      constructor
      · intro h
        cases h
      · rintro ⟨k', v, -, hv, -⟩
        cases hv
    | some v =>
      dsimp only
      cases hname : Name.ofString? k with
      | some name =>
        obtain rfl := Name.ofString?_eq_some_iff.mp hname
        dsimp only
        constructor
        · intro h
          split at h
          · cases h
          · next hseen =>
            obtain ⟨c, hc, hd⟩ := Outcome.bind_eq_ok_iff.mp h
            obtain rfl := Except.ok.inj hd
            exact ⟨_, v, rfl, rfl, .typed hseen hc⟩
        · rintro ⟨k, v', hk, hv, htakes⟩
          obtain rfl := Option.some.inj hk
          obtain rfl := Option.some.inj hv
          generalize hk' : name.text = k at htakes
          cases htakes with
          | @typed name' _ c hseen hset =>
            obtain rfl := Name.text_inj hk'
            rw [if_neg hseen]
            exact Outcome.bind_eq_ok_iff.mpr ⟨c, hset, rfl⟩
          | untyped hnone => exact absurd hk'.symm (hnone name)
      | none =>
        have hnone := Name.ofString?_eq_none_iff.mp hname
        dsimp only
        constructor
        · intro h
          obtain rfl := Except.ok.inj h
          exact ⟨k, v, rfl, rfl, .untyped hnone⟩
        · rintro ⟨k', v', hk, hv, htakes⟩
          obtain rfl := Option.some.inj hk
          obtain rfl := Option.some.inj hv
          cases htakes with
          | @typed name' _ c hseen hset => exact absurd rfl (hnone name')
          | untyped _ => rfl

theorem Draft.addAll_eq_ok_iff {d d' : Draft} {ms : List (Bytes × Json.Syntax)} :
    d.addAll ms = .ok d' ↔
      ∃ members, Json.ofMembers? valueDepth ms = some members ∧ d.TakesAll members d' := by
  induction ms generalizing d with
  | nil =>
    constructor
    · intro h
      obtain rfl := Except.ok.inj h
      exact ⟨[], rfl, .nil⟩
    · rintro ⟨members, hmembers, htakes⟩
      obtain rfl := Option.some.inj hmembers
      cases htakes with
      | nil => rfl
  | cons m ms ih =>
    obtain ⟨key, value⟩ := m
    rw [addAll, Outcome.bind_eq_ok_iff, Json.ofMembers?]
    constructor
    · rintro ⟨d₁, hadd, hrest⟩
      obtain ⟨k, v, hk, hv, htakes⟩ := add_eq_ok_iff.mp hadd
      obtain ⟨members, hmembers, htakesAll⟩ := ih.mp hrest
      refine ⟨(k, v) :: members, ?_, .cons htakes htakesAll⟩
      rw [hk, hv, hmembers]
      rfl
    · rintro ⟨members, hmembers, htakesAll⟩
      simp only [Option.bind_eq_bind, Option.bind_eq_some_iff] at hmembers
      obtain ⟨k, hk, v, hv, members', hmembers', heq⟩ := hmembers
      obtain rfl := Option.some.inj heq
      cases htakesAll with
      | @cons _ d₁ _ _ _ htakes hrest =>
        exact ⟨d₁, add_eq_ok_iff.mpr ⟨k, v, hk, hv, htakes⟩,
          ih.mpr ⟨members', hmembers', hrest⟩⟩

/-- A payload has claims exactly if it is an object whose members are taken in. -/
theorem read_eq_ok_iff {payload : Bytes} {c : Claims} :
    read payload = .ok c ↔ ∃ members d, Json.parse? payload = some (.object members) ∧
      Draft.TakesAll {} members d ∧
      c = { d.claims with extra := Dictionary.lastOfEach d.claims.extra } := by
  unfold read
  dsimp only
  rw [Outcome.bind_eq_ok_iff]
  constructor
  · rintro ⟨d, hdraft, hc⟩
    split at hc
    · next hcomplete =>
      obtain ⟨members, hmembers, htakes⟩ := Draft.addAll_eq_ok_iff.mp hdraft
      have hopening : Json.Opening.read payload = ⟨(Json.Opening.read payload).members, true⟩ := by
        rw [← hcomplete]
      have hobject := Json.Opening.read_eq_complete_iff.mp hopening
      exact ⟨members, d, Json.parse?_eq_object_iff.mpr ⟨_, hobject, hmembers⟩, htakes,
        (Except.ok.inj hc).symm⟩
    · cases hc
  · rintro ⟨members, d, hparse, htakes, rfl⟩
    obtain ⟨ms, hms, hmembers⟩ := Json.parse?_eq_object_iff.mp hparse
    rw [Json.Opening.read_eq_complete_iff.mpr hms]
    exact ⟨d, Draft.addAll_eq_ok_iff.mpr ⟨members, hmembers, htakes⟩, rfl⟩

/-! ## Typed claims -/

/-- What a member of each name sets. -/
theorem of_set {c c' : Claims} {name : Name} {v : Json} (h : c.set name v = .ok c') :
    match name with
    | .issuer => ∃ x, textOf v = .ok x ∧ c' = { c with issuer := x }
    | .subject => ∃ x, textOf v = .ok x ∧ c' = { c with subject := x }
    | .expiry => ∃ x, dateOf v = .ok x ∧ c' = { c with expiry := x }
    | .notBefore => ∃ x, dateOf v = .ok x ∧ c' = { c with notBefore := x }
    | .issuedAt => ∃ x, dateOf v = .ok x ∧ c' = { c with issuedAt := x }
    | .resourceAccess => c' = { c with resourceAccess := accessOf v }
    | .roles => c' = { c with roles := flatRolesOf v } := by
  -- the texts and the dates are read by a reader that may fail, and the result is set
  have hreader : ∀ {α : Type} {x : Except Fault α} {g : α → Claims},
      (do return g (← x)) = Except.ok c' → ∃ a, x = .ok a ∧ c' = g a := by
    intro α x g hx
    obtain ⟨a, ha, hc⟩ := Outcome.bind_eq_ok_iff.mp hx
    exact ⟨a, ha, (Except.ok.inj hc).symm⟩
  cases name with
  | issuer => exact hreader h
  | subject => exact hreader h
  | expiry => exact hreader h
  | notBefore => exact hreader h
  | issuedAt => exact hreader h
  | resourceAccess => exact (Except.ok.inj h).symm
  | roles => exact (Except.ok.inj h).symm

/-- A part of the claims that belongs to one name, and the value that a member gives it. -/
structure IsField {α : Type} (name : Name) (part : Claims → α) (value : Json → Except Fault α) :
    Prop where
  own {c c' : Claims} {v : Json} (h : c.set name v = .ok c') : value v = .ok (part c')
  other {c c' : Claims} {v : Json} {name' : Name} (hname : name' ≠ name)
    (h : c.set name' v = .ok c') : part c' = part c
  extra (c : Claims) (entries : List (String × Json)) : part { c with extra := entries } = part c

section Fields

variable {α : Type} {name : Name} {part : Claims → α} {value : Json → Except Fault α}

theorem IsField.of_takesAll (hpart : IsField name part value) {d d' : Draft}
    {members : List (String × Json)} (h : d.TakesAll members d') :
    (∀ v, Dictionary.lastValue? name.text members = some v → value v = .ok (part d'.claims)) ∧
      (Dictionary.lastValue? name.text members = none → part d'.claims = part d.claims) := by
  induction h with
  | nil =>
    refine ⟨fun v hv => ?_, fun _ => rfl⟩
    cases hv
  | @cons d d₁ d' m ms htakes _ ih =>
    obtain ⟨hsome, hnone⟩ := ih
    obtain ⟨key, v⟩ := m
    rw [Dictionary.lastValue?]
    cases hrest : Dictionary.lastValue? name.text ms with
    | some w =>
      refine ⟨fun v' hv' => hsome v' (hrest.trans hv'), fun h => ?_⟩
      cases h
    | none =>
      have hlater := hnone hrest
      dsimp only
      cases htakes with
      | @typed name' _ c hseen hset =>
        by_cases hname : name' = name
        · subst hname
          rw [if_pos rfl, hlater]
          refine ⟨fun v' hv' => ?_, fun h => ?_⟩
          · obtain rfl := Option.some.inj hv'
            exact hpart.own hset
          · cases h
        · rw [if_neg fun htext => hname (Name.text_inj htext), hlater]
          refine ⟨fun v' hv' => ?_, fun _ => hpart.other hname hset⟩
          cases hv'
      | untyped hkey =>
        rw [if_neg (hkey name), hlater]
        refine ⟨fun v' hv' => ?_, fun _ => hpart.extra _ _⟩
        cases hv'

/-- A typed claim has the value of the last member of its name, and is absent without one. -/
theorem read_field (hpart : IsField name part value) {payload : Bytes} {c : Claims}
    (hread : read payload = .ok c) {members : List (String × Json)}
    (hparse : Json.parse? payload = some (.object members)) :
    (∀ v, Dictionary.lastValue? name.text members = some v → value v = .ok (part c)) ∧
      (Dictionary.lastValue? name.text members = none → part c = part {}) := by
  obtain ⟨members', d, hparse', htakes, rfl⟩ := read_eq_ok_iff.mp hread
  obtain rfl := Json.object.inj (Option.some.inj (hparse.symm.trans hparse'))
  rw [hpart.extra]
  exact hpart.of_takesAll htakes

end Fields

/-- A member leaves the roles of other names alone. -/
theorem roles_of_set {c c' : Claims} {name : Name} {v : Json} (h : c.set name v = .ok c') :
    (name ≠ .resourceAccess → c'.resourceAccess = c.resourceAccess) ∧
      (name ≠ .roles → c'.roles = c.roles) := by
  have hset := of_set h
  cases name with
  | resourceAccess =>
    dsimp only at hset
    rw [hset]
    exact ⟨fun hname => absurd rfl hname, fun _ => rfl⟩
  | roles =>
    dsimp only at hset
    rw [hset]
    exact ⟨fun _ => rfl, fun hname => absurd rfl hname⟩
  | issuer =>
    obtain ⟨x, -, rfl⟩ := hset
    exact ⟨fun _ => rfl, fun _ => rfl⟩
  | subject =>
    obtain ⟨x, -, rfl⟩ := hset
    exact ⟨fun _ => rfl, fun _ => rfl⟩
  | expiry =>
    obtain ⟨x, -, rfl⟩ := hset
    exact ⟨fun _ => rfl, fun _ => rfl⟩
  | notBefore =>
    obtain ⟨x, -, rfl⟩ := hset
    exact ⟨fun _ => rfl, fun _ => rfl⟩
  | issuedAt =>
    obtain ⟨x, -, rfl⟩ := hset
    exact ⟨fun _ => rfl, fun _ => rfl⟩

theorem isField_resourceAccess :
    IsField .resourceAccess resourceAccess fun v => .ok (accessOf v) where
  own h := by
    have hset := of_set h
    dsimp only at hset
    rw [hset]
  other hname h := (roles_of_set h).1 hname
  extra _ _ := rfl

theorem isField_roles : IsField .roles roles fun v => .ok (flatRolesOf v) where
  own h := by
    have hset := of_set h
    dsimp only at hset
    rw [hset]
  other hname h := (roles_of_set h).2 hname
  extra _ _ := rfl

end Claims

end RpcGuard
