import RpcGuard.Proofs.Claims.Entries

/-!
# The roles of a caller

Which roles count for a service, said of the payload itself. `Json.Lists` says which roles a value
lists, `ResourceNames.Applies` which resource applies to a service, and `Claims.HasEntry` what the
payload says about a resource. A caller has the roles that the entry for the resource lists, and
those of the claim `roles` only if there is no such entry: an entry without roles is not the same as
none (`Claims.callerRoles_are_listed`).

Roles are read in two stages, first into claims and then for a service. The stages are joined by
`Claims.resourceRoles_eq_map_grant` and `Claims.lists_flatRoles`, one for each source of roles.
-/

namespace RpcGuard

/-! ## Lists of roles -/

/-- The strings among the items, in their order. -/
inductive Json.Strings : List Json → List String → Prop where
  | nil : Strings [] []
  | string {role : String} {items : List Json} {roles : List String} :
      Strings items roles → Strings (.string role :: items) (role :: roles)
  | other {item : Json} {items : List Json} {roles : List String} :
      (∀ role, item ≠ .string role) → Strings items roles → Strings (item :: items) roles

/-- The roles that a value lists, if there is a value. -/
inductive Json.Lists : Option Json → List String → Prop where
  | absent : Lists none []
  | string {role : String} : Lists (some (.string role)) [role]
  | array {items : List Json} {roles : List String} :
      Strings items roles → Lists (some (.array items)) roles
  | other {value : Json} : (∀ role, value ≠ .string role) → (∀ items, value ≠ .array items) →
      Lists (some value) []

theorem Json.strings_rolesOf (items : List Json) :
    Strings items (Claims.rolesOf (.array items)) := by
  induction items with
  | nil => exact .nil
  | cons item items ih =>
    unfold Claims.rolesOf at ih ⊢
    cases item with
    | string role => exact .string ih
    | null => exact .other (fun role h => nomatch h) ih
    | bool b => exact .other (fun role h => nomatch h) ih
    | number n => exact .other (fun role h => nomatch h) ih
    | array xs => exact .other (fun role h => nomatch h) ih
    | object ms => exact .other (fun role h => nomatch h) ih

theorem Json.lists_rolesOf (value : Option Json) :
    Lists value ((value.map Claims.rolesOf).getD []) := by
  cases value with
  | none => exact .absent
  | some value =>
    cases value with
    | string role => exact .string
    | array items => exact .array (strings_rolesOf items)
    | null => exact .other (fun role h => nomatch h) fun items h => nomatch h
    | bool b => exact .other (fun role h => nomatch h) fun items h => nomatch h
    | number n => exact .other (fun role h => nomatch h) fun items h => nomatch h
    | object ms => exact .other (fun role h => nomatch h) fun items h => nomatch h

theorem Json.Strings.unique {items : List Json} {roles roles' : List String}
    (h : Strings items roles) (h' : Strings items roles') : roles = roles' := by
  induction h generalizing roles' with
  | nil =>
    cases h' with
    | nil => rfl
  | @string role items roles _ ih =>
    cases h' with
    | string hrest => exact congrArg (role :: ·) (ih hrest)
    | other hother _ => exact absurd rfl (hother role)
  | other hother _ ih =>
    cases h' with
    | string _ => exact absurd rfl (hother _)
    | other _ hrest => exact ih hrest

/-- A value lists its roles and no others. -/
theorem Json.Lists.unique {value : Option Json} {roles roles' : List String}
    (h : Lists value roles) (h' : Lists value roles') : roles = roles' := by
  cases h with
  | absent =>
    cases h' with
    | absent => rfl
  | string =>
    cases h' with
    | string => rfl
    | other hstring _ => exact absurd rfl (hstring _)
  | array hitems =>
    cases h' with
    | array hitems' => exact hitems.unique hitems'
    | other _ harray => exact absurd rfl (harray _)
  | other hstring harray =>
    cases h' with
    | string => exact absurd rfl (hstring _)
    | array _ => exact absurd rfl (harray _)
    | other _ _ => rfl

/-! ## Resources -/

/-- The resource that applies to a service, if there is one: its own if it has one with a name, and
otherwise the default. -/
inductive ResourceNames.Applies (names : ResourceNames) (service : String) :
    Option String → Prop where
  | own {name : String} : names.perService.lookup service = some name → name ≠ "" →
      Applies names service (some name)
  | default : (∀ name, names.perService.lookup service = some name → name = "") →
      Applies names service names.default

theorem ResourceNames.applies_iff {names : ResourceNames} {service : String}
    {resource : Option String} :
    names.Applies service resource ↔ names.resourceFor service = resource := by
  unfold resourceFor
  cases hown : names.perService.lookup service with
  | none =>
    constructor
    · intro h
      cases h with
      | own hname _ => cases hown.symm.trans hname
      | default _ => rfl
    · rintro rfl
      exact .default fun name hname => nomatch hown.symm.trans hname
  | some name =>
    -- an empty name is passed over as if there were none
    by_cases hempty : name = ""
    · subst hempty
      constructor
      · intro h
        cases h with
        | own hname hne => exact absurd (Option.some.inj (hown.symm.trans hname)).symm hne
        | default _ => rfl
      · rintro rfl
        exact .default fun name hname => (Option.some.inj (hown.symm.trans hname)).symm
    · have hfilter : ((some name).filter fun name => !name.isEmpty) = some name := by
        simp [hempty]
      rw [hfilter]
      constructor
      · intro h
        cases h with
        | own hname _ => exact hown.symm.trans hname
        | default hnone => exact absurd (hnone name hown) hempty
      · rintro rfl
        exact .own hown hempty

namespace Claims

/-- The object has an entry for the resource. -/
def HasEntry (members : List (String × Json)) (resource : String) (entry : Json) : Prop :=
  ∃ entries, Dictionary.lastValue? "resource_access" members = some (.object entries) ∧
    Dictionary.lastValue? resource entries = some entry

section Payloads

variable {payload : Bytes} {members : List (String × Json)} {c : Claims} {resource : String}

theorem grant?_eq_some_iff (hparse : Json.parse? payload = some (.object members)) {entry : Json} :
    grant? payload resource = some entry ↔ HasEntry members resource entry := by
  unfold grant? HasEntry
  rw [hparse]
  simp only [Option.bind_eq_bind, Option.bind_some, Option.bind_eq_some_iff]
  constructor
  · rintro ⟨access, haccess, hentry⟩
    obtain ⟨entries, rfl, hlast⟩ := Json.exists_of_member? hentry
    exact ⟨entries, haccess, hlast⟩
  · rintro ⟨entries, haccess, hlast⟩
    exact ⟨.object entries, haccess, hlast⟩

/-- The roles for a resource are those of what the payload says about it. -/
theorem resourceRoles_eq_map_grant (hread : read payload = .ok c)
    (hparse : Json.parse? payload = some (.object members)) :
    c.resourceRoles resource = (grant? payload resource).map entryRoles := by
  cases hentry : grant? payload resource with
  | some entry => exact resourceRoles_of_entry hread hentry
  | none =>
    have hnone : ∀ entry, ¬HasEntry members resource entry := by
      intro entry h
      cases hentry.symm.trans ((grant?_eq_some_iff hparse).mpr h)
    obtain ⟨hsome, habsent⟩ := read_field isField_resourceAccess hread hparse
    -- there are no entries at all, or none of them is for the resource
    unfold resourceRoles
    cases haccess : Dictionary.lastValue? Name.resourceAccess.text members with
    | none =>
      rw [habsent haccess]
      rfl
    | some access =>
      rw [← Except.ok.inj (hsome access haccess)]
      cases access with
      | object entries =>
        unfold accessOf
        dsimp only
        rw [Dictionary.lookup_map_snd, Dictionary.lookup_lastOfEach]
        cases hlast : Dictionary.lastValue? resource entries with
        | none => rfl
        | some entry => exact absurd ⟨entries, haccess, hlast⟩ (hnone entry)
      | null => rfl
      | bool b => rfl
      | number n => rfl
      | string s => rfl
      | array items => rfl

/-- The roles that belong to no resource are those of the claim `roles`. -/
theorem lists_flatRoles (hread : read payload = .ok c)
    (hparse : Json.parse? payload = some (.object members)) :
    Json.Lists (Dictionary.lastValue? "roles" members) (c.roles.getD []) := by
  obtain ⟨hsome, habsent⟩ := read_field isField_roles hread hparse
  have hroles : c.roles.getD [] =
      ((Dictionary.lastValue? "roles" members).map rolesOf).getD [] := by
    cases hvalue : Dictionary.lastValue? "roles" members with
    | none =>
      rw [habsent hvalue]
      rfl
    | some value =>
      rw [← Except.ok.inj (hsome value hvalue)]
      cases value with
      | null => rfl
      | bool b => rfl
      | number n => rfl
      | string s => rfl
      | array items => rfl
      | object ms => rfl
  rw [hroles]
  exact Json.lists_rolesOf _

end Payloads

/-- **The roles of a caller**: a payload that has claims is an object. If the resource that applies
to a service has an entry that is an object, the caller has the roles that its member `roles` lists,
though they may be none. If no resource applies, or `resource_access` is no object or is absent, or
has no entry for the resource, the caller has the roles that the claim `roles` lists. -/
theorem callerRoles_are_listed {payload : Bytes} {c : Claims} (hread : read payload = .ok c)
    (names : ResourceNames) (service : String) :
    ∃ members, Json.parse? payload = some (.object members) ∧
      (∀ resource fields, names.Applies service (some resource) →
        HasEntry members resource (.object fields) →
        Json.Lists (Dictionary.lastValue? "roles" fields) (names.callerRoles service c)) ∧
      ((∀ resource, names.Applies service (some resource) →
          ∀ entry, ¬HasEntry members resource entry) →
        Json.Lists (Dictionary.lastValue? "roles" members) (names.callerRoles service c)) := by
  obtain ⟨members, -, hparse, -, -⟩ := read_eq_ok_iff.mp hread
  refine ⟨members, hparse, fun resource fields happlies hentry => ?_, fun hnone => ?_⟩
  · have hcaller : names.callerRoles service c = entryRoles (.object fields) := by
      unfold ResourceNames.callerRoles
      rw [ResourceNames.applies_iff.mp happlies, Option.bind_some,
        resourceRoles_of_entry hread ((grant?_eq_some_iff hparse).mpr hentry)]
      rfl
    rw [hcaller]
    exact Json.lists_rolesOf _
  · have hcaller : names.callerRoles service c = c.roles.getD [] := by
      unfold ResourceNames.callerRoles
      cases hresource : names.resourceFor service with
      | none => rfl
      | some resource =>
        have hgrant : grant? payload resource = none := by
          refine Option.eq_none_iff_forall_ne_some.mpr fun entry hentry => ?_
          exact hnone resource (ResourceNames.applies_iff.mpr hresource) entry
            ((grant?_eq_some_iff hparse).mp hentry)
        rw [Option.bind_some, resourceRoles_eq_map_grant hread hparse, hgrant]
        rfl
    rw [hcaller]
    exact lists_flatRoles hread hparse

/-- A resource with two entries, of which the last counts, and a service with an empty name for its
resource, so that the default applies, of which the payload says nothing. -/
theorem callerRoles_are_listed_repeated :
    let payload := Utf8.bytes ("\x7b\"roles\":[\"flat\",1],\"resource_access\":\x7b\"api\":null," ++
      "\"api\":\x7b\"roles\":[\"a\",null,\"b\",\"a\"]\x7d\x7d\x7d")
    let names : ResourceNames := ⟨some "web", [("shop.Orders", "api"), ("shop.Carts", "")]⟩
    ∃ c, read payload = .ok c ∧ names.callerRoles "shop.Orders" c = ["a", "b", "a"] ∧
      names.callerRoles "shop.Carts" c = ["flat"] := by
  intro payload names
  have hread : (read payload).isOk = true := by decide +kernel
  have hapi : ((grant? payload "api").bind (Json.member? "roles")).map rolesOf =
      some ["a", "b", "a"] := by decide +kernel
  have hweb : (grant? payload "web").isNone = true := by decide +kernel
  have hflat : ((Json.parse? payload).bind (Json.member? "roles")).map rolesOf =
      some ["flat"] := by decide +kernel
  obtain ⟨c, hc⟩ := Outcome.isOk_iff.mp hread
  refine ⟨c, hc, ?_, ?_⟩
  · obtain ⟨members, hparse, hentry, -⟩ := callerRoles_are_listed hc names "shop.Orders"
    obtain ⟨value, hvalue, hroles⟩ := Option.map_eq_some_iff.mp hapi
    obtain ⟨entry, hgrant, hmember⟩ := Option.bind_eq_some_iff.mp hvalue
    obtain ⟨fields, rfl, hlast⟩ := Json.exists_of_member? hmember
    have hlists := hentry "api" fields (.own rfl (by decide))
      ((grant?_eq_some_iff hparse).mp hgrant)
    rw [hlast] at hlists
    exact (hlists.unique (Json.lists_rolesOf (some value))).trans hroles
  · obtain ⟨members, hparse, -, hnone⟩ := callerRoles_are_listed hc names "shop.Carts"
    obtain ⟨value, hvalue, hroles⟩ := Option.map_eq_some_iff.mp hflat
    rw [hparse, Option.bind_some] at hvalue
    have hlast : Dictionary.lastValue? "roles" members = some value := hvalue
    have hlists := hnone fun resource happlies entry hhas => by
      obtain rfl : "web" = resource :=
        Option.some.inj (ResourceNames.applies_iff.mp happlies)
      rw [(grant?_eq_some_iff hparse).mpr hhas] at hweb
      cases hweb
    rw [hlast] at hlists
    exact (hlists.unique (Json.lists_rolesOf (some value))).trans hroles

end Claims

/-! ## Callers with one role -/

/-- The role for the resource is the only one that the claims give. -/
structure Claims.HasOnly (c : Claims) (resource role : String) : Prop where
  access : c.resourceAccess = some [(resource, [role])]
  flat : c.roles = none

/-- The role counts for the services of the resource, and for no other service. -/
theorem ResourceNames.callerRoles_of_hasOnly {names : ResourceNames} {c : Claims}
    {resource role : String} (h : c.HasOnly resource role) (service : String) :
    names.callerRoles service c =
      if names.resourceFor service = some resource then [role] else [] := by
  unfold callerRoles Claims.resourceRoles
  rw [h.access, h.flat]
  cases names.resourceFor service with
  | none => rfl
  | some name =>
    by_cases hname : name = resource
    · subst hname
      simp
    · have hbeq : (name == resource) = false := beq_false_of_ne hname
      simp [hname, List.lookup_cons, hbeq]

/-- A caller whose only role is one for a resource may call a method for that role exactly if the
resource is that of the service. -/
theorem ResourceNames.permits_iff_of_hasOnly {names : ResourceNames} {service method : String}
    {t : PolicyTable} {allowed : List String}
    (hpolicy : t.get? service method = some (.rolesAllowed allowed)) {role : String}
    (hrole : role ∈ allowed) {c : Claims} {resource : String} (hc : c.HasOnly resource role) :
    names.permits t service method c = true ↔ names.resourceFor service = some resource := by
  unfold permits
  rw [hpolicy]
  dsimp only
  rw [callerRoles_of_hasOnly hc]
  split
  · next hresource => simp [hresource, hrole]
  · next hresource => simp [hresource]

end RpcGuard
