import RpcGuard.Policy.Access
import RpcGuard.Proofs.Claims.Reading
import RpcGuard.Proofs.Policy.Compilation

/-!
# Malformed entries

An entry of `resource_access` is an object with a member `roles`. An entry of another shape is
malformed and should give no roles, so that nobody is admitted by it. It gives none but for one
shape: an array with one item gives the roles that the item would give as the member `roles`
(`Claims.roles_of_malformed_entry`).
-/

namespace RpcGuard

namespace Dictionary

variable {α β γ : Type} [DecidableEq α]

/-- What is done to all values is done to the one that is looked up. -/
theorem lookup_map_snd (g : β → γ) (k : α) (ps : List (α × β)) :
    (ps.map fun (k', v) => (k', g v)).lookup k = (ps.lookup k).map g := by
  induction ps with
  | nil => rfl
  | cons p ps ih =>
    obtain ⟨k', v⟩ := p
    rw [List.map_cons, List.lookup_cons, List.lookup_cons, ih]
    cases k == k' with
    | true => rfl
    | false => rfl

end Dictionary

/-- A value with a member is an object. -/
theorem Json.exists_of_member? {name : String} {j v : Json} (h : j.member? name = some v) :
    ∃ members, j = .object members ∧ Dictionary.lastValue? name members = some v := by
  cases j with
  | object members => exact ⟨members, rfl, h⟩
  | array items => cases h
  | string s => cases h
  | number n => cases h
  | bool b => cases h
  | null => cases h

namespace Claims

/-- What a payload says about a resource. -/
def grant? (payload : Bytes) (resource : String) : Option Json := do
  let value ← Json.parse? payload
  let access ← value.member? Name.resourceAccess.text
  access.member? resource

section Entries

variable {payload : Bytes} {c : Claims} {resource : String} {entry : Json}

/-- The roles for a resource are those of its entry. -/
theorem resourceRoles_of_entry (hread : read payload = .ok c)
    (hentry : grant? payload resource = some entry) :
    c.resourceRoles resource = some (entryRoles entry) := by
  unfold grant? at hentry
  simp only [Option.bind_eq_bind, Option.bind_eq_some_iff] at hentry
  obtain ⟨value, hparse, access, haccess, hentry⟩ := hentry
  obtain ⟨members, rfl, hmember⟩ := Json.exists_of_member? haccess
  obtain ⟨entries, rfl, hlast⟩ := Json.exists_of_member? hentry
  have hset := (read_field isField_resourceAccess hread hparse).1 _ hmember
  have hresources : c.resourceAccess = accessOf (.object entries) := (Except.ok.inj hset).symm
  unfold resourceRoles
  rw [hresources, accessOf]
  dsimp only
  rw [Dictionary.lookup_map_snd, Dictionary.lookup_lastOfEach, hlast]
  rfl

/-- A malformed entry has no roles but those of the one item of an array. -/
theorem mem_entryRoles_of_malformed (hmalformed : entry.isObject = false) {role : String} :
    role ∈ entryRoles entry ↔ ∃ item, entry = .array [item] ∧ role ∈ rolesOf item := by
  unfold entryRoles
  split
  · cases hmalformed
  · next item =>
    constructor
    · intro hrole
      exact ⟨item, rfl, hrole⟩
    · rintro ⟨item', heq, hrole⟩
      obtain rfl := (List.cons.inj (Json.array.inj heq)).1
      exact hrole
  · next hother =>
    constructor
    · intro hrole
      cases hrole
    · rintro ⟨item, rfl, -⟩
      exact absurd rfl (hother item)

/-- The roles of the entry for its resource are all that a method of a service with the resource
asks for. -/
theorem permits_of_entry (hread : read payload = .ok c)
    (hentry : grant? payload resource = some entry) {names : ResourceNames} {table : PolicyTable}
    {service method : String} {allowed : List String}
    (hresource : names.resourceFor service = some resource)
    (hpolicy : table.get? service method = some (.rolesAllowed allowed)) :
    names.permits table service method c ↔ ∃ role ∈ entryRoles entry, role ∈ allowed := by
  have hcaller : names.callerRoles service c = entryRoles entry := by
    unfold ResourceNames.callerRoles
    rw [hresource, Option.bind_some, resourceRoles_of_entry hread hentry]
    rfl
  unfold ResourceNames.permits
  rw [hpolicy]
  dsimp only
  rw [hcaller, List.any_eq_true]
  simp only [decide_eq_true_eq]

/-- **Roles of a malformed entry**: an entry that is no object gives no roles, and nobody is
admitted by it to a method that asks for roles, exactly if it is not an array with one item that
would give such roles as a member `roles`. -/
theorem roles_of_malformed_entry (hread : read payload = .ok c)
    (hentry : grant? payload resource = some entry) (hmalformed : entry.isObject = false) :
    (c.resourceRoles resource = some [] ↔ ∀ item, entry = .array [item] → rolesOf item = []) ∧
    ∀ (names : ResourceNames) (table : PolicyTable) (service method : String)
      (allowed : List String), names.resourceFor service = some resource →
      table.get? service method = some (.rolesAllowed allowed) →
      (names.permits table service method c = false ↔
        ∀ item, entry = .array [item] → ∀ role ∈ rolesOf item, role ∉ allowed) := by
  constructor
  · rw [resourceRoles_of_entry hread hentry, Option.some_inj, List.eq_nil_iff_forall_not_mem]
    constructor
    · intro hnone item hitem
      refine List.eq_nil_iff_forall_not_mem.mpr fun role hrole => hnone role ?_
      exact (mem_entryRoles_of_malformed hmalformed).mpr ⟨item, hitem, hrole⟩
    · intro hitems role hrole
      obtain ⟨item, hitem, hrole⟩ := (mem_entryRoles_of_malformed hmalformed).mp hrole
      rw [hitems item hitem] at hrole
      cases hrole
  · intro names table service method allowed hresource hpolicy
    rw [← Bool.not_eq_true, permits_of_entry hread hentry hresource hpolicy]
    constructor
    · intro hnobody item hitem role hrole hallowed
      have hentryRole := (mem_entryRoles_of_malformed hmalformed).mpr ⟨item, hitem, hrole⟩
      exact hnobody ⟨role, hentryRole, hallowed⟩
    · rintro hitems ⟨role, hrole, hallowed⟩
      obtain ⟨item, hitem, hrole⟩ := (mem_entryRoles_of_malformed hmalformed).mp hrole
      exact hitems item hitem role hrole hallowed

end Entries

/-- A text in the place of an entry gives no roles. -/
theorem roles_of_malformed_entry_text :
    let payload := Utf8.bytes "\x7b\"resource_access\":\x7b\"api\":\"admin\"\x7d\x7d"
    ∃ c entry, read payload = .ok c ∧ grant? payload "api" = some entry ∧
      entry.isObject = false ∧ c.resourceRoles "api" = some [] := by
  intro payload
  have hread : (read payload).isOk = true := by decide +kernel
  have hshape : (grant? payload "api").map (fun j => (j.isObject, entryRoles j)) =
      some (false, []) := by decide +kernel
  obtain ⟨c, hc⟩ : ∃ c, read payload = .ok c := by
    cases h : read payload with
    | ok c => exact ⟨c, rfl⟩
    | error fault =>
      rw [h] at hread
      cases hread
  obtain ⟨entry, hentry, heq⟩ := Option.map_eq_some_iff.mp hshape
  obtain ⟨hmalformed, hroles⟩ := Prod.mk.inj heq
  refine ⟨c, entry, hc, hentry, hmalformed, ?_⟩
  refine (roles_of_malformed_entry hc hentry hmalformed).1.mpr fun item hitem => ?_
  rw [hitem] at hroles
  exact hroles

/-- A list of roles in the place of an entry gives its one role, and admits the caller. -/
theorem roles_of_listed_entry :
    let payload := Utf8.bytes "\x7b\"resource_access\":\x7b\"api\":[\"admin\"]\x7d\x7d"
    let names : ResourceNames := ⟨some "api", []⟩
    let table : PolicyTable := ⟨[("shop.Orders", [("Cancel", .rolesAllowed ["admin"])])]⟩
    ∃ c entry, read payload = .ok c ∧ grant? payload "api" = some entry ∧
      entry.isObject = false ∧ c.resourceRoles "api" ≠ some [] ∧
      names.permits table "shop.Orders" "Cancel" c = true := by
  intro payload names table
  have hread : (read payload).toOption.map (fun c =>
      (c.resourceRoles "api", names.permits table "shop.Orders" "Cancel" c)) =
      some (some ["admin"], true) := by decide +kernel
  have hshape : (grant? payload "api").map Json.isObject = some false := by decide +kernel
  obtain ⟨c, hc, heq⟩ := Option.map_eq_some_iff.mp hread
  obtain ⟨entry, hentry, hmalformed⟩ := Option.map_eq_some_iff.mp hshape
  obtain ⟨hroles, hpermits⟩ := Prod.mk.inj heq
  have hok : read payload = .ok c := by
    cases h : read payload with
    | ok c' =>
      rw [h] at hc
      exact congrArg Except.ok (Option.some.inj hc)
    | error fault =>
      rw [h] at hc
      cases hc
  refine ⟨c, entry, hok, hentry, hmalformed, fun hnone => ?_, hpermits⟩
  cases hroles.symm.trans hnone

end Claims

end RpcGuard
