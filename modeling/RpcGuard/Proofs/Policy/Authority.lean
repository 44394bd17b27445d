import RpcGuard.Proofs.Claims.Roles
import RpcGuard.Proofs.Paths

/-!
# The roles that decide

A decision depends on the claims of a caller only through the roles that count for the service, and
more such roles never take a permission away. Which roles count is settled by one entry: that for the
resource which applies to the service, if the claims have one. Beside it the roles that belong to no
resource do not count at all, and without it they are the only ones. Whatever else the claims say has
no part in the decision (`ResourceNames.permits_by_authoritative_roles`).
-/

namespace RpcGuard

/-- A policy that lets a caller in lets in every caller with the same roles and perhaps others. -/
theorem AccessPolicy.Admits.mono {p : AccessPolicy} {roles roles' : List String}
    (h : p.Admits roles) (hroles : ∀ role ∈ roles, role ∈ roles') : p.Admits roles' := by
  cases p with
  | deny => exact h
  | permitAll => trivial
  | rolesAllowed allowed =>
    obtain ⟨role, hrole, hallowed⟩ := h
    exact ⟨role, hroles role hrole, hallowed⟩

namespace ResourceNames

variable {names : ResourceNames} {t : PolicyTable} {service method : String} {c c' : Claims}

/-- A caller with more roles may call whatever it could call before. -/
theorem permits_mono
    (hroles : ∀ role ∈ names.callerRoles service c, role ∈ names.callerRoles service c')
    (h : names.permits t service method c = true) : names.permits t service method c' = true := by
  rw [permits_eq_true_iff] at h ⊢
  rcases h with ⟨p, hp, hadmits⟩ | hopen
  · exact .inl ⟨p, hp, hadmits.mono hroles⟩
  · exact .inr hopen

/-- Callers with the same roles, in any order and with any repetitions, may call the same. -/
theorem permits_eq_of_mem_iff
    (hroles : ∀ role, role ∈ names.callerRoles service c ↔ role ∈ names.callerRoles service c') :
    names.permits t service method c' = names.permits t service method c := by
  rw [Bool.eq_iff_iff]
  constructor
  · exact permits_mono fun role hrole => (hroles role).mpr hrole
  · exact permits_mono fun role hrole => (hroles role).mp hrole

/-- The roles of an entry for the resource that applies are all that count. -/
theorem callerRoles_of_entry {resource : String} {roles : List String}
    (happlies : names.Applies service (some resource))
    (hentry : c.resourceRoles resource = some roles) : names.callerRoles service c = roles := by
  unfold callerRoles
  rw [applies_iff.mp happlies, Option.bind_some, hentry]
  rfl

/-- Without such an entry the roles that belong to no resource count. -/
theorem callerRoles_of_no_entry
    (hnone : ∀ resource, names.Applies service (some resource) → c.resourceRoles resource = none) :
    names.callerRoles service c = c.roles.getD [] := by
  unfold callerRoles
  cases hresource : names.resourceFor service with
  | none => rfl
  | some resource =>
    rw [Option.bind_some, hnone resource (applies_iff.mpr hresource)]
    rfl

/-- Claims that agree on all roles agree on those that count. -/
theorem callerRoles_eq_of_roles (haccess : c'.resourceAccess = c.resourceAccess)
    (hflat : c'.roles = c.roles) : names.callerRoles service c' = names.callerRoles service c := by
  unfold callerRoles Claims.resourceRoles
  rw [haccess, hflat]

/-- **The roles that decide**: compare the decisions on two claims. If all roles that count for the
service in the first also count in the second, the second is permitted what the first is; so the
order and repetition of roles do not matter. If both have the same entry for the resource that
applies to the service, the decision is the same, whatever other entries and roles there are; if
neither has an entry for it, or none applies, the decision is the same as long as the roles are that
belong to no resource, whatever other entries there are. And other claims than these never matter. -/
theorem permits_by_authoritative_roles (names : ResourceNames) (t : PolicyTable)
    (service method : String) (c c' : Claims) :
    ((∀ role ∈ names.callerRoles service c, role ∈ names.callerRoles service c') →
      names.permits t service method c = true → names.permits t service method c' = true) ∧
    ((∀ role, role ∈ names.callerRoles service c ↔ role ∈ names.callerRoles service c') →
      names.permits t service method c' = names.permits t service method c) ∧
    (∀ resource roles, names.Applies service (some resource) →
      c.resourceRoles resource = some roles → c'.resourceRoles resource = some roles →
      names.permits t service method c' = names.permits t service method c) ∧
    ((∀ resource, names.Applies service (some resource) →
        c.resourceRoles resource = none ∧ c'.resourceRoles resource = none) →
      c'.roles = c.roles →
      names.permits t service method c' = names.permits t service method c) ∧
    (c'.resourceAccess = c.resourceAccess → c'.roles = c.roles →
      names.permits t service method c' = names.permits t service method c) := by
  -- each kind of agreement leaves the roles that count as they are
  have hsame : names.callerRoles service c' = names.callerRoles service c →
      names.permits t service method c' = names.permits t service method c := by
    intro hroles
    refine permits_eq_of_mem_iff fun role => ?_
    rw [hroles]
  refine ⟨permits_mono, permits_eq_of_mem_iff, ?_, ?_, ?_⟩
  · intro resource roles happlies hentry hentry'
    refine hsame ?_
    rw [callerRoles_of_entry happlies hentry, callerRoles_of_entry happlies hentry']
  · intro hnone hflat
    refine hsame ?_
    rw [callerRoles_of_no_entry fun resource h => (hnone resource h).1,
      callerRoles_of_no_entry fun resource h => (hnone resource h).2, hflat]
  · intro haccess hflat
    exact hsame (callerRoles_eq_of_roles haccess hflat)

/-- A caller of a method for admins: with further roles, with the same roles in another order, with
other roles for other resources, and with another subject. Of the resource for carts the claims say
nothing, so that the roles without a resource count there. -/
theorem permits_by_authoritative_roles_orders :
    let names : ResourceNames := ⟨some "carts", [("shop.Orders", "orders")]⟩
    let t : PolicyTable := ⟨[("shop.Orders", [("Cancel", .rolesAllowed ["admin"])]),
      ("shop.Carts", [("Clear", .rolesAllowed ["guest"])])]⟩
    let c : Claims := {
      resourceAccess := some [("orders", ["user", "admin"]), ("web", [])], roles := some ["guest"] }
    let more : Claims := { resourceAccess := some [("orders", ["admin", "audit", "user"])] }
    let reordered : Claims := { resourceAccess := some [("orders", ["admin", "user", "admin"])] }
    let elsewhere : Claims := {
      resourceAccess := some [("web", ["admin"]), ("orders", ["user", "admin"])] }
    let otherEntries : Claims := { resourceAccess := some [], roles := some ["guest"] }
    names.permits t "shop.Orders" "Cancel" c = true ∧
      names.permits t "shop.Orders" "Cancel" more = true ∧
      names.permits t "shop.Orders" "Cancel" reordered = true ∧
      names.permits t "shop.Orders" "Cancel" elsewhere = true ∧
      names.permits t "shop.Carts" "Clear" otherEntries = true ∧
      names.permits t "shop.Carts" "Clear" { c with subject := some "eve" } = true := by
  intro names t c more reordered elsewhere otherEntries
  have hcancel : names.permits t "shop.Orders" "Cancel" c = true := by decide
  have hclear : names.permits t "shop.Carts" "Clear" c = true := by decide
  have horders := permits_by_authoritative_roles names t "shop.Orders" "Cancel" c
  have hcarts := permits_by_authoritative_roles names t "shop.Carts" "Clear" c
  have happlies : names.Applies "shop.Orders" (some "orders") := .own rfl (by decide)
  refine ⟨hcancel, (horders more).1 (by decide) hcancel, ?_, ?_, ?_, ?_⟩
  · refine ((horders reordered).2.1 fun role => ?_).trans hcancel
    show role ∈ ["user", "admin"] ↔ role ∈ ["admin", "user", "admin"]
    simp [or_comm]
  · exact ((horders elsewhere).2.2.1 "orders" _ happlies rfl rfl).trans hcancel
  · refine ((hcarts otherEntries).2.2.2.1 (fun resource happlies => ?_) rfl).trans hclear
    obtain rfl : "carts" = resource := Option.some.inj (applies_iff.mp happlies)
    exact ⟨rfl, rfl⟩
  · exact ((hcarts { c with subject := some "eve" }).2.2.2.2 rfl rfl).trans hclear

end ResourceNames

end RpcGuard
