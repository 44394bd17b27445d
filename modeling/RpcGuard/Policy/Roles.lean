/-!
# Role sets

A set of role names, kept as the strictly increasing list of its members in the order of code
points, so that a set has one representation.
-/

namespace RpcGuard.RoleSet

/-- Puts a role in its place, unless it is there. -/
def insert (role : String) : List String → List String
  | [] => [role]
  | r :: rs =>
    if role = r then r :: rs
    else if role < r then role :: r :: rs
    else r :: insert role rs

/-- The set of the listed roles. -/
def ofList (roles : List String) : List String := roles.foldr insert []

@[simp] theorem mem_insert {x role : String} {rs : List String} :
    x ∈ insert role rs ↔ x = role ∨ x ∈ rs := by
  induction rs with
  | nil => simp [insert]
  | cons r rs ih => by_cases h : role = r <;> by_cases h' : role < r <;> grind [insert]

/-- The set has the listed roles for members. -/
@[simp] theorem mem_ofList {x : String} {roles : List String} : x ∈ ofList roles ↔ x ∈ roles := by
  induction roles with
  | nil => simp [ofList]
  | cons r rs ih => simpa [ofList] using or_congr_right ih

end RpcGuard.RoleSet
