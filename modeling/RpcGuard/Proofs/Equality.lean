import RpcGuard.Json.Value
import RpcGuard.Yaml.Value

/-!
# Equality of values

The values of both data formats lie inside one another in lists, and so do those of JSON as they are
written, so that no equality is derived for them. Here it is decided by a comparison of what is
there, in which the order of members and entries matters: `Yaml.Value.same`, which compares keys,
passes over the order.
-/

namespace RpcGuard

/-! ## JSON -/

namespace Json

mutual

/-- The values are the same. -/
def identical : Json → Json → Bool
  | null, null => true
  | bool a, bool b => a == b
  | number a, number b => a == b
  | string a, string b => a == b
  | array as, array bs => identicalItems as bs
  | object as, object bs => identicalMembers as bs
  | _, _ => false

def identicalItems : List Json → List Json → Bool
  | [], [] => true
  | a :: as, b :: bs => identical a b && identicalItems as bs
  | _, _ => false

def identicalMembers : List (String × Json) → List (String × Json) → Bool
  | [], [] => true
  | (k, a) :: as, (l, b) :: bs => k == l && identical a b && identicalMembers as bs
  | _, _ => false

end

mutual

theorem identical_iff : (v w : Json) → (identical v w = true ↔ v = w)
  | array as, w => by cases w <;> simp [identical, identicalItems_iff as]
  | object as, w => by cases w <;> simp [identical, identicalMembers_iff as]
  | null, w | bool a, w | number a, w | string a, w => by cases w <;> simp [identical]

theorem identicalItems_iff : (as bs : List Json) → (identicalItems as bs = true ↔ as = bs)
  | [], bs => by cases bs <;> simp [identicalItems]
  | a :: as, bs => by cases bs <;> simp [identicalItems, identical_iff a, identicalItems_iff as]

theorem identicalMembers_iff :
    (as bs : List (String × Json)) → (identicalMembers as bs = true ↔ as = bs)
  | [], bs => by cases bs <;> simp [identicalMembers]
  | (k, a) :: as, [] => by simp [identicalMembers]
  | (k, a) :: as, (l, b) :: bs => by
    simp [identicalMembers, identical_iff a, identicalMembers_iff as]

end

instance : DecidableEq Json := fun v w => decidable_of_iff _ (identical_iff v w)

namespace Syntax

mutual

/-- The values are written in the same way, apart from white space. -/
def identical : Syntax → Syntax → Bool
  | null, null => true
  | bool a, bool b => a == b
  | number a, number b => a == b
  | string a, string b => a == b
  | array as, array bs => identicalItems as bs
  | object as, object bs => identicalMembers as bs
  | _, _ => false

def identicalItems : List Syntax → List Syntax → Bool
  | [], [] => true
  | a :: as, b :: bs => identical a b && identicalItems as bs
  | _, _ => false

def identicalMembers : List (Bytes × Syntax) → List (Bytes × Syntax) → Bool
  | [], [] => true
  | (k, a) :: as, (l, b) :: bs => k == l && identical a b && identicalMembers as bs
  | _, _ => false

end

mutual

theorem identical_iff : (v w : Syntax) → (identical v w = true ↔ v = w)
  | array as, w => by cases w <;> simp [identical, identicalItems_iff as]
  | object as, w => by cases w <;> simp [identical, identicalMembers_iff as]
  | null, w | bool a, w | number a, w | string a, w => by cases w <;> simp [identical]

theorem identicalItems_iff : (as bs : List Syntax) → (identicalItems as bs = true ↔ as = bs)
  | [], bs => by cases bs <;> simp [identicalItems]
  | a :: as, bs => by cases bs <;> simp [identicalItems, identical_iff a, identicalItems_iff as]

theorem identicalMembers_iff :
    (as bs : List (Bytes × Syntax)) → (identicalMembers as bs = true ↔ as = bs)
  | [], bs => by cases bs <;> simp [identicalMembers]
  | (k, a) :: as, [] => by simp [identicalMembers]
  | (k, a) :: as, (l, b) :: bs => by
    simp [identicalMembers, identical_iff a, identicalMembers_iff as]

end

instance : DecidableEq Syntax := fun v w => decidable_of_iff _ (identical_iff v w)

end Syntax

end Json

/-! ## YAML -/

namespace Yaml.Value

mutual

/-- The values are the same, with the order of entries. -/
def identical : Value → Value → Bool
  | null, null => true
  | bool a, bool b => a == b
  | number a, number b => a == b
  | string a, string b => a == b
  | sequence as, sequence bs => identicalItems as bs
  | mapping as, mapping bs => identicalEntries as bs
  | tagged s a, tagged t b => s == t && identical a b
  | _, _ => false

def identicalItems : List Value → List Value → Bool
  | [], [] => true
  | a :: as, b :: bs => identical a b && identicalItems as bs
  | _, _ => false

def identicalEntries : List (Value × Value) → List (Value × Value) → Bool
  | [], [] => true
  | (k, a) :: as, (l, b) :: bs => identical k l && identical a b && identicalEntries as bs
  | _, _ => false

end

mutual

theorem identical_iff : (v w : Value) → (identical v w = true ↔ v = w)
  | sequence as, w => by cases w <;> simp [identical, identicalItems_iff as]
  | mapping as, w => by cases w <;> simp [identical, identicalEntries_iff as]
  | tagged s a, w => by cases w <;> simp [identical, identical_iff a]
  | null, w | bool a, w | number a, w | string a, w => by cases w <;> simp [identical]

theorem identicalItems_iff : (as bs : List Value) → (identicalItems as bs = true ↔ as = bs)
  | [], bs => by cases bs <;> simp [identicalItems]
  | a :: as, bs => by cases bs <;> simp [identicalItems, identical_iff a, identicalItems_iff as]

theorem identicalEntries_iff :
    (as bs : List (Value × Value)) → (identicalEntries as bs = true ↔ as = bs)
  | [], bs => by cases bs <;> simp [identicalEntries]
  | (k, a) :: as, [] => by simp [identicalEntries]
  | (k, a) :: as, (l, b) :: bs => by
    simp [identicalEntries, identical_iff k, identical_iff a, identicalEntries_iff as, and_assoc]

end

instance : DecidableEq Value := fun v w => decidable_of_iff _ (identical_iff v w)

end Yaml.Value

end RpcGuard
