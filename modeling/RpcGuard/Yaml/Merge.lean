import RpcGuard.Yaml.Value

/-!
# Merging values

An overlay laid over a base: mappings are merged entry by entry, and anything else in the overlay
takes the place of what the base has. Keys of the base keep their order, and new keys follow.
-/

namespace RpcGuard.Yaml.Value

/-- The entries with the value of a key replaced, or with a new entry behind. `merged` is what the
present value becomes. -/
def put (k v : Value) (merged : Value → Value) : List (Value × Value) → List (Value × Value)
  | [] => [(k, v)]
  | (k', w) :: es => if k.same k' then (k', merged w) :: es else (k', w) :: put k v merged es

mutual

/-- The base with the overlay on it. -/
def merge : (overlay base : Value) → Value
  | mapping es, mapping bs => mapping (mergeEntries es bs)
  | overlay, _ => overlay

/-- The entries of a base with those of an overlay on them, one after the other. -/
def mergeEntries : (overlay base : List (Value × Value)) → List (Value × Value)
  | [], bs => bs
  | (k, v) :: es, bs => mergeEntries es (put k v (merge v) bs)

end

end RpcGuard.Yaml.Value
