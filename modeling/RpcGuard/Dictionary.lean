/-!
# Dictionaries

Lists of key-value pairs read as maps. A key may be written more than once; its last value counts.
`lastOfEach` removes what does not count and keeps the rest in place.
-/

namespace RpcGuard.Dictionary

variable {α β : Type} [DecidableEq α]

/-- The last value of a key. -/
def lastValue? (k : α) : List (α × β) → Option β
  | [] => none
  | (k', v) :: ps =>
    match lastValue? k ps with
    | some w => some w
    | none => if k' = k then some v else none

/-- The pairs whose key does not come again. -/
def lastOfEach : List (α × β) → List (α × β)
  | [] => []
  | (k, v) :: ps => if (lastValue? k ps).isSome then lastOfEach ps else (k, v) :: lastOfEach ps

/-- Removing what does not count changes no value. -/
@[simp] theorem lastValue?_lastOfEach (k : α) (ps : List (α × β)) :
    lastValue? k (lastOfEach ps) = lastValue? k ps := by
  induction ps with
  | nil => rfl
  | cons p ps ih =>
    obtain ⟨k', v⟩ := p
    by_cases h : (lastValue? k' ps).isSome
    · simp only [lastOfEach, h, if_true, ih, lastValue?]
      by_cases hk : k' = k
      · subst hk
        obtain ⟨w, hw⟩ := Option.isSome_iff_exists.1 h
        simp [hw]
      · cases lastValue? k ps <;> simp [hk]
    · simp [lastOfEach, h, lastValue?, ih]

/-- A key has a value exactly if it is written. -/
theorem isSome_lastValue?_iff {k : α} {ps : List (α × β)} :
    (lastValue? k ps).isSome ↔ k ∈ ps.map Prod.fst := by
  induction ps with
  | nil => simp [lastValue?]
  | cons p ps ih =>
    obtain ⟨k', v⟩ := p
    cases h : lastValue? k ps with
    | some w => simp_all [lastValue?]
    | none =>
      have hk : k ∉ ps.map Prod.fst := by simp [← ih, h]
      by_cases hk' : k' = k
      · simp [lastValue?, h, hk']
      · simpa [lastValue?, h, hk', Ne.symm hk'] using hk

/-- What is left has each key once. -/
theorem nodup_lastOfEach (ps : List (α × β)) : ((lastOfEach ps).map Prod.fst).Nodup := by
  induction ps with
  | nil => exact List.nodup_nil
  | cons p ps ih =>
    obtain ⟨k, v⟩ := p
    by_cases h : (lastValue? k ps).isSome
    · simpa [lastOfEach, h] using ih
    · have hk : k ∉ (lastOfEach ps).map Prod.fst := by
        rw [← isSome_lastValue?_iff, lastValue?_lastOfEach]
        exact h
      simpa [lastOfEach, h] using ⟨by simpa using hk, ih⟩

end RpcGuard.Dictionary
