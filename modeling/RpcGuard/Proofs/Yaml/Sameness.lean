import RpcGuard.Proofs.Yaml.Distinct
import Mathlib.Data.List.Forall2

/-!
# Keys are compared by an equivalence

Two keys of a mapping are the same key if they are equal up to the order of entries within them
(`Value.same`). That is an equivalence on values that have no key twice, so that it does not matter
through which of its spellings a key is looked up. Symmetry (`same_symm`) is where the distinct keys
come in: every entry of one mapping has its like in the other, and as there are as many, no entry of
the other is left over.
-/

namespace RpcGuard

/-- Lists of the same length, of which each member of the first is paired with one of the second
and no two with the same one: then no member of the second is left over. -/
theorem exists_paired {α β : Type} {R : α → β → Prop} {as : List α} {bs : List β}
    (hlength : as.length = bs.length) (hpaired : ∀ a ∈ as, ∃ b ∈ bs, R a b)
    (hapart : as.Pairwise fun a a' => ∀ b ∈ bs, R a b → ¬R a' b) : ∀ b ∈ bs, ∃ a ∈ as, R a b := by
  induction as generalizing bs with
  | nil =>
    intro b hb
    rw [List.eq_nil_of_length_eq_zero hlength.symm] at hb
    cases hb
  | cons a as ih =>
    obtain ⟨b, hb, hab⟩ := hpaired a List.mem_cons_self
    obtain ⟨before, after, rfl⟩ := List.append_of_mem hb
    obtain ⟨hfirst, hrest⟩ := List.pairwise_cons.mp hapart
    have hsub : ∀ {b'}, b' ∈ before ++ after → b' ∈ before ++ b :: after := by
      intro b' hb'
      rcases List.mem_append.mp hb' with h | h
      · exact List.mem_append_left _ h
      · exact List.mem_append_right _ (List.mem_cons_of_mem _ h)
    -- without the two that are paired here, the rest of both lists is as before
    have hothers : ∀ b' ∈ before ++ after, ∃ a' ∈ as, R a' b' := by
      refine ih ?_ ?_ ?_
      · simp only [List.length_cons, List.length_append] at hlength ⊢
        omega
      · intro a' ha'
        obtain ⟨b', hb', hab'⟩ := hpaired a' (List.mem_cons_of_mem _ ha')
        have hne : b' ≠ b := by
          rintro rfl
          exact hfirst a' ha' b' hb hab hab'
        simp only [List.mem_append, List.mem_cons, hne, false_or] at hb' ⊢
        exact ⟨b', hb', hab'⟩
      · exact hrest.imp fun h b' hb' => h b' (hsub hb')
    intro b' hb'
    simp only [List.mem_append, List.mem_cons] at hb'
    rcases hb' with hb' | rfl | hb'
    · obtain ⟨a', ha', h⟩ := hothers b' (List.mem_append_left _ hb')
      exact ⟨a', List.mem_cons_of_mem _ ha', h⟩
    · exact ⟨a, List.mem_cons_self, hab⟩
    · obtain ⟨a', ha', h⟩ := hothers b' (List.mem_append_right _ hb')
      exact ⟨a', List.mem_cons_of_mem _ ha', h⟩

/-! ## Numbers -/

theorem Binary64.same_refl (x : Binary64) : x.same x = true := by
  cases x <;> simp [same]

theorem Binary64.same_symm {x y : Binary64} (h : x.same y = true) : y.same x = true := by
  cases x <;> cases y <;> grind [same]

theorem Binary64.same_trans {x y z : Binary64} (hxy : x.same y = true) (hyz : y.same z = true) :
    x.same z = true := by
  cases x <;> cases y <;> cases z <;> grind [same]

theorem Number.same_refl (n : Number) : n.same n = true := by
  cases n with
  | natural a => exact beq_self_eq_true a
  | negative a => exact beq_self_eq_true a
  | float x => exact x.same_refl

theorem Number.same_symm {m n : Number} (h : m.same n = true) : n.same m = true := by
  cases m <;> cases n <;> simp_all [same, Binary64.same_symm]

theorem Number.same_trans {l m n : Number} (hlm : l.same m = true) (hmn : m.same n = true) :
    l.same n = true := by
  cases l with
  | natural a => cases m <;> cases n <;> simp_all [same]
  | negative a => cases m <;> cases n <;> simp_all [same]
  | float x =>
    cases m with
    | natural b => cases hlm
    | negative b => cases hlm
    | float y =>
      cases n with
      | natural c => cases hmn
      | negative c => cases hmn
      | float z => exact Binary64.same_trans (x := x) (y := y) (z := z) hlm hmn

namespace Yaml.Value

/-! ## Induction -/

/-- Induction along the values that a value holds. -/
@[elab_as_elim]
theorem induction {P : Value → Prop} (scalar : ∀ v, v.IsScalar → P v)
    (sequence : ∀ items, (∀ v ∈ items, P v) → P (sequence items))
    (mapping : ∀ es, (∀ e ∈ es, P e.1 ∧ P e.2) → P (mapping es))
    (tagged : ∀ name v, P v → P (tagged name v)) (v : Value) : P v :=
  @Value.rec P (fun items => ∀ v ∈ items, P v) (fun es => ∀ e ∈ es, P e.1 ∧ P e.2)
    (fun e => P e.1 ∧ P e.2) (scalar _ trivial) (fun _ => scalar _ trivial)
    (fun _ => scalar _ trivial) (fun _ => scalar _ trivial) sequence mapping tagged
    (fun _ h => absurd h List.not_mem_nil) (fun _ _ hv hvs => List.forall_mem_cons.mpr ⟨hv, hvs⟩)
    (fun _ h => absurd h List.not_mem_nil) (fun _ _ he hes => List.forall_mem_cons.mpr ⟨he, hes⟩)
    (fun _ _ hk hv => ⟨hk, hv⟩) v

/-! ## Sameness by the parts -/

theorem sameItems_iff {as bs : List Value} :
    sameItems as bs = true ↔ List.Forall₂ (fun a b => same a b = true) as bs := by
  induction as generalizing bs with
  | nil => cases bs <;> simp [sameItems]
  | cons a as ih => cases bs <;> simp [sameItems, ih]

theorem sameEntries_iff {es bs : List (Value × Value)} :
    sameEntries es bs = true ↔
      ∀ e ∈ es, ∃ b ∈ bs, same e.1 b.1 = true ∧ same e.2 b.2 = true := by
  induction es with
  | nil => simp [sameEntries]
  | cons e es ih => simp [sameEntries, ih]

/-- Values of the same kind with the same parts; the entries of mappings in any order. -/
inductive SameParts : Value → Value → Prop where
  | null : SameParts null null
  | bool (b : Bool) : SameParts (bool b) (bool b)
  | number {m n : Number} (h : m.same n = true) : SameParts (number m) (number n)
  | string (s : String) : SameParts (string s) (string s)
  | sequence {as bs : List Value} (h : List.Forall₂ (fun a b => same a b = true) as bs) :
    SameParts (sequence as) (sequence bs)
  | mapping {es bs : List (Value × Value)} (hlength : es.length = bs.length)
    (h : ∀ e ∈ es, ∃ b ∈ bs, same e.1 b.1 = true ∧ same e.2 b.2 = true) :
    SameParts (mapping es) (mapping bs)
  | tagged (name : String) {v w : Value} (h : same v w = true) :
    SameParts (tagged name v) (tagged name w)

/-- Values are the same if their parts are. -/
theorem same_iff {v w : Value} : same v w = true ↔ SameParts v w := by
  constructor
  · intro h
    cases v with
    | null =>
      cases w with
      | null => exact .null
      | _ => cases h
    | bool a =>
      cases w with
      | bool b =>
        obtain rfl := beq_iff_eq.mp h
        exact .bool a
      | _ => cases h
    | number m =>
      cases w with
      | number n => exact .number h
      | _ => cases h
    | string s =>
      cases w with
      | string t =>
        obtain rfl := beq_iff_eq.mp h
        exact .string s
      | _ => cases h
    | sequence as =>
      cases w with
      | sequence bs => exact .sequence (sameItems_iff.mp h)
      | _ => cases h
    | mapping es =>
      cases w with
      | mapping bs =>
        rw [same, Bool.and_eq_true, beq_iff_eq, sameEntries_iff] at h
        exact .mapping h.1 h.2
      | _ => cases h
    | tagged name v =>
      cases w with
      | tagged name' w =>
        rw [same, Bool.and_eq_true, beq_iff_eq] at h
        obtain ⟨rfl, h⟩ := h
        exact .tagged name h
      | _ => cases h
  · intro h
    cases h with
    | null => rfl
    | bool b => exact beq_self_eq_true b
    | number h => exact h
    | string s => exact beq_self_eq_true s
    | sequence h => exact sameItems_iff.mpr h
    | mapping hlength h =>
      rw [same, Bool.and_eq_true, beq_iff_eq, sameEntries_iff]
      exact ⟨hlength, h⟩
    | tagged name h =>
      rw [same, Bool.and_eq_true]
      exact ⟨beq_self_eq_true name, h⟩

/-! ## The laws of an equivalence -/

theorem same_refl (v : Value) : same v v = true := by
  induction v using induction with
  | scalar v h =>
    cases v with
    | null => rfl
    | bool b => exact same_iff.mpr (.bool b)
    | number n => exact n.same_refl
    | string s => exact same_iff.mpr (.string s)
    | sequence | mapping | tagged => exact h.elim
  | sequence items ih => exact same_iff.mpr (.sequence (List.forall₂_same.mpr ih))
  | mapping es ih => exact same_iff.mpr (.mapping rfl fun e he => ⟨e, he, ih e he⟩)
  | tagged name v ih => exact same_iff.mpr (.tagged name ih)

theorem same_trans {u v w : Value} (huv : same u v = true) (hvw : same v w = true) :
    same u w = true := by
  induction u using induction generalizing v w with
  | scalar u h =>
    rw [same_iff] at huv hvw ⊢
    cases huv with
    | null | bool | string => exact hvw
    | number hlm =>
      cases hvw with
      | number hmn => exact .number (Number.same_trans hlm hmn)
    | sequence | mapping | tagged => exact h.elim
  | sequence as ih =>
    rw [same_iff] at huv hvw ⊢
    cases huv with
    | sequence hab =>
      cases hvw with
      | @sequence _ cs hbc =>
        refine .sequence ?_
        induction hab generalizing cs with
        | nil => exact hbc
        | cons hab _ ihs =>
          cases hbc with
          | cons hbc hrest =>
            obtain ⟨iha, ih⟩ := List.forall_mem_cons.mp ih
            exact .cons (iha hab hbc) (ihs ih hrest)
  | mapping as ih =>
    rw [same_iff] at huv hvw ⊢
    cases huv with
    | mapping hlength hab =>
      cases hvw with
      | mapping hlength' hbc =>
        refine .mapping (hlength.trans hlength') fun a ha => ?_
        obtain ⟨b, hb, hkey, hvalue⟩ := hab a ha
        obtain ⟨c, hc, hkey', hvalue'⟩ := hbc b hb
        exact ⟨c, hc, (ih a ha).1 hkey hkey', (ih a ha).2 hvalue hvalue'⟩
  | tagged name u ih =>
    rw [same_iff] at huv hvw ⊢
    cases huv with
    | tagged _ huv =>
      cases hvw with
      | tagged _ hvw => exact .tagged name (ih huv hvw)

theorem same_symm {v w : Value} (hv : Distinct v) (h : same v w = true) : same w v = true := by
  induction v using induction generalizing w with
  | scalar v hscalar =>
    rw [same_iff] at h ⊢
    cases h with
    | null => exact .null
    | bool b => exact .bool b
    | number h => exact .number (Number.same_symm h)
    | string s => exact .string s
    | sequence | mapping | tagged => exact hscalar.elim
  | sequence as ih =>
    rw [same_iff] at h ⊢
    cases h with
    | sequence h =>
      have hitems : ∀ a ∈ as, ∀ b, same a b = true → same b a = true := fun a ha b =>
        ih a ha fun es hpart => hv es (.item ha hpart)
      refine .sequence ?_
      clear ih hv
      induction h with
      | nil => exact .nil
      | cons hab _ ihs =>
        obtain ⟨ha, has⟩ := List.forall_mem_cons.mp hitems
        exact .cons (ha _ hab) (ihs has)
  | mapping as ih =>
    rw [same_iff] at h ⊢
    cases h with
    | @mapping _ bs hlength h =>
      have hkeys : ∀ a ∈ as, ∀ k, same a.1 k = true → same k a.1 = true := fun a ha k =>
        (ih a ha).1 fun es hpart => hv es (.key ha hpart)
      have hvalues : ∀ a ∈ as, ∀ w, same a.2 w = true → same w a.2 = true := fun a ha w =>
        (ih a ha).2 fun es hpart => hv es (.value ha hpart)
      have hapart : as.Pairwise fun a a' => ∀ b ∈ bs,
          (same a.1 b.1 = true ∧ same a.2 b.2 = true) →
            ¬(same a'.1 b.1 = true ∧ same a'.2 b.2 = true) := by
        have hdistinct : KeysDistinct as := hv as .refl
        refine hdistinct.imp_of_mem fun {a a'} ha ha' hne b _ hab hab' => ?_
        rw [same_trans hab'.1 (hkeys a ha b.1 hab.1)] at hne
        cases hne
      refine .mapping hlength.symm fun b hb => ?_
      obtain ⟨a, ha, hkey, hvalue⟩ := exists_paired hlength h hapart b hb
      exact ⟨a, ha, hkeys a ha _ hkey, hvalues a ha _ hvalue⟩
  | tagged name v ih =>
    rw [same_iff] at h ⊢
    cases h with
    | tagged _ h => exact .tagged name (ih (fun es hpart => hv es (.tagged hpart)) h)

end Yaml.Value

end RpcGuard
