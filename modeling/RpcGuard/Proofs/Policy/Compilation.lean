import RpcGuard.Policy.Table
import RpcGuard.Proofs.Outcome

/-!
# What a policy table holds

A table that was compiled answers for the declarations it was compiled from. A service is secured in
the table exactly if it is by a declaration (`isSecured_iff_of_compile`), and a method has a policy
in the table exactly if a declaration annotates it so (`get?_eq_some_iff_of_compile`).

Both come from one induction over the declarations: `lookup_of_compileAfter` says which entry a
service has, and needs that no name comes twice (`name_notMem_of_compileAfter`).
-/

namespace RpcGuard

namespace Dictionary

variable {α β ε : Type} [DecidableEq α]

/-- With each key once, the first value of a key is the last. -/
theorem lookup_eq_lastValue? {ps : List (α × β)} (h : (ps.map Prod.fst).Nodup) (k : α) :
    ps.lookup k = lastValue? k ps := by
  induction ps with
  | nil => rfl
  | cons p ps ih =>
    obtain ⟨k', v⟩ := p
    obtain ⟨hk', hps⟩ := List.nodup_cons.mp h
    by_cases hk : k = k'
    · subst hk
      have hnone : lastValue? k ps = none := by
        rw [← Option.not_isSome_iff_eq_none, isSome_lastValue?_iff]
        exact hk'
      rw [List.lookup_cons_self, lastValue?, hnone]
      exact (if_pos rfl).symm
    · have hbeq : (k == k') = false := beq_eq_false_iff_ne.mpr hk
      rw [List.lookup_cons, hbeq, lastValue?, ih hps]
      cases lastValue? k ps with
      | some w => rfl
      | none => exact (if_neg (Ne.symm hk)).symm

@[simp] theorem lookup_lastOfEach (k : α) (ps : List (α × β)) :
    (lastOfEach ps).lookup k = lastValue? k ps := by
  rw [lookup_eq_lastValue? (nodup_lastOfEach ps), lastValue?_lastOfEach]

/-- A dictionary made by computing a value for each key of a list holds those values. -/
theorem lastValue?_of_mapM {g : α → Except ε β} {ks : List α} {ps : List (α × β)}
    (h : (ks.mapM fun k => do return (k, ← g k)) = .ok ps) {k : α} {v : β} :
    lastValue? k ps = some v ↔ k ∈ ks ∧ g k = .ok v := by
  induction ks generalizing ps v with
  | nil =>
    obtain rfl : [] = ps := Except.ok.inj h
    simp [lastValue?]
  | cons k' ks ih =>
    obtain ⟨p, ps', hp, hps', rfl⟩ := Outcome.mapM_cons_eq_ok_iff.mp h
    obtain ⟨w, hw, hp⟩ := Outcome.bind_eq_ok_iff.mp hp
    obtain rfl := Except.ok.inj hp
    cases hlast : lastValue? k ps' with
    | some u =>
      -- the key comes again, with the value that is computed for it here as well
      obtain ⟨hmem, hu⟩ := (ih hps').mp hlast
      simp only [lastValue?, hlast, Option.some.injEq]
      constructor
      · rintro rfl
        exact ⟨List.mem_cons_of_mem _ hmem, hu⟩
      · rintro ⟨-, hv⟩
        exact Except.ok.inj (hu.symm.trans hv)
    | none =>
      have hnot : ¬(k ∈ ks ∧ g k = .ok v) := by
        rw [← ih hps', hlast]
        exact Option.some_ne_none v ∘ Eq.symm
      simp only [lastValue?, hlast]
      by_cases hk : k' = k
      · subst hk
        rw [if_pos rfl, Option.some.injEq]
        constructor
        · rintro rfl
          exact ⟨List.mem_cons_self, hw⟩
        · rintro ⟨-, hv⟩
          exact Except.ok.inj (hw.symm.trans hv)
      · rw [if_neg hk]
        constructor
        · intro hv
          cases hv
        · rintro ⟨hmem, hv⟩
          rcases List.mem_cons.mp hmem with rfl | hmem
          · exact absurd rfl hk
          · exact absurd ⟨hmem, hv⟩ hnot

end Dictionary

namespace ServiceDeclaration

/-- A method of the protocol has a policy exactly if one method of the implementation matches it,
and is annotated with the policy. -/
theorem policyOf_eq_ok_iff {d : ServiceDeclaration} {rpc : String} {p : AccessPolicy} :
    d.policyOf rpc = .ok p ↔ ∃ m, d.candidates rpc = [m] ∧ m.policy = some p := by
  unfold policyOf
  cases hc : d.candidates rpc with
  | nil => simp
  | cons m ms =>
    cases ms with
    | cons m' ms => simp
    | nil => cases hm : m.policy <;> simp [hm]

/-- The policies of a declaration are those of the methods that it lists. -/
theorem lookup_of_policies {d : ServiceDeclaration} {methods : List (String × AccessPolicy)}
    (h : d.policies = .ok methods) {rpc : String} {p : AccessPolicy} :
    methods.lookup rpc = some p ↔ rpc ∈ d.rpcMethods ∧ d.policyOf rpc = .ok p := by
  obtain ⟨all, hall, h⟩ := Outcome.bind_eq_ok_iff.mp h
  cases horphan : d.orphan? with
  | some m =>
    rw [horphan] at h
    cases h
  | none =>
    rw [horphan] at h
    obtain rfl := Except.ok.inj h
    rw [Dictionary.lookup_lastOfEach]
    exact Dictionary.lastValue?_of_mapM hall

end ServiceDeclaration

/-- A secured declaration has the name. -/
def SecuredBy (ds : List ServiceDeclaration) (service : String) : Prop :=
  ∃ d ∈ ds, d.secured = true ∧ d.name = service

/-- The secured declaration with the name lists the method, and the one method of its implementation
that matches is annotated with the policy. -/
def AnnotatedBy (ds : List ServiceDeclaration) (service method : String) (p : AccessPolicy) :
    Prop :=
  ∃ d ∈ ds, d.secured = true ∧ d.name = service ∧ method ∈ d.rpcMethods ∧
    ∃ m, d.candidates method = [m] ∧ m.policy = some p

/-- An annotated method belongs to a secured service. -/
theorem AnnotatedBy.secured {ds : List ServiceDeclaration} {service method : String}
    {p : AccessPolicy} (h : AnnotatedBy ds service method p) : SecuredBy ds service := by
  obtain ⟨d, hd, hsec, hname, -⟩ := h
  exact ⟨d, hd, hsec, hname⟩

namespace PolicyTable

variable {seen : List String} {ds : List ServiceDeclaration} {t : PolicyTable}

/-- The shapes of a successful compilation: the head is new, and it is either compiled or passed
over. -/
theorem compileAfter_cons_eq_ok {d : ServiceDeclaration}
    (h : compileAfter seen (d :: ds) = .ok t) :
    d.name ∉ seen ∧
      ((d.secured = true ∧ ∃ methods rest, d.policies = .ok methods ∧
          compileAfter (d.name :: seen) ds = .ok rest ∧
          t = ⟨(d.name, methods) :: rest.services⟩) ∨
        (d.secured = false ∧ compileAfter (d.name :: seen) ds = .ok t)) := by
  unfold compileAfter at h
  split at h
  · cases h
  · next hseen =>
    refine ⟨hseen, ?_⟩
    split at h
    · next hsec =>
      obtain ⟨methods, hmethods, h⟩ := Outcome.bind_eq_ok_iff.mp h
      obtain ⟨rest, hrest, h⟩ := Outcome.bind_eq_ok_iff.mp h
      exact .inl ⟨hsec, methods, rest, hmethods, hrest, (Except.ok.inj h).symm⟩
    · next hsec => exact .inr ⟨Bool.eq_false_iff.mpr hsec, h⟩

/-- No declaration of a successful compilation has a name that was seen before. -/
theorem name_notMem_of_compileAfter (h : compileAfter seen ds = .ok t) :
    ∀ d ∈ ds, d.name ∉ seen := by
  induction ds generalizing seen t with
  | nil => simp
  | cons d ds ih =>
    obtain ⟨hd, h⟩ := compileAfter_cons_eq_ok h
    have hrest : ∃ t', compileAfter (d.name :: seen) ds = .ok t' := by
      rcases h with ⟨-, -, rest, -, hrest, -⟩ | ⟨-, hrest⟩
      · exact ⟨rest, hrest⟩
      · exact ⟨t, hrest⟩
    obtain ⟨t', ht'⟩ := hrest
    intro d' hd'
    rcases List.mem_cons.mp hd' with rfl | hmem
    · exact hd
    · exact fun hseen => ih ht' d' hmem (List.mem_cons_of_mem _ hseen)

/-- The entry of a service holds the policies of the secured declaration with its name. -/
theorem lookup_of_compileAfter (h : compileAfter seen ds = .ok t) {service : String}
    {methods : List (String × AccessPolicy)} :
    t.services.lookup service = some methods ↔
      ∃ d ∈ ds, d.secured = true ∧ d.name = service ∧ d.policies = .ok methods := by
  induction ds generalizing seen t with
  | nil =>
    obtain rfl := Except.ok.inj h
    simp
  | cons d ds ih =>
    obtain ⟨-, ⟨hsec, own, rest, hown, hrest, rfl⟩ | ⟨hsec, hrest⟩⟩ := compileAfter_cons_eq_ok h
    · rw [List.lookup_cons]
      by_cases hname : service = d.name
      · subst hname
        rw [beq_self_eq_true]
        constructor
        · intro hm
          obtain rfl := Option.some.inj hm
          exact ⟨d, List.mem_cons_self, hsec, rfl, hown⟩
        · rintro ⟨d', hd', -, hname', hm⟩
          rcases List.mem_cons.mp hd' with rfl | hmem
          · exact congrArg some (Except.ok.inj (hown.symm.trans hm))
          · have hfresh := name_notMem_of_compileAfter hrest d' hmem
            rw [hname'] at hfresh
            exact absurd List.mem_cons_self hfresh
      · rw [beq_eq_false_iff_ne.mpr hname, ih hrest]
        simp [Ne.symm hname]
    · rw [ih hrest]
      simp [hsec]

/-- Every secured declaration of a successful compilation was compiled. -/
theorem policies_of_compileAfter (h : compileAfter seen ds = .ok t) :
    ∀ d ∈ ds, d.secured = true → ∃ methods, d.policies = .ok methods := by
  induction ds generalizing seen t with
  | nil => simp
  | cons d ds ih =>
    intro d' hd' hsec'
    obtain ⟨-, ⟨-, own, rest, hown, hrest, -⟩ | ⟨hsec, hrest⟩⟩ := compileAfter_cons_eq_ok h
    · rcases List.mem_cons.mp hd' with rfl | hmem
      · exact ⟨own, hown⟩
      · exact ih hrest d' hmem hsec'
    · rcases List.mem_cons.mp hd' with rfl | hmem
      · rw [hsec] at hsec'
        cases hsec'
      · exact ih hrest d' hmem hsec'

theorem isSecured_iff_of_compile (h : compile ds = .ok t) {service : String} :
    t.isSecured service = true ↔ SecuredBy ds service := by
  unfold isSecured SecuredBy
  rw [Option.isSome_iff_exists]
  constructor
  · rintro ⟨methods, hm⟩
    obtain ⟨d, hd, hsec, hname, -⟩ := (lookup_of_compileAfter h).mp hm
    exact ⟨d, hd, hsec, hname⟩
  · rintro ⟨d, hd, hsec, hname⟩
    obtain ⟨methods, hm⟩ := policies_of_compileAfter h d hd hsec
    exact ⟨methods, (lookup_of_compileAfter h).mpr ⟨d, hd, hsec, hname, hm⟩⟩

theorem get?_eq_some_iff_of_compile (h : compile ds = .ok t) {service method : String}
    {p : AccessPolicy} :
    t.get? service method = some p ↔ AnnotatedBy ds service method p := by
  unfold get?
  constructor
  · intro hget
    cases hlookup : t.services.lookup service with
    | none =>
      rw [hlookup] at hget
      cases hget
    | some methods =>
      rw [hlookup] at hget
      obtain ⟨d, hd, hsec, hname, hm⟩ := (lookup_of_compileAfter h).mp hlookup
      obtain ⟨hmem, hp⟩ := (ServiceDeclaration.lookup_of_policies hm).mp hget
      exact ⟨d, hd, hsec, hname, hmem, ServiceDeclaration.policyOf_eq_ok_iff.mp hp⟩
  · rintro ⟨d, hd, hsec, hname, hmem, hp⟩
    obtain ⟨methods, hm⟩ := policies_of_compileAfter h d hd hsec
    rw [(lookup_of_compileAfter h).mpr ⟨d, hd, hsec, hname, hm⟩]
    exact (ServiceDeclaration.lookup_of_policies hm).mpr
      ⟨hmem, ServiceDeclaration.policyOf_eq_ok_iff.mpr hp⟩

end PolicyTable

end RpcGuard
