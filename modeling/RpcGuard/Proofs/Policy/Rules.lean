import Mathlib.Data.List.Dedup
import RpcGuard.Proofs.Policy.Compilation

/-!
# The rules for declarations

What declarations must be like, said without the compiler: no name comes twice, and in a secured
declaration each method of the protocol is implemented by one method, which is annotated, and each
annotated method implements some method of the protocol (`WellDeclared`).

`PolicyTable.compile_enforces_rules` says that compilation enforces these rules and no others. Where
they hold there is a table, and it holds what the declarations say and nothing else. Where they do
not, the fault is one of the first declaration that breaks a rule, and names a method that breaks it
(`Breaks`).
-/

namespace RpcGuard

namespace Dictionary

variable {α β ε : Type} [DecidableEq α]

/-- Of a key that comes again, the last pair is kept. -/
theorem keys_lastOfEach (ps : List (α × β)) :
    (lastOfEach ps).map Prod.fst = (ps.map Prod.fst).dedup := by
  induction ps with
  | nil => rfl
  | cons p ps ih =>
    obtain ⟨k, v⟩ := p
    by_cases h : (lastValue? k ps).isSome
    · have hmem : k ∈ ps.map Prod.fst := isSome_lastValue?_iff.mp h
      rw [lastOfEach, if_pos h, List.map_cons, List.dedup_cons_of_mem hmem, ih]
    · have hmem : k ∉ ps.map Prod.fst := fun hmem => h (isSome_lastValue?_iff.mpr hmem)
      rw [lastOfEach, if_neg h, List.map_cons, List.map_cons, List.dedup_cons_of_notMem hmem, ih]

omit [DecidableEq α] in
/-- A dictionary made by computing a value for each key of a list has these keys. -/
theorem keys_of_mapM {g : α → Except ε β} {ks : List α} {ps : List (α × β)}
    (h : (ks.mapM fun k => do return (k, ← g k)) = .ok ps) : ps.map Prod.fst = ks := by
  induction ks generalizing ps with
  | nil =>
    obtain rfl : [] = ps := Except.ok.inj h
    rfl
  | cons k ks ih =>
    obtain ⟨p, ps', hp, hps', rfl⟩ := Outcome.mapM_cons_eq_ok_iff.mp h
    obtain ⟨v, -, hp⟩ := Outcome.bind_eq_ok_iff.mp hp
    obtain rfl := Except.ok.inj hp
    rw [List.map_cons, ih hps']

end Dictionary

/-! ## The rules of a declaration -/

namespace ServiceDeclaration

variable {d : ServiceDeclaration} {rpc : String}

/-- This method of the implementation, and no other, matches the method of the protocol. -/
def Implements (d : ServiceDeclaration) (m : MethodDeclaration) (rpc : String) : Prop :=
  ∃ before after, d.implementation = before ++ m :: after ∧ methodKey m.name = methodKey rpc ∧
    ∀ m' ∈ before ++ after, methodKey m'.name ≠ methodKey rpc

/-- Each method of the protocol is implemented by an annotated method, and each annotated method
matches a method of the protocol. -/
structure Annotated (d : ServiceDeclaration) : Prop where
  implemented : ∀ rpc ∈ d.rpcMethods, ∃ m p, d.Implements m rpc ∧ m.policy = some p
  matched : ∀ m ∈ d.implementation, m.policy.isSome = true →
    ∃ rpc ∈ d.rpcMethods, methodKey rpc = methodKey m.name

/-- One candidate means one implementation. -/
theorem candidates_eq_singleton_iff {m : MethodDeclaration} :
    d.candidates rpc = [m] ↔ d.Implements m rpc := by
  unfold candidates Implements
  rw [List.filter_eq_cons_iff]
  constructor
  · rintro ⟨before, after, hsplit, hbefore, hm, hafter⟩
    refine ⟨before, after, hsplit, of_decide_eq_true hm, fun m' hm' heq => ?_⟩
    rcases List.mem_append.mp hm' with hmem | hmem
    · exact hbefore m' hmem (decide_eq_true heq)
    · exact List.filter_eq_nil_iff.mp hafter m' hmem (decide_eq_true heq)
  · rintro ⟨before, after, hsplit, hm, hothers⟩
    refine ⟨before, after, hsplit, fun m' hmem heq => ?_, decide_eq_true hm, ?_⟩
    · exact hothers m' (List.mem_append_left _ hmem) (of_decide_eq_true heq)
    · refine List.filter_eq_nil_iff.mpr fun m' hmem heq => ?_
      exact hothers m' (List.mem_append_right _ hmem) (of_decide_eq_true heq)

theorem policyOf_eq_ok_iff_implements {p : AccessPolicy} :
    d.policyOf rpc = .ok p ↔ ∃ m, d.Implements m rpc ∧ m.policy = some p := by
  rw [policyOf_eq_ok_iff]
  exact exists_congr fun m => and_congr_left fun _ => candidates_eq_singleton_iff

/-- No orphan is found exactly if each annotated method matches a method of the protocol. -/
theorem orphan?_eq_none_iff :
    d.orphan? = none ↔ ∀ m ∈ d.implementation, m.policy.isSome = true →
      ∃ rpc ∈ d.rpcMethods, methodKey rpc = methodKey m.name := by
  unfold orphan?
  rw [List.find?_eq_none]
  refine forall₂_congr fun m _ => ?_
  rw [Bool.and_eq_true, not_and, Bool.not_eq_true', Bool.not_eq_false, List.any_eq_true]
  simp only [decide_eq_true_eq]

/-- A declaration has policies exactly if it keeps the rules. -/
theorem exists_policies_eq_ok_iff : (∃ methods, d.policies = .ok methods) ↔ d.Annotated := by
  have hpass : (∃ all, (d.rpcMethods.mapM fun rpc => do return (rpc, ← d.policyOf rpc)) = .ok all) ↔
      ∀ rpc ∈ d.rpcMethods, ∃ m p, d.Implements m rpc ∧ m.policy = some p := by
    rw [Outcome.exists_mapM_eq_ok_iff]
    refine forall₂_congr fun rpc _ => ?_
    constructor
    · rintro ⟨pair, h⟩
      obtain ⟨p, hp, -⟩ := Outcome.bind_eq_ok_iff.mp h
      obtain ⟨m, hm, hpolicy⟩ := policyOf_eq_ok_iff_implements.mp hp
      exact ⟨m, p, hm, hpolicy⟩
    · rintro ⟨m, p, hm, hpolicy⟩
      have hp := policyOf_eq_ok_iff_implements.mpr ⟨m, hm, hpolicy⟩
      exact ⟨(rpc, p), Outcome.bind_eq_ok_iff.mpr ⟨p, hp, rfl⟩⟩
  constructor
  · rintro ⟨methods, h⟩
    obtain ⟨all, hall, h⟩ := Outcome.bind_eq_ok_iff.mp h
    refine ⟨hpass.mp ⟨all, hall⟩, orphan?_eq_none_iff.mp ?_⟩
    cases horphan : d.orphan? with
    | none => rfl
    | some m =>
      rw [horphan] at h
      cases h
  · rintro ⟨himplemented, hmatched⟩
    obtain ⟨all, hall⟩ := hpass.mpr himplemented
    refine ⟨Dictionary.lastOfEach all, Outcome.bind_eq_ok_iff.mpr ⟨all, hall, ?_⟩⟩
    rw [orphan?_eq_none_iff.mpr hmatched]
    rfl

/-- The policies of a declaration are those of its distinct methods. -/
theorem keys_of_policies {methods : List (String × AccessPolicy)}
    (h : d.policies = .ok methods) : methods.map Prod.fst = d.rpcMethods.dedup := by
  obtain ⟨all, hall, h⟩ := Outcome.bind_eq_ok_iff.mp h
  cases horphan : d.orphan? with
  | some m =>
    rw [horphan] at h
    cases h
  | none =>
    rw [horphan] at h
    obtain rfl := Except.ok.inj h
    rw [Dictionary.keys_lastOfEach, Dictionary.keys_of_mapM hall]

end ServiceDeclaration

/-! ## The rules of all declarations -/

/-- Declarations that keep the rules. -/
structure WellDeclared (ds : List ServiceDeclaration) : Prop where
  distinct : (ds.map ServiceDeclaration.name).Nodup
  annotated : ∀ d ∈ ds, d.secured = true → d.Annotated

/-- The declaration breaks a rule in the way that the fault says, after declarations with the names
`earlier`. -/
inductive Breaks (earlier : List String) (d : ServiceDeclaration) : PolicyFault → Prop where
  | duplicate : d.name ∈ earlier → Breaks earlier d (.duplicateService d.name)
  | unmatched {rpc : String} : d.secured = true → rpc ∈ d.rpcMethods →
      (∀ m ∈ d.implementation, methodKey m.name ≠ methodKey rpc) →
      Breaks earlier d (.unmatchedMethod d.name rpc)
  | ambiguous {rpc : String} {m m' : MethodDeclaration} : d.secured = true → rpc ∈ d.rpcMethods →
      [m, m'].Sublist d.implementation → methodKey m.name = methodKey rpc →
      methodKey m'.name = methodKey rpc → Breaks earlier d (.ambiguousMethod d.name rpc)
  | unannotated {rpc : String} {m : MethodDeclaration} : d.secured = true → rpc ∈ d.rpcMethods →
      d.Implements m rpc → m.policy = none → Breaks earlier d (.unannotated d.name m.name)
  | orphan {m : MethodDeclaration} : d.secured = true → m ∈ d.implementation →
      m.policy.isSome = true → (∀ rpc ∈ d.rpcMethods, methodKey rpc ≠ methodKey m.name) →
      Breaks earlier d (.orphan d.name m.name)

theorem Breaks.mono {earlier earlier' : List String} {d : ServiceDeclaration} {fault : PolicyFault}
    (h : Breaks earlier d fault) (hsub : earlier ⊆ earlier') : Breaks earlier' d fault := by
  cases h with
  | duplicate hname => exact .duplicate (hsub hname)
  | unmatched hsec hrpc hnone => exact .unmatched hsec hrpc hnone
  | ambiguous hsec hrpc htwo hm hm' => exact .ambiguous hsec hrpc htwo hm hm'
  | unannotated hsec hrpc himpl hpolicy => exact .unannotated hsec hrpc himpl hpolicy
  | orphan hsec hm hpolicy hnone => exact .orphan hsec hm hpolicy hnone

/-- The first declaration that breaks a rule, and a way in which it does. -/
def BrokenFirst (ds : List ServiceDeclaration) (fault : PolicyFault) : Prop :=
  ∃ before d after, ds = before ++ d :: after ∧ WellDeclared before ∧
    Breaks (before.map ServiceDeclaration.name) d fault

namespace ServiceDeclaration

variable {d : ServiceDeclaration} {fault : PolicyFault} {earlier : List String}

/-- A method of the protocol without a policy breaks a rule. -/
theorem breaks_of_policyOf {rpc : String} (hsec : d.secured = true) (hrpc : rpc ∈ d.rpcMethods)
    (h : d.policyOf rpc = .error fault) : Breaks earlier d fault := by
  have hkey : ∀ m ∈ d.candidates rpc, methodKey m.name = methodKey rpc := by
    intro m hm
    exact of_decide_eq_true (List.mem_filter.mp hm).2
  unfold policyOf at h
  cases hc : d.candidates rpc with
  | nil =>
    rw [hc] at h
    obtain rfl := Except.error.inj h
    refine .unmatched hsec hrpc fun m hm heq => ?_
    exact List.filter_eq_nil_iff.mp hc m hm (decide_eq_true heq)
  | cons m ms =>
    rw [hc] at h hkey
    cases ms with
    | nil =>
      dsimp only at h
      cases hpolicy : m.policy with
      | some p =>
        rw [hpolicy] at h
        cases h
      | none =>
        rw [hpolicy] at h
        obtain rfl := Except.error.inj h
        exact .unannotated hsec hrpc (candidates_eq_singleton_iff.mp hc) hpolicy
    | cons m' ms =>
      obtain rfl := Except.error.inj h
      have htwo : [m, m'].Sublist d.implementation := by
        have hall : (m :: m' :: ms).Sublist d.implementation := hc ▸ List.filter_sublist
        exact List.Sublist.trans (((List.nil_sublist ms).cons_cons m').cons_cons m) hall
      exact .ambiguous hsec hrpc htwo (hkey m (by simp)) (hkey m' (by simp))

/-- A secured declaration without policies breaks a rule. -/
theorem breaks_of_policies (hsec : d.secured = true) (h : d.policies = .error fault) :
    Breaks earlier d fault := by
  rcases Outcome.bind_eq_error_iff.mp h with hpass | ⟨all, -, h⟩
  · obtain ⟨rpc, hrpc, hpair⟩ := Outcome.exists_of_mapM_eq_error hpass
    rcases Outcome.bind_eq_error_iff.mp hpair with hpolicy | ⟨p, -, hpair⟩
    · exact breaks_of_policyOf hsec hrpc hpolicy
    · cases hpair
  · cases horphan : d.orphan? with
    | none =>
      rw [horphan] at h
      cases h
    | some m =>
      rw [horphan] at h
      obtain rfl := Except.error.inj h
      have hfound := List.find?_some horphan
      rw [Bool.and_eq_true, Bool.not_eq_true', List.any_eq_false] at hfound
      refine .orphan hsec (List.mem_of_find?_eq_some horphan) hfound.1 fun rpc hrpc heq => ?_
      exact hfound.2 rpc hrpc (decide_eq_true heq)

end ServiceDeclaration

/-- Declarations with one that breaks a rule do not keep the rules. -/
theorem BrokenFirst.not_wellDeclared {ds : List ServiceDeclaration} {fault : PolicyFault}
    (h : BrokenFirst ds fault) : ¬WellDeclared ds := by
  obtain ⟨before, d, after, rfl, -, hbreaks⟩ := h
  rintro ⟨hdistinct, hannotated⟩
  have hd : d ∈ before ++ d :: after := List.mem_append_right _ List.mem_cons_self
  cases hbreaks with
  | duplicate hname =>
    rw [List.map_append, List.nodup_append] at hdistinct
    exact hdistinct.2.2 _ hname _ (List.mem_map_of_mem List.mem_cons_self) rfl
  | @unmatched rpc hsec hrpc hnone =>
    obtain ⟨m, -, ⟨pre, post, hsplit, hkey, -⟩, -⟩ := (hannotated d hd hsec).implemented rpc hrpc
    exact hnone m (by simp [hsplit]) hkey
  | @ambiguous rpc m m' hsec hrpc htwo hm hm' =>
    obtain ⟨i, -, hi, -⟩ := (hannotated d hd hsec).implemented rpc hrpc
    -- a list with two candidates for members is no list of one
    have hcandidates := ServiceDeclaration.candidates_eq_singleton_iff.mpr hi
    have hfilter := htwo.filter fun m => decide (methodKey m.name = methodKey rpc)
    have hlength : 2 ≤ (d.candidates rpc).length := by
      unfold ServiceDeclaration.candidates
      simpa [hm, hm'] using hfilter.length_le
    rw [hcandidates, List.length_singleton] at hlength
    omega
  | @unannotated rpc m hsec hrpc himpl hpolicy =>
    obtain ⟨i, p, hi, hp⟩ := (hannotated d hd hsec).implemented rpc hrpc
    have hcandidates := ServiceDeclaration.candidates_eq_singleton_iff.mpr hi
    rw [ServiceDeclaration.candidates_eq_singleton_iff.mpr himpl] at hcandidates
    obtain rfl := List.head_eq_of_cons_eq hcandidates
    rw [hpolicy] at hp
    cases hp
  | @orphan m hsec hm hpolicy hnone =>
    obtain ⟨rpc, hrpc, hkey⟩ := (hannotated d hd hsec).matched m hm hpolicy
    exact hnone rpc hrpc hkey

/-! ## Compilation -/

namespace PolicyTable

variable {seen : List String} {ds : List ServiceDeclaration} {t : PolicyTable}

/-- Declarations that compile keep the rules. -/
theorem wellDeclared_of_compileAfter (h : compileAfter seen ds = .ok t) : WellDeclared ds := by
  refine ⟨?_, fun d hd hsec => ?_⟩
  · induction ds generalizing seen t with
    | nil => exact List.nodup_nil
    | cons d ds ih =>
      obtain ⟨-, h⟩ := compileAfter_cons_eq_ok h
      obtain ⟨t', ht'⟩ : ∃ t', compileAfter (d.name :: seen) ds = .ok t' := by
        rcases h with ⟨-, -, rest, -, hrest, -⟩ | ⟨-, hrest⟩
        · exact ⟨rest, hrest⟩
        · exact ⟨t, hrest⟩
      refine List.nodup_cons.mpr ⟨fun hmem => ?_, ih ht'⟩
      obtain ⟨d', hd', hname⟩ := List.mem_map.mp hmem
      exact name_notMem_of_compileAfter ht' d' hd' (hname ▸ List.mem_cons_self)
  · exact ServiceDeclaration.exists_policies_eq_ok_iff.mp (policies_of_compileAfter h d hd hsec)

/-- The shapes of a failed compilation: the head breaks a rule, or it keeps them and the rest does
not compile. -/
theorem compileAfter_cons_eq_error {d : ServiceDeclaration} {fault : PolicyFault}
    (h : compileAfter seen (d :: ds) = .error fault) :
    Breaks seen d fault ∨ d.name ∉ seen ∧ (d.secured = true → d.Annotated) ∧
      compileAfter (d.name :: seen) ds = .error fault := by
  unfold compileAfter at h
  split at h
  · next hseen =>
    obtain rfl := Except.error.inj h
    exact .inl (.duplicate hseen)
  · next hseen =>
    split at h
    · next hsec =>
      rcases Outcome.bind_eq_error_iff.mp h with hpolicies | ⟨methods, hmethods, h⟩
      · exact .inl (ServiceDeclaration.breaks_of_policies hsec hpolicies)
      · rcases Outcome.bind_eq_error_iff.mp h with hrest | ⟨rest, -, h⟩
        · have hannotated := ServiceDeclaration.exists_policies_eq_ok_iff.mp ⟨methods, hmethods⟩
          exact .inr ⟨hseen, fun _ => hannotated, hrest⟩
        · cases h
    · next hsec => exact .inr ⟨hseen, fun hsec' => absurd hsec' hsec, h⟩

/-- A failed compilation reports the first declaration that breaks a rule. -/
theorem broken_of_compileAfter {fault : PolicyFault} (h : compileAfter seen ds = .error fault) :
    ∃ before d after, ds = before ++ d :: after ∧ WellDeclared before ∧
      (∀ e ∈ before, e.name ∉ seen) ∧
      Breaks (seen ++ before.map ServiceDeclaration.name) d fault := by
  induction ds generalizing seen with
  | nil => cases h
  | cons d ds ih =>
    rcases compileAfter_cons_eq_error h with hbreaks | ⟨hseen, hannotated, hrest⟩
    · refine ⟨[], d, ds, rfl, ⟨List.nodup_nil, fun e he => absurd he List.not_mem_nil⟩,
        fun e he => absurd he List.not_mem_nil, hbreaks.mono ?_⟩
      exact List.subset_append_left _ _
    · obtain ⟨before, d', after, rfl, hbefore, hfresh, hbreaks⟩ := ih hrest
      refine ⟨d :: before, d', after, rfl, ⟨?_, ?_⟩, ?_, hbreaks.mono ?_⟩
      · refine List.nodup_cons.mpr ⟨fun hmem => ?_, hbefore.distinct⟩
        obtain ⟨e, he, hname⟩ := List.mem_map.mp hmem
        exact hfresh e he (hname ▸ List.mem_cons_self)
      · exact List.forall_mem_cons.mpr ⟨hannotated, hbefore.annotated⟩
      · exact List.forall_mem_cons.mpr
          ⟨hseen, fun e he hmem => hfresh e he (List.mem_cons_of_mem _ hmem)⟩
      · -- the name of the head moves from the names seen to those of the declarations before
        intro name hname
        rw [List.map_cons, List.mem_append, List.mem_cons]
        rcases List.mem_append.mp hname with hmem | hmem
        · rcases List.mem_cons.mp hmem with rfl | hmem
          · exact .inr (.inl rfl)
          · exact .inl hmem
        · exact .inr (.inr hmem)

theorem brokenFirst_of_compile {fault : PolicyFault} (h : compile ds = .error fault) :
    BrokenFirst ds fault := by
  obtain ⟨before, d, after, hsplit, hbefore, -, hbreaks⟩ := broken_of_compileAfter h
  exact ⟨before, d, after, hsplit, hbefore, hbreaks⟩

/-- The table has one policy for each distinct method of each secured service. -/
theorem size_of_compileAfter (h : compileAfter seen ds = .ok t) :
    t.size = ((ds.filter (·.secured)).flatMap fun d => d.rpcMethods.dedup).length := by
  unfold size
  induction ds generalizing seen t with
  | nil =>
    obtain rfl := Except.ok.inj h
    rfl
  | cons d ds ih =>
    obtain ⟨-, ⟨hsec, own, rest, hown, hrest, rfl⟩ | ⟨hsec, hrest⟩⟩ := compileAfter_cons_eq_ok h
    · have hlength : own.length = d.rpcMethods.dedup.length := by
        rw [← ServiceDeclaration.keys_of_policies hown, List.length_map]
      rw [List.filter_cons_of_pos hsec, List.flatMap_cons, List.flatMap_cons, List.length_append,
        List.length_append, ih hrest, hlength]
    · rw [List.filter_cons_of_neg (by simp [hsec]), ih hrest]

/-- **Exactness of compilation**: declarations compile exactly if they keep the rules. The table
then secures the services that are declared so, gives each of their methods the policy of the method
that implements it, and has nothing else in it. Otherwise the fault is one of the first declaration
that breaks a rule. -/
theorem compile_enforces_rules (ds : List ServiceDeclaration) :
    ((∃ t, compile ds = .ok t) ↔ WellDeclared ds) ∧
      (∀ t, compile ds = .ok t →
        (∀ service, t.isSecured service = true ↔ ∃ d ∈ ds, d.secured = true ∧ d.name = service) ∧
        (∀ service method p, t.get? service method = some p ↔
          ∃ d ∈ ds, d.secured = true ∧ d.name = service ∧ method ∈ d.rpcMethods ∧
            ∃ m, d.Implements m method ∧ m.policy = some p) ∧
        t.size = ((ds.filter (·.secured)).flatMap fun d => d.rpcMethods.dedup).length) ∧
      ∀ fault, compile ds = .error fault → BrokenFirst ds fault := by
  refine ⟨⟨fun ⟨t, h⟩ => wellDeclared_of_compileAfter h, fun hwell => ?_⟩,
    fun t h => ⟨fun service => isSecured_iff_of_compile h, fun service method p => ?_,
      size_of_compileAfter h⟩,
    fun fault h => brokenFirst_of_compile h⟩
  · cases h : compile ds with
    | ok t => exact ⟨t, rfl⟩
    | error fault => exact absurd hwell (brokenFirst_of_compile h).not_wellDeclared
  · rw [get?_eq_some_iff_of_compile h]
    unfold AnnotatedBy
    simp only [ServiceDeclaration.candidates_eq_singleton_iff]

/-- Two methods of a protocol whose names differ in case and underscores share an implementation. -/
example : compile [⟨"shop.Orders", true, ["Get", "get_"], [⟨"_GET", some .deny⟩, ⟨"help", none⟩]⟩] =
    .ok ⟨[("shop.Orders", [("Get", .deny), ("get_", .deny)])]⟩ := by decide +kernel

end PolicyTable

end RpcGuard
