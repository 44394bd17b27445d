import RpcGuard.Proofs.Claims.Entries
import RpcGuard.Proofs.Equality
import RpcGuard.Proofs.Number

/-!
# Accepted payloads

Which objects have claims. Three things are wrong with one that has none: a typed claim is there
twice, a text is no string, or a date is no number in the range of dates (`Claims.Refused`). Roles
are never wrong. All other members are kept as they are, and they have no part in the typed claims
(`Claims.payload_claims`).

Members are taken in one after another, so each fact is proved for the draft before a list of
members and the draft behind it (`Draft.TakesAll`).
-/

namespace RpcGuard

namespace Dictionary

variable {α β γ : Type} [DecidableEq α]

/-- What is done to all values is done to the last one of a key. -/
theorem lastValue?_map_snd (g : β → γ) (k : α) (ps : List (α × β)) :
    lastValue? k (ps.map fun p => (p.1, g p.2)) = (lastValue? k ps).map g := by
  induction ps with
  | nil => rfl
  | cons p ps ih =>
    rw [List.map_cons, lastValue?, lastValue?, ih]
    cases lastValue? k ps with
    | some w => rfl
    | none => by_cases h : p.1 = k <;> simp [h]

/-- Of the pairs with some of the keys, those keys have their values and the others have none. -/
theorem lastValue?_filter_fst (p : α → Bool) (k : α) (ps : List (α × β)) :
    lastValue? k (ps.filter fun m => p m.1) = if p k then lastValue? k ps else none := by
  induction ps with
  | nil => simp [lastValue?]
  | cons m ps ih =>
    rw [List.filter_cons]
    by_cases hm : p m.1
    · rw [if_pos hm, lastValue?, lastValue?, ih]
      by_cases hk : p k
      · simp [hk]
      · have hne : m.1 ≠ k := fun h => hk (h ▸ hm)
        simp [hk, hne]
    · rw [if_neg hm, ih, lastValue?]
      by_cases hk : p k
      · have hne : m.1 ≠ k := fun h => hm (h ▸ hk)
        cases lastValue? k ps <;> simp [hk, hne]
      · simp [hk]

end Dictionary

/-! ## Texts and dates -/

-- Powers of naturals are those of the core library, whatever else is imported.
attribute [local instance (high)] instPowNat

namespace Json

/-- The value may stand for a text, or for none. -/
def IsText (v : Json) : Prop := v = .null ∨ ∃ s, v = .string s

/-- The value may stand for a date, or for none. -/
def IsDate (v : Json) : Prop := v = .null ∨ ∃ n : Number, v = .number n ∧ n.Within (2 ^ (64 : Nat))

/-- Integers that are kept with their sign are below zero, and have 64 bits. -/
theorem range_of_number? {x : Decimal} {n : Int} (h : number? x = some (.negative n)) :
    -2 ^ (63 : Nat) ≤ n ∧ n < 0 := by
  unfold number? at h
  dsimp only at h
  split at h
  · cases h
  · split at h
    · next hrange =>
      cases h
      omega
    · obtain ⟨y, -, hy⟩ := Option.map_eq_some_iff.mp h
      cases hy

/-- A number is what a numeral is read as. -/
theorem exists_number?_of_ofSyntax? {depth : Nat} {x : Syntax} {n : Number}
    (h : ofSyntax? depth x = some (.number n)) : ∃ y, number? y = some n := by
  cases x with
  | number x =>
    rw [ofSyntax?] at h
    obtain ⟨y, hy, heq⟩ := Option.map_eq_some_iff.mp h
    cases heq
    exact ⟨x, hy⟩
  | null =>
    rw [ofSyntax?] at h
    cases h
  | bool b =>
    rw [ofSyntax?] at h
    cases h
  | string s =>
    rw [ofSyntax?] at h
    obtain ⟨y, -, heq⟩ := Option.map_eq_some_iff.mp h
    cases heq
  | array xs =>
    cases depth with
    | zero =>
      rw [ofSyntax?] at h
      cases h
    | succ depth =>
      rw [ofSyntax?] at h
      obtain ⟨y, -, heq⟩ := Option.map_eq_some_iff.mp h
      cases heq
  | object ms =>
    cases depth with
    | zero =>
      rw [ofSyntax?] at h
      cases h
    | succ depth =>
      rw [ofSyntax?] at h
      obtain ⟨y, -, heq⟩ := Option.map_eq_some_iff.mp h
      cases heq

/-- So are the numbers among the members of an object that is read. -/
theorem exists_number?_of_parse? {payload : Bytes} {members : List (String × Json)}
    (hparse : parse? payload = some (.object members)) :
    ∀ m ∈ members, ∀ n, m.2 = .number n → ∃ y, number? y = some n := by
  obtain ⟨ms, -, hmembers⟩ := parse?_eq_object_iff.mp hparse
  clear hparse
  induction ms generalizing members with
  | nil =>
    obtain rfl := Option.some.inj hmembers
    intro m hm
    cases hm
  | cons x ms ih =>
    obtain ⟨key, x⟩ := x
    rw [ofMembers?] at hmembers
    simp only [Option.bind_eq_bind, Option.bind_eq_some_iff] at hmembers
    obtain ⟨k, -, v, hv, rest, hrest, heq⟩ := hmembers
    obtain rfl := Option.some.inj heq
    intro m hm n hn
    rcases List.mem_cons.mp hm with rfl | hm
    · obtain rfl : v = .number n := hn
      exact exists_number?_of_ofSyntax? hv
    · exact ih hrest m hm n hn

theorem neg_of_parse? {payload : Bytes} {members : List (String × Json)}
    (hparse : parse? payload = some (.object members)) :
    ∀ m ∈ members, ∀ n, m.2 = .number (.negative n) → n < 0 := by
  intro m hm n hn
  obtain ⟨y, hy⟩ := exists_number?_of_parse? hparse m hm _ hn
  exact (range_of_number? hy).2

end Json

namespace Claims

/-- The value fits the typed claim. -/
def Name.Fits (v : Json) : Name → Prop
  | issuer | subject => v.IsText
  | expiry | notBefore | issuedAt => v.IsDate
  | resourceAccess | roles => True

theorem exists_textOf_eq_ok_iff {v : Json} : (∃ x, textOf v = .ok x) ↔ v.IsText := by
  cases v <;> simp [textOf, Json.IsText]

theorem exists_dateOf_eq_ok_iff {v : Json} (hneg : ∀ n, v = .number (.negative n) → n < 0) :
    (∃ x, dateOf v = .ok x) ↔ v.IsDate := by
  cases v with
  | null => simp [dateOf, Json.IsDate]
  | bool b => simp [dateOf, Json.IsDate]
  | string s => simp [dateOf, Json.IsDate]
  | array items => simp [dateOf, Json.IsDate]
  | object members => simp [dateOf, Json.IsDate]
  | number n =>
    simp only [Json.IsDate, reduceCtorEq, false_or, Json.number.injEq, exists_eq_left']
    cases n with
    | natural n =>
      have hlt : ((n.toNat : ℕ) : ℚ) < (2 ^ (64 : Nat) : ℕ) := Nat.cast_lt.mpr n.toNat_lt
      constructor
      · intro _
        exact ⟨n.toNat, rfl, Nat.cast_nonneg _, hlt⟩
      · intro _
        exact ⟨some n, rfl⟩
    | negative n =>
      constructor
      · rintro ⟨x, hx⟩
        cases hx
      · rintro ⟨q, hq, hnonneg, -⟩
        obtain rfl := Option.some.inj hq
        exact absurd (hneg n rfl) (not_lt.mpr (Int.cast_nonneg_iff.mp hnonneg))
    | float x =>
      have hrange : (x.toNatBelow? (2 ^ (64 : Nat))).isSome ↔
          (Number.float x).Within (2 ^ (64 : Nat)) := Binary64.toNatBelow?_isSome_iff
      rw [← hrange]
      unfold dateOf
      dsimp only
      cases x.toNatBelow? (2 ^ (64 : Nat)) with
      | none => simp
      | some n => simp

/-- A typed claim can be set to what fits it. -/
theorem exists_set_eq_ok_iff {c : Claims} {name : Name} {v : Json}
    (hneg : ∀ n, v = .number (.negative n) → n < 0) :
    (∃ c', c.set name v = .ok c') ↔ name.Fits v := by
  -- a claim whose value is read by a reader that may fail is set if that succeeds
  have hreader : ∀ {α : Type} {x : Except Fault α} {g : α → Claims},
      (∃ c', (do return g (← x)) = Except.ok c') ↔ ∃ a, x = .ok a := by
    intro α x g
    constructor
    · rintro ⟨c', h⟩
      obtain ⟨a, ha, -⟩ := Outcome.bind_eq_ok_iff.mp h
      exact ⟨a, ha⟩
    · rintro ⟨a, ha⟩
      exact ⟨g a, Outcome.bind_eq_ok_iff.mpr ⟨a, ha, rfl⟩⟩
  cases name with
  | issuer => exact hreader.trans exists_textOf_eq_ok_iff
  | subject => exact hreader.trans exists_textOf_eq_ok_iff
  | expiry => exact hreader.trans (exists_dateOf_eq_ok_iff hneg)
  | notBefore => exact hreader.trans (exists_dateOf_eq_ok_iff hneg)
  | issuedAt => exact hreader.trans (exists_dateOf_eq_ok_iff hneg)
  | resourceAccess => exact iff_of_true ⟨_, rfl⟩ trivial
  | roles => exact iff_of_true ⟨_, rfl⟩ trivial

/-! ## Acceptance -/

/-- What is wrong with the members of an object that has no claims. -/
inductive Refused (members : List (String × Json)) : Prop where
  | repeated {name : Name} : 1 < (members.map Prod.fst).count name.text → Refused members
  | misfit {name : Name} {v : Json} : (name.text, v) ∈ members → ¬name.Fits v → Refused members

theorem Draft.exists_takes_iff {d : Draft} {m : String × Json}
    (hneg : ∀ n, m.2 = .number (.negative n) → n < 0) :
    (∃ d', d.Takes m d') ↔ ∀ name : Name, m.1 = name.text → name ∉ d.seen ∧ name.Fits m.2 := by
  obtain ⟨key, v⟩ := m
  constructor
  · rintro ⟨d', htakes⟩ name rfl
    generalize hkey : name.text = key at htakes
    cases htakes with
    | @typed name' _ c hseen hset =>
      obtain rfl := Name.text_inj hkey
      exact ⟨hseen, (exists_set_eq_ok_iff hneg).mp ⟨c, hset⟩⟩
    | untyped hnone => exact absurd hkey.symm (hnone name)
  · intro h
    by_cases hkey : ∃ name : Name, key = name.text
    · obtain ⟨name, rfl⟩ := hkey
      obtain ⟨hseen, hfits⟩ := h name rfl
      obtain ⟨c, hset⟩ := (exists_set_eq_ok_iff (c := d.claims) hneg).mpr hfits
      exact ⟨_, .typed hseen hset⟩
    · exact ⟨_, .untyped fun name hname => hkey ⟨name, hname⟩⟩

theorem Draft.Takes.mem_seen_iff {d d' : Draft} {m : String × Json} (h : d.Takes m d')
    {name : Name} : name ∈ d'.seen ↔ m.1 = name.text ∨ name ∈ d.seen := by
  cases h with
  | @typed name' _ c _ _ =>
    have htext : name'.text = name.text ↔ name = name' :=
      ⟨fun h => (Name.text_inj h).symm, fun h => h ▸ rfl⟩
    rw [List.mem_cons, htext]
  | untyped hnone => simp [hnone name]

/-- Members are taken in if no typed claim comes again, and all values fit. -/
theorem Draft.exists_takesAll_iff {d : Draft} {ms : List (String × Json)}
    (hneg : ∀ m ∈ ms, ∀ n, m.2 = .number (.negative n) → n < 0) :
    (∃ d', d.TakesAll ms d') ↔
      (∀ name : Name, (ms.map Prod.fst).count name.text ≤ if name ∈ d.seen then 0 else 1) ∧
        ∀ m ∈ ms, ∀ name : Name, m.1 = name.text → name.Fits m.2 := by
  induction ms generalizing d with
  | nil =>
    refine iff_of_true ⟨d, .nil⟩ ⟨fun name => Nat.zero_le _, fun m hm => ?_⟩
    cases hm
  | cons m ms ih =>
    rw [List.forall_mem_cons] at hneg
    have htakes : (∃ d', d.Takes m d') ↔ _ := exists_takes_iff hneg.1
    -- the first member uses up its own name
    have hcount : ∀ name : Name, ((m :: ms).map Prod.fst).count name.text ≤
          (if name ∈ d.seen then 0 else 1) ↔
        (m.1 = name.text → name ∉ d.seen) ∧ (ms.map Prod.fst).count name.text ≤
          if m.1 = name.text ∨ name ∈ d.seen then 0 else 1 := by
      intro name
      rw [List.map_cons, List.count_cons]
      by_cases hname : m.1 = name.text <;> by_cases hseen : name ∈ d.seen <;> simp [hname, hseen]
    simp only [hcount, List.forall_mem_cons]
    constructor
    · rintro ⟨d'', h⟩
      cases h with
      | @cons _ d₁ _ _ _ hfirst hrest =>
        obtain ⟨hrestCount, hrestFits⟩ := (ih hneg.2).mp ⟨d'', hrest⟩
        simp only [hfirst.mem_seen_iff] at hrestCount
        have h := htakes.mp ⟨d₁, hfirst⟩
        exact ⟨fun name => ⟨fun hname => (h name hname).1, hrestCount name⟩,
          fun name hname => (h name hname).2, hrestFits⟩
    · rintro ⟨hnames, hfits, hrestFits⟩
      obtain ⟨d₁, hfirst⟩ := htakes.mpr fun name hname =>
        ⟨(hnames name).1 hname, hfits name hname⟩
      obtain ⟨d'', hrest⟩ := (ih (d := d₁) hneg.2).mpr ⟨fun name => by
        simpa only [hfirst.mem_seen_iff] using (hnames name).2, hrestFits⟩
      exact ⟨d'', .cons hfirst hrest⟩

/-! ## Other members -/

/-- The text is the name of a typed claim. -/
def isTyped (key : String) : Bool := (Name.ofString? key).isSome

theorem isTyped_text (name : Name) : isTyped name.text = true := by
  unfold isTyped
  rw [name.ofString?_text]
  rfl

theorem isTyped_eq_false_iff {key : String} :
    isTyped key = false ↔ ∀ name : Name, key ≠ name.text := by
  unfold isTyped
  rw [Option.isSome_eq_false_iff, Option.isNone_iff_eq_none, Name.ofString?_eq_none_iff]

/-- The typed claims alone. -/
def typed (c : Claims) : Claims := { c with extra := [] }

/-- What a typed claim is set to does not depend on the other members, and leaves them alone. -/
theorem set_typed {c : Claims} {name : Name} {v : Json} :
    c.typed.set name v = (c.set name v).map typed := by
  cases name with
  | issuer =>
    unfold set
    cases textOf v <;> rfl
  | subject =>
    unfold set
    cases textOf v <;> rfl
  | expiry =>
    unfold set
    cases dateOf v <;> rfl
  | notBefore =>
    unfold set
    cases dateOf v <;> rfl
  | issuedAt =>
    unfold set
    cases dateOf v <;> rfl
  | resourceAccess => rfl
  | roles => rfl

theorem extra_of_set {c c' : Claims} {name : Name} {v : Json} (h : c.set name v = .ok c') :
    c'.extra = c.extra := by
  have hset := of_set h
  cases name with
  | issuer | subject | expiry | notBefore | issuedAt =>
    obtain ⟨x, -, rfl⟩ := hset
    rfl
  | resourceAccess | roles =>
    dsimp only at hset
    rw [hset]

namespace Draft

/-- The draft with the typed claims alone. -/
def typed (d : Draft) : Draft := ⟨d.claims.typed, d.seen⟩

/-- The members that are of no typed claim are kept in their order. -/
theorem TakesAll.extra {d d' : Draft} {ms : List (String × Json)} (h : d.TakesAll ms d') :
    d'.claims.extra =
      d.claims.extra ++ (ms.filter fun m => !isTyped m.1).map fun m => (m.1, m.2.collapse) := by
  induction h with
  | nil => simp
  | @cons d d₁ d' m ms htakes _ ih =>
    rw [ih, List.filter_cons]
    cases htakes with
    | typed _ hset => simp [isTyped_text, extra_of_set hset]
    | untyped hnone => simp [isTyped_eq_false_iff.mpr hnone]

/-- The typed claims come from their own members. -/
theorem takesAll_filter_iff {d e : Draft} {ms : List (String × Json)} :
    d.typed.TakesAll (ms.filter fun m => isTyped m.1) e ↔
      ∃ d', d.TakesAll ms d' ∧ d'.typed = e := by
  induction ms generalizing d with
  | nil =>
    constructor
    · intro h
      cases h
      exact ⟨d, .nil, rfl⟩
    · rintro ⟨d', h, rfl⟩
      cases h
      exact .nil
  | cons m ms ih =>
    obtain ⟨key, v⟩ := m
    rw [List.filter_cons]
    constructor
    · intro h
      split at h
      · next htyped =>
        cases h with
        | @cons _ e₁ _ _ _ htakes hrest =>
          cases htakes with
          | @typed name _ c hseen hset =>
            rw [show d.typed.claims = d.claims.typed from rfl, set_typed] at hset
            obtain ⟨c', hc', rfl⟩ := Outcome.map_eq_ok_iff.mp hset
            obtain ⟨d', hd', he⟩ := (ih (d := ⟨c', name :: d.seen⟩)).mp hrest
            exact ⟨d', .cons (.typed hseen hc') hd', he⟩
          | untyped hnone =>
            rw [isTyped_eq_false_iff.mpr hnone] at htyped
            cases htyped
      · next huntyped =>
        have hnone := isTyped_eq_false_iff.mp (Bool.eq_false_iff.mpr huntyped)
        obtain ⟨d', hd', he⟩ :=
          (ih (d := { d with claims.extra := d.claims.extra ++ [(key, v.collapse)] })).mp h
        exact ⟨d', .cons (.untyped hnone) hd', he⟩
    · rintro ⟨d', h, rfl⟩
      cases h with
      | @cons _ d₁ _ _ _ htakes hrest =>
        cases htakes with
        | @typed name _ c hseen hset =>
          rw [isTyped_text, if_pos rfl]
          refine .cons (.typed hseen ?_) (ih.mpr ⟨d', hrest, rfl⟩)
          rw [show d.typed.claims = d.claims.typed from rfl, set_typed, hset]
          rfl
        | untyped hnone =>
          rw [isTyped_eq_false_iff.mpr hnone, if_neg Bool.false_ne_true]
          have hkept := ih.mpr ⟨d', hrest, rfl⟩
          exact hkept

end Draft

section Payload

variable {payload : Bytes} {members : List (String × Json)} {c : Claims}

/-- An object has claims if its members are taken in. -/
theorem read_eq_ok_iff_of_parse (hparse : Json.parse? payload = some (.object members)) :
    read payload = .ok c ↔ ∃ d, Draft.TakesAll {} members d ∧
      c = { d.claims with extra := Dictionary.lastOfEach d.claims.extra } := by
  rw [read_eq_ok_iff]
  constructor
  · rintro ⟨members', d, hparse', htakes, hc⟩
    obtain rfl := Json.object.inj (Option.some.inj (hparse'.symm.trans hparse))
    exact ⟨d, htakes, hc⟩
  · rintro ⟨d, htakes, hc⟩
    exact ⟨members, d, hparse, htakes, hc⟩

/-- There is something wrong with an object if its members are not all taken in. -/
theorem refused_iff (hparse : Json.parse? payload = some (.object members)) :
    Refused members ↔ ¬∃ d, Draft.TakesAll {} members d := by
  rw [Draft.exists_takesAll_iff (Json.neg_of_parse? hparse)]
  constructor
  · rintro (@⟨name, hcount⟩ | @⟨name, v, hmem, hmisfit⟩) ⟨hnames, hfits⟩
    · have hone : (members.map Prod.fst).count name.text ≤ 1 := hnames name
      omega
    · exact hmisfit (hfits (name.text, v) hmem name rfl)
  · intro h
    by_contra hnone
    refine h ⟨fun name => ?_, fun m hm name hname => ?_⟩
    · show (members.map Prod.fst).count name.text ≤ 1
      by_contra hcount
      exact hnone (.repeated (Nat.lt_of_not_le hcount))
    · by_contra hmisfit
      obtain ⟨key, v⟩ := m
      obtain rfl : key = name.text := hname
      exact hnone (.misfit hm hmisfit)

/-- The untyped claims are the last values of all other names. -/
theorem get?_of_takesAll {d : Draft} (htakes : Draft.TakesAll {} members d) (key : String) :
    (Dictionary.lastOfEach d.claims.extra).lookup key =
      if isTyped key then none else (Dictionary.lastValue? key members).map Json.collapse := by
  have hextra := htakes.extra
  rw [List.nil_append] at hextra
  rw [Dictionary.lookup_lastOfEach, hextra, Dictionary.lastValue?_map_snd,
    Dictionary.lastValue?_filter_fst fun key => !isTyped key]
  cases isTyped key <;> rfl

end Payload

/-- **Accepted payloads**: let a payload be an object. It has no claims exactly if a typed claim
comes twice, or the issuer or the subject is neither a string nor null, or one of the dates is
neither null nor a number from 0 on and below `2^64`. If it has claims, the untyped ones among them
are the members of all other names, each with its last value, so that a typed claim is never found
among them; and any other payload whose members of typed claims are the same has the same typed
claims. -/
theorem payload_claims {payload : Bytes} {members : List (String × Json)}
    (hparse : Json.parse? payload = some (.object members)) :
    ((∃ fault, read payload = .error fault) ↔ Refused members) ∧
    ∀ c, read payload = .ok c →
      (∀ name : Name, c.get? name.text = none) ∧
      (∀ key, (∀ name : Name, key ≠ name.text) →
        c.get? key = (Dictionary.lastValue? key members).map Json.collapse) ∧
      (c.extra.map Prod.fst).Nodup ∧
      ∀ payload' members', Json.parse? payload' = some (.object members') →
        (members'.filter fun m => isTyped m.1) = (members.filter fun m => isTyped m.1) →
        ∃ c', read payload' = .ok c' ∧ c'.typed = c.typed := by
  refine ⟨?_, fun c hread => ?_⟩
  · have hclaims : (∃ c, read payload = .ok c) ↔ ∃ d, Draft.TakesAll {} members d := by
      constructor
      · rintro ⟨c, hread⟩
        obtain ⟨d, htakes, -⟩ := (read_eq_ok_iff_of_parse hparse).mp hread
        exact ⟨d, htakes⟩
      · rintro ⟨d, htakes⟩
        exact ⟨_, (read_eq_ok_iff_of_parse hparse).mpr ⟨d, htakes, rfl⟩⟩
    rw [refused_iff hparse, ← hclaims]
    cases read payload with
    | ok c => simp
    | error fault => simp
  · obtain ⟨d, htakes, rfl⟩ := (read_eq_ok_iff_of_parse hparse).mp hread
    refine ⟨fun name => ?_, fun key hkey => ?_, Dictionary.nodup_lastOfEach _, ?_⟩
    · exact (get?_of_takesAll htakes name.text).trans (if_pos (isTyped_text name))
    · have huntyped : ¬isTyped key = true := by
        rw [isTyped_eq_false_iff.mpr hkey]
        exact Bool.false_ne_true
      exact (get?_of_takesAll htakes key).trans (if_neg huntyped)
    · intro payload' members' hparse' hsame
      -- the members of typed claims alone are taken in for both payloads
      have htyped := Draft.takesAll_filter_iff.mpr ⟨d, htakes, rfl⟩
      rw [← hsame] at htyped
      obtain ⟨d', htakes', hd'⟩ := Draft.takesAll_filter_iff.mp htyped
      refine ⟨_, (read_eq_ok_iff_of_parse hparse').mpr ⟨d', htakes', rfl⟩, ?_⟩
      exact congrArg Draft.claims hd'

/-- Roles that are no roles and an untyped claim that comes twice are accepted, and the last value
counts; a claim of an issuer that is no text is refused. -/
theorem payload_claims_lenient :
    (∃ c, read (Utf8.bytes "\x7b\"x\":1,\"exp\":7,\"roles\":5,\"x\":[null]\x7d") = .ok c ∧
      c.get? "roles" = none ∧ c.get? "x" = some (.array [.null])) ∧
    ∃ fault, read (Utf8.bytes "\x7b\"iss\":true\x7d") = .error fault := by
  have hparse : Json.parse? (Utf8.bytes "\x7b\"x\":1,\"exp\":7,\"roles\":5,\"x\":[null]\x7d") =
      some (.object [("x", .number (.natural 1)), ("exp", .number (.natural 7)),
        ("roles", .number (.natural 5)), ("x", .array [.null])]) := by decide +kernel
  have hparse' : Json.parse? (Utf8.bytes "\x7b\"iss\":true\x7d") =
      some (.object [("iss", .bool true)]) := by decide +kernel
  have hread : (read (Utf8.bytes
      "\x7b\"x\":1,\"exp\":7,\"roles\":5,\"x\":[null]\x7d")).isOk = true := by decide +kernel
  obtain ⟨c, hc⟩ := Outcome.isOk_iff.mp hread
  obtain ⟨htyped, huntyped, -, -⟩ := (payload_claims hparse).2 c hc
  refine ⟨⟨c, hc, htyped .roles, ?_⟩, ?_⟩
  · refine (huntyped "x" fun name hname => ?_).trans rfl
    cases name <;> exact absurd hname (by decide)
  · have hissuer : (Name.issuer.text, Json.bool true) ∈ [("iss", Json.bool true)] :=
      List.mem_cons_self
    refine (payload_claims hparse').1.mpr (.misfit hissuer ?_)
    rintro (h | ⟨s, h⟩)
    · cases h
    · cases h

end Claims

end RpcGuard
